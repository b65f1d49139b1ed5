import FaultBench.CommandLine.Tasks
import FaultBench.Proofs.Fallible

/-!
# Steps of tasks

What the steps do that tasks are made of. A task that has ended well has taken each of its steps
(`run_bind_eq_ok_iff`), and what none of them changes is as it was before (`Keeps`).
-/

namespace FaultBench.CommandLine

open TaskM

variable {α β γ : Type} {p p' : Progress} {a : α}

theorem run_demand_eq_ok_iff {wrap : SetupError → Failure} {x : Except SetupError α} :
    (demand wrap x).run.run p = (.ok a, p') ↔ x = .ok a ∧ p' = p := by
  cases x with
  | ok b => exact run_pure_eq_ok_iff.trans (by simp)
  | error e => exact run_pure_eq_ok_iff.trans (by simp)

theorem run_onFiles_ok {wrap : IoError → Failure} {action : File.Action α}
    (h : (onFiles wrap action).run.run p = (.ok a, p')) :
    action.run.run p.host.tree = (.ok a, p'.host.tree) := by
  unfold onFiles at h
  rw [run_get_bind] at h
  dsimp only at h
  cases hRun : action.run.run p.host.tree with
  | mk result tree =>
      rw [hRun] at h
      cases result with
      | ok b =>
          cases h
          rfl
      | error e => cases h

/-! ## What steps keep -/

/-- However the task ends, `view` shows the same of the progress as before. -/
def Keeps (view : Progress → β) (m : TaskM α) : Prop :=
  ∀ p, view (m.run.run p).2 = view p

namespace Keeps

variable {view : Progress → β} {m : TaskM α} {f : α → TaskM γ}

theorem pure (a : α) : Keeps view (Pure.pure a) := fun _ => rfl

theorem throw (e : Failure) : Keeps view (MonadExcept.throw e : TaskM α) := fun _ => rfl

theorem get : Keeps view (MonadState.get : TaskM Progress) := fun _ => rfl

theorem bind (hm : Keeps view m) (hf : ∀ a, Keeps view (f a)) : Keeps view (m >>= f) := by
  intro p
  rw [run_bind]
  have hp := hm p
  cases hRun : m.run.run p with
  | mk r p' =>
      rw [hRun] at hp
      cases r with
      | ok a => exact (hf a p').trans hp
      | error e => exact hp

theorem demand (wrap : SetupError → Failure) (x : Except SetupError α) :
    Keeps view (TaskM.demand wrap x) := by
  cases x with
  | ok a => exact .pure a
  | error e => exact .throw (wrap e)

theorem forM {xs : List γ} {f : γ → TaskM PUnit} (h : ∀ x, Keeps view (f x)) :
    Keeps view (xs.forM f) := by
  induction xs with
  | nil => exact .pure ()
  | cons x xs ih => exact .bind (h x) fun _ => ih

theorem ok (h : Keeps view m) (hRun : m.run.run p = (.ok a, p')) : view p' = view p := by
  have hp := h p
  rwa [hRun] at hp

end Keeps

theorem keeps_print (text : String) : Keeps Progress.host (print text) := fun _ => rfl

theorem keeps_onFiles {wrap : IoError → Failure} {action : File.Action α} :
    Keeps Progress.stdout (onFiles wrap action) := by
  intro p
  unfold onFiles
  rw [run_get_bind]
  dsimp only
  cases action.run.run p.host.tree with
  | mk result tree => cases result <;> rfl

theorem keeps_note {view : Progress → β} (h : ∀ p log, view { p with log := log } = view p)
    (rs : List LogRecord) : Keeps view (note rs) := fun p => h p _

/-! ## Steps that only log -/

section

variable {view : Progress → β} (h : ∀ p log, view { p with log := log } = view p)

include h

theorem keeps_loadConfig (path : Option String) : Keeps view (loadConfig path) := by
  cases path with
  | none => exact .pure _
  | some path =>
      refine .bind .get fun p => .bind (.demand _ _) fun c => ?_
      exact .bind (keeps_note h _) fun _ => .pure c

theorem keeps_loadCatalog (c : Config) : Keeps view (loadCatalog c) :=
  .bind (keeps_note h _) fun _ => .demand _ _

theorem keeps_synthesizeAll (wrap : SetupError → Failure) (ks : List Kind) :
    Keeps view (synthesizeAll wrap ks) :=
  .bind (keeps_note h _) fun _ => .demand _ _

end

/-- Programs that are written for kinds are those of the kinds, in their order. -/
theorem programs_of_synthesizeAll {wrap : SetupError → Failure} {ks : List Kind} {ps : List Program}
    (h : (synthesizeAll wrap ks).run.run p = (.ok ps, p')) :
    ks.mapM Kind.synthesizeDefault = .ok ps := by
  obtain ⟨-, p₁, -, hDemand⟩ := run_bind_eq_ok_iff.mp h
  have hAll := (run_demand_eq_ok_iff.mp hDemand).1
  rw [mapM_eq_ok_iff, List.map_id] at hAll
  exact mapM_eq_ok_iff.mpr hAll

end FaultBench.CommandLine
