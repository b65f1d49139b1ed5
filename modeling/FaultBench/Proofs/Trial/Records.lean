import FaultBench.Proofs.Fallible
import FaultBench.Trial

/-!
# Records of trials

A record tells of an event if it has a field for one. A step of a trial is quiet if the log has no
such record after it, where it had none before. Each step of a trial is, and so is the trial,
however far it gets: `quiet_ofProgram`.
-/

namespace FaultBench

/-- The record tells of an event. -/
def LogRecord.isEvent (r : LogRecord) : Bool := (r.fields.lookup "event").isSome

theorem LogRecord.isEvent_ofMessage {level : Level} {source : LogSource} {message : String}
    {values : List (String × Datum)} (h : "event" ∉ values.map Prod.fst) :
    (ofMessage level source message values).isEvent = false := by
  rw [isEvent, Option.isSome_eq_false_iff, Option.isNone_iff_eq_none, List.lookup_eq_none_iff]
  rintro ⟨name, value⟩ hMem
  rw [bne_iff_ne]
  rintro rfl
  rcases List.mem_cons.mp hMem with hHead | hTail
  · simp at hHead
  · exact h (List.mem_map.mpr ⟨_, hTail, rfl⟩)

/-- None of the records tells of an event. -/
def QuietLog (log : List LogRecord) : Prop := ∀ r ∈ log, r.isEvent = false

namespace QuietLog

variable {xs ys : List LogRecord}

@[simp] theorem nil : QuietLog [] := List.forall_mem_nil _

theorem append (hx : QuietLog xs) (hy : QuietLog ys) : QuietLog (xs ++ ys) :=
  List.forall_mem_append.mpr ⟨hx, hy⟩

theorem map {α : Type} {f : α → LogRecord} (h : ∀ a, (f a).isEvent = false) (as : List α) :
    QuietLog (as.map f) :=
  List.forall_mem_map.mpr fun a _ => h a

theorem singleton {r : LogRecord} (h : r.isEvent = false) : QuietLog [r] :=
  List.forall_mem_singleton.mpr h

theorem filter_eq_nil (h : QuietLog xs) : xs.filter LogRecord.isEvent = [] := by
  rw [List.filter_eq_nil_iff]
  intro r hr
  rw [h r hr]
  exact Bool.false_ne_true

end QuietLog

namespace Trial

variable {α β : Type} {t : Trial}

/-- A step that logs no event. -/
def Step.Quiet (m : Step α) : Prop :=
  ∀ t : Trial, QuietLog t.log → QuietLog (m.run.run t).2.log

/-! ## Steps that make up others -/

theorem quiet_pure (a : α) : Step.Quiet (pure a) := fun _ ht => ht

theorem quiet_throw (e : RunError) : Step.Quiet (throw e : Step α) := fun _ ht => ht

theorem quiet_demand (r : Except RunError α) : (demand r).Quiet := by
  cases r with
  | ok a => exact quiet_pure a
  | error e => exact quiet_throw e

theorem quiet_set (h : QuietLog t.log) : Step.Quiet (set t) := fun _ _ => h

theorem quiet_note {r : LogRecord} (h : r.isEvent = false) : (note r).Quiet :=
  fun _ ht => ht.append (.singleton h)

theorem Step.Quiet.bind {m : Step α} {f : α → Step β} (hm : m.Quiet) (hf : ∀ a, (f a).Quiet) :
    Step.Quiet (m >>= f) := by
  intro t ht
  have hFirst := hm t ht
  rw [run_bind]
  cases hRun : m.run.run t with
  | mk result t' =>
      rw [hRun] at hFirst
      cases result with
      | ok a => exact hf a t' hFirst
      | error e => exact hFirst

/-- What a step goes on from is what was logged before it. -/
theorem quiet_get_bind {f : Trial → Step β} (hf : ∀ t : Trial, QuietLog t.log → (f t).Quiet) :
    Step.Quiet (get >>= f) :=
  fun t ht => hf t ht t ht

/-! ## The steps of a trial -/

theorem quiet_onFiles (wrap : IoError → RunError) (a : File.Action α) : (onFiles wrap a).Quiet := by
  refine quiet_get_bind fun t ht => ?_
  cases a.run.run t.host.tree with
  | mk result tree =>
      refine .bind (quiet_set ?_) fun _ => quiet_demand _
      exact ht

theorem quiet_createWorkspace (kind : KindId) : (createWorkspace kind).Quiet :=
  quiet_get_bind fun _ _ => (quiet_onFiles _ _).bind fun _ =>
    (quiet_note (LogRecord.isEvent_ofMessage (by simp))).bind fun _ => quiet_pure _

theorem quiet_start (kind : KindId) (i : Invocation) (limitMs : Nat) {record : Trial → Trial}
    (hRecord : ∀ t, (record t).log = t.log) : (start kind i limitMs record).Quiet := by
  refine quiet_get_bind fun t ht => ?_
  cases t.host.run i (some limitMs) with
  | error e => exact quiet_throw _
  | ok r =>
      refine .bind (quiet_set ?_) fun _ => quiet_pure _
      rw [hRecord]
      exact ht

theorem quiet_compile (c : Toolchain) (compiler : String) (p : Program) (workspace : String) :
    (compile c compiler p workspace).Quiet := by
  refine quiet_get_bind fun t _ => (quiet_start _ _ _ ?_).bind fun a => ?_
  · exact fun _ => rfl
  cases a with
  | none => exact quiet_throw _
  | some a =>
      dsimp only
      split
      · exact quiet_pure _
      · exact (quiet_note (LogRecord.isEvent_ofMessage (by simp))).bind fun _ => quiet_throw _

theorem quiet_build (c : Toolchain) (tools : Tools) (p : Program) (workspace : String) :
    (build c tools p workspace).Quiet :=
  (quiet_onFiles _ _).bind fun _ => quiet_compile c tools.compiler p workspace

theorem quiet_execute (c : Toolchain) (tools : Tools) (p : Program) (workspace : String) :
    (execute c tools p workspace).Quiet := by
  refine quiet_get_bind fun t _ => (quiet_start _ _ _ ?_).bind fun a => ?_
  · exact fun _ => rfl
  cases a with
  | none => exact (quiet_note (LogRecord.isEvent_ofMessage (by simp))).bind fun _ => quiet_throw _
  | some a => exact quiet_pure _

theorem quiet_inWorkspace (c : Toolchain) (tools : Tools) (p : Program) (workspace : String) :
    (inWorkspace c tools p workspace).Quiet :=
  (quiet_build c tools p workspace).bind fun _ => (quiet_execute c tools p workspace).bind fun _ =>
    (quiet_note (LogRecord.isEvent_ofMessage (by simp))).bind fun _ => quiet_pure _

theorem quiet_steps (c : Toolchain) (p : Program) : (steps c p).Quiet := by
  refine quiet_get_bind fun _ _ => (quiet_demand _).bind fun tools =>
    (quiet_createWorkspace p.kind).bind fun workspace => quiet_get_bind fun t ht => ?_
  -- What is done in the workspace is kept when the workspace is removed, also where it failed.
  have hDone := quiet_inWorkspace c tools p workspace t ht
  cases hRun : (inWorkspace c tools p workspace).run.run t with
  | mk result t' =>
      rw [hRun] at hDone
      refine .bind (quiet_set ?_) fun _ => quiet_demand _
      exact hDone

/-- However far a trial gets, it logs no event. -/
theorem quiet_ofProgram (c : Toolchain) (h : Host) (p : Program) :
    QuietLog (ofProgram c h p).2.log :=
  quiet_steps c p ⟨h, 0, none, none, []⟩ .nil

end Trial

end FaultBench
