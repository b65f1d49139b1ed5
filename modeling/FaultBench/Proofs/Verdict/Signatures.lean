import FaultBench.Proofs.Bench.Agreement
import FaultBench.Proofs.Catalog.Registry

/-!
# Errors of signatures

A verdict is an error of the signature if a program ran and the pattern of its kind was to be read
and cannot be (`Verifier.category?_judge_signature`). The signatures of a catalog were looked at
when they were registered, so this happens only where all of them are taken for patterns, and then
exactly for the kinds whose texts are no patterns. `signature_errors` says so of all ways to
verdicts.
-/

namespace FaultBench

/-- The text of the signature is the written form of no pattern. -/
def Signature.Unreadable (s : Signature) : Prop :=
  ∃ flaw, Pattern.read s.pattern.toList = .error flaw

/-- A signature that is looked for as a pattern is one, if nothing is wrong with it. -/
theorem Signature.readable_of_flaw? {s : Signature} (h : s.flaw? = none) (hMode : s.mode = .regex) :
    ¬ s.Unreadable := by
  rintro ⟨flaw, hRead⟩
  unfold flaw? at h
  split at h
  · cases h
  · simp [hMode, hRead] at h

theorem RunError.category_ne_signature (e : RunError) : e.category ≠ .signature := by
  cases e <;> simp [category]

/-- Looking for a text fails exactly if it is to be read as a pattern and is none. -/
theorem MatchMode.exists_find_error_iff {mode : MatchMode} {s : Signature} (text : List Char) :
    (∃ flaw, mode.find s.pattern.toList text = .error flaw) ↔ mode = .regex ∧ s.Unreadable := by
  cases mode with
  | substring => simp [find]
  | regex =>
      unfold find Signature.Unreadable
      cases Pattern.read s.pattern.toList <;> simp [Except.map]

namespace Verifier

variable {v : Verifier} {k : Kind}

/-- The verdict on a program that ran is an error if its signature cannot be looked for. -/
theorem category?_judgeRun {r : Run} : (v.judgeRun k r).category? = some .signature ↔
    v.override.getD k.signature.mode = .regex ∧ k.signature.Unreadable := by
  rw [← MatchMode.exists_find_error_iff r.diagnosticText]
  unfold judgeRun
  dsimp only [blank]
  cases (v.override.getD k.signature.mode).find k.signature.pattern.toList r.diagnosticText with
  | error flaw => simp [Verdict.category?]
  | ok place => cases place <;> simp [Verdict.category?]

theorem category?_judge_signature {o : Option Outcome} :
    (v.judge k o).category? = some .signature ↔
      v.override.getD k.signature.mode = .regex ∧ (∃ r, o = some (.ok r)) ∧
        k.signature.Unreadable := by
  cases o with
  | none => simp [judge, Verdict.category?]
  | some o => cases o with
    | error e => simp [judge, Verdict.category?, e.category_ne_signature]
    | ok r => simp [judge, category?_judgeRun]

/-- Of a signature without a flaw, the verdict is such an error only if signatures are taken for
patterns. -/
theorem category?_judge_of_flaw? (h : k.signature.flaw? = none) {o : Option Outcome} :
    (v.judge k o).category? = some .signature ↔
      v.override = some .regex ∧ (∃ r, o = some (.ok r)) ∧ k.signature.Unreadable := by
  rw [category?_judge_signature]
  cases hOverride : v.override with
  | some mode => simp
  | none =>
      refine iff_of_false ?_ (by simp)
      rintro ⟨hMode, -, hUnreadable⟩
      exact Signature.readable_of_flaw? h hMode hUnreadable

end Verifier

/-- Which of the verdicts on kinds are errors of the signature. -/
structure SignatureErrors (v : Verifier) (ks : List Kind) (outcomes : Outcomes)
    (ws : List Verdict) : Prop where
  /-- There are none unless all signatures are taken for patterns. -/
  never : v.override ≠ some .regex → ∀ w ∈ ws, w.category? ≠ some .signature
  /-- Else they are those on kinds that ran and whose signatures are no patterns. -/
  exactly : v.override = some .regex → List.Forall₂ (fun k w => w.kind = k.id ∧
    (w.category? = some .signature ↔
      (∃ r, outcomes.lookup k.id = some (.ok r)) ∧ k.signature.Unreadable)) ks ws

/-- Verdicts on kinds whose signatures have no flaw. -/
theorem SignatureErrors.verdicts {v : Verifier} {ks : List Kind} (outcomes : Outcomes)
    (h : ∀ k ∈ ks, k.signature.flaw? = none) :
    SignatureErrors v ks outcomes (v.verdicts ks outcomes) where
  never hOverride w hw := by
    obtain ⟨k, hk, rfl⟩ := List.mem_map.mp hw
    rw [Ne, Verifier.category?_judge_of_flaw? (h k hk)]
    exact fun hError => hOverride hError.1
  exactly hOverride := by
    rw [Verifier.verdicts, List.forall₂_map_right_iff, List.forall₂_same]
    intro k hk
    refine ⟨v.judge_kind k _, ?_⟩
    rw [Verifier.category?_judge_of_flaw? (h k hk)]
    exact and_iff_right hOverride

namespace Bench

/-- **Errors of signatures.** Whatever history a catalog has, and whatever is requested and
recorded, the verdicts on its kinds are errors of the signature only if all signatures are taken
for patterns, and then on the kinds that ran and whose signatures are no patterns. This is so for a
selection of its kinds, for a report on requested kinds and for each session. -/
theorem signature_errors {r : Registry} (hr : r.Reachable) (v : Verifier) :
    (∀ head ks outcomes aborted, (∀ k ∈ ks, k ∈ r.kinds) →
      SignatureErrors v ks outcomes (v.verifySelection head ks outcomes aborted).verdicts) ∧
    (∀ c : Catalog, r.Agrees c →
      (∀ head requested outcomes, SignatureErrors v (c.wanted requested) outcomes
        (v.verify head c requested outcomes).verdicts) ∧
      (∀ oracle q selection turns session, q.catalog = c → q.verifier = v →
        Held .free oracle q selection turns session →
        SignatureErrors v selection session.record.outcomes session.report.verdicts) ∧
      ∀ oracle q session, q.catalog = c → q.verifier = v → run oracle q = .ok session →
        SignatureErrors v (c.wanted q.requested) session.record.outcomes
          session.report.verdicts) := by
  have hSound : ∀ k ∈ r.kinds, k.signature.flaw? = none := hr.lawful.sound
  have hSelection : ∀ ks outcomes, (∀ k ∈ ks, k ∈ r.kinds) →
      SignatureErrors v ks outcomes (v.verdicts ks outcomes) := fun ks outcomes hks =>
    .verdicts outcomes fun k hk => hSound k (hks k hk)
  refine ⟨fun head ks outcomes aborted => hSelection ks outcomes, fun c hAgrees => ?_⟩
  have hMem : ∀ k ∈ c.kinds, k ∈ r.kinds := by
    intro k hk
    rwa [← Array.mem_toList_iff, hAgrees.kinds]
  have hWanted : ∀ requested, ∀ k ∈ c.wanted requested, k ∈ r.kinds := fun requested k hk =>
    hMem k (Catalog.mem_wanted.mp hk).1
  have hHeld : ∀ {oracle : Oracle} {q : Request} {selection turns session}, q.catalog = c →
      q.verifier = v → Held .free oracle q selection turns session →
      SignatureErrors v selection session.record.outcomes session.report.verdicts := by
    rintro oracle q selection turns session rfl rfl h
    obtain ⟨-, rfl⟩ := Catalog.select_eq_ok_iff.mp h.select_eq
    rw [h.report_verdicts]
    exact hSelection _ _ (hWanted q.requested)
  refine ⟨fun head requested outcomes => hSelection _ _ (hWanted requested),
    fun oracle q selection turns session hc hv h => hHeld hc hv h, ?_⟩
  intro oracle q session hc hv hRun
  obtain ⟨selection, turns, h⟩ := held_of_run hRun
  obtain ⟨-, rfl⟩ := Catalog.select_eq_ok_iff.mp h.select_eq
  rw [← hc]
  exact hHeld hc hv h.free_of_prompt

/-- A kind whose text is no pattern, and need not be one. -/
def openGroup : Kind :=
  .ofClass ⟨"open-group", by decide, List.all_eq_true.1 rfl⟩ .leak ⟨"(lost", .substring⟩

/-- The program of the kind ran and said nothing. -/
def silentOutcomes : Outcomes :=
  [(openGroup.id, .ok ⟨openGroup.program, some 0, none, "", "", "", 1, false⟩)]

theorem signature_errors_openGroup :
    ∃ r : Registry, r.Reachable ∧ (∀ k ∈ [openGroup], k ∈ r.kinds) ∧
      openGroup.signature.Unreadable ∧
      (∀ w ∈ Verifier.verdicts {} [openGroup] silentOutcomes, w.category? ≠ some .signature) ∧
      ∃ w ∈ Verifier.verdicts ⟨some .regex⟩ [openGroup] silentOutcomes,
        w.category? = some .signature := by
  have hReachable : (Registry.empty.push openGroup).Reachable := by
    have hAttempt : Registry.empty.attempt openGroup = (.ok (), Registry.empty.push openGroup) :=
      Registry.attempt_of_free (by simp [Registry.empty]) (by decide)
    have h := Registry.Reachable.empty.attempt openGroup
    rwa [hAttempt] at h
  have hMem : ∀ k ∈ [openGroup], k ∈ (Registry.empty.push openGroup).kinds := by
    simp [Registry.push]
  have hUnreadable : openGroup.signature.Unreadable := ⟨.groupUnclosed, rfl⟩
  have hRan : ∃ r, silentOutcomes.lookup openGroup.id = some (.ok r) := ⟨_, rfl⟩
  let head := (Request.builtins 1 none).head
  obtain ⟨hOwn, -⟩ := signature_errors hReachable {}
  obtain ⟨hPattern, -⟩ := signature_errors hReachable ⟨some .regex⟩
  refine ⟨_, hReachable, hMem, hUnreadable,
    (hOwn head [openGroup] silentOutcomes none hMem).never (by simp), ?_⟩
  have hExactly := (hPattern head [openGroup] silentOutcomes none hMem).exactly rfl
  cases hExactly with
  | cons hw _ => exact ⟨_, List.mem_cons_self, hw.2.mpr ⟨hRan, hUnreadable⟩⟩

end Bench

end FaultBench
