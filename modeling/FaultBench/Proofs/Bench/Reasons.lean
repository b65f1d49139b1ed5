import FaultBench.Proofs.Bench.Sessions

/-!
# Why a session is aborted

The reason is taken from the errors among the outcomes (`abortReason?`), and the verdicts show the
same errors (`Held.exists_category_iff`). Whatever the exit, one and the same rule gives the reason
(`Held.aborted_eq`), if there is a kind to be run and an oracle is unavailable for a fatal error
only.
-/

namespace FaultBench

/-- What kind of error the verdict shows, if it shows one. -/
def Verdict.category? (v : Verdict) : Option ErrorCategory :=
  match v.status with
  | .error c _ => some c
  | _ => none

theorem RunError.isFatal_iff {e : RunError} : e.isFatal = true ↔ e.category = .toolUnavailable := by
  cases e <;> simp [isFatal, category]

theorem RunError.isCancelled_iff {e : RunError} :
    e.isCancelled = true ↔ e.category = .cancelled := by
  cases e <;> simp [isCancelled, category]

namespace Verifier

variable {v : Verifier} {k : Kind} {c : ErrorCategory}

/-- If the verdict on a program that ran shows an error, it is one of the signature. -/
theorem eq_signature_of_judgeRun {r : Run} (h : (v.judgeRun k r).category? = some c) :
    c = .signature := by
  unfold judgeRun at h
  dsimp only at h
  split at h
  · cases h
  · cases h
  · exact (Option.some.inj h).symm

/-- Apart from errors of the signature, a verdict shows the errors that are recorded. -/
theorem category?_judge (hc : c ≠ .signature) {o : Outcome} :
    (v.judge k (some o)).category? = some c ↔ ∃ e, o = .error e ∧ e.category = c := by
  cases o with
  | ok r =>
      constructor
      · intro h
        exact absurd (eq_signature_of_judgeRun h) hc
      · rintro ⟨e, he, -⟩
        cases he
  | error e => simp [judge, Verdict.category?]

end Verifier

namespace Bench

namespace Reply

/-- The job says that its run was cancelled. -/
def isCancelled : Reply → Bool
  | .outcome (.error e) => e.isCancelled
  | _ => false

theorem exists_of_isFatal {r : Reply} (h : r.isFatal = true) :
    ∃ e, r = .outcome (.error e) ∧ e.isFatal = true := by
  cases r with
  | panic message => cases h
  | outcome o => cases o with
    | ok run => cases h
    | error e => exact ⟨e, rfl, h⟩

theorem of_toOutcome_eq_error {id : KindId} {r : Reply} {e : RunError}
    (h : r.toOutcome id = .error e) : e.isFatal = r.isFatal ∧ e.isCancelled = r.isCancelled := by
  cases r with
  | outcome o =>
      obtain rfl : o = .error e := h
      exact ⟨rfl, rfl⟩
  | panic message =>
      cases h
      exact ⟨rfl, rfl⟩

end Reply

/-! ## The reason for outcomes -/

/-- The errors among outcomes. -/
def errors (outcomes : Outcomes) : List RunError :=
  outcomes.filterMap fun o =>
    match o.2 with
    | .error e => some e
    | .ok _ => none

theorem mem_errors {outcomes : Outcomes} {e : RunError} :
    e ∈ errors outcomes ↔ ∃ (i : Nat) (id : KindId), outcomes[i]? = some (id, .error e) := by
  constructor
  · intro h
    obtain ⟨⟨id, o⟩, hMem, ho⟩ := List.mem_filterMap.mp h
    obtain ⟨i, hi⟩ := List.mem_iff_getElem?.mp hMem
    cases o with
    | ok r => cases ho
    | error e' =>
        cases ho
        exact ⟨i, id, hi⟩
  · rintro ⟨i, id, hi⟩
    exact List.mem_filterMap.mpr ⟨_, List.mem_of_getElem? hi, rfl⟩

theorem abortReason?_eq (outcomes : Outcomes) :
    abortReason? outcomes =
      match (errors outcomes).find? RunError.isFatal with
      | some e => some e.message
      | none => if (errors outcomes).any RunError.isCancelled then some cancelledReason else none :=
  rfl

/-- The first fatal error is the reason. -/
theorem abortReason?_of_fatal {outcomes : Outcomes} {i : Nat} {id : KindId} {e : RunError}
    (hi : outcomes[i]? = some (id, .error e)) (hFatal : e.isFatal = true)
    (hFirst : ∀ (j : Nat) (id : KindId) (e : RunError), j < i →
      outcomes[j]? = some (id, .error e) → e.isFatal = false) :
    abortReason? outcomes = some e.message := by
  have hFind : (errors outcomes).find? RunError.isFatal = some e := by
    induction outcomes generalizing i with
    | nil => cases hi
    | cons o os ih =>
        cases i with
        | zero =>
            obtain rfl : o = (id, .error e) := Option.some.inj hi
            simp [errors, hFatal]
        | succ i =>
            have hRest := ih (i := i) hi fun j id e hj => hFirst (j + 1) id e (by omega)
            obtain ⟨id', o⟩ := o
            cases o with
            | ok r => simpa [errors] using hRest
            | error e' =>
                have hNot : e'.isFatal = false := hFirst 0 id' e' (by omega) rfl
                simpa [errors, hNot] using hRest
  rw [abortReason?_eq, hFind]

theorem abortReason?_of_not_fatal {outcomes : Outcomes}
    (h : ∀ e ∈ errors outcomes, e.isFatal = false) :
    abortReason? outcomes =
      if (errors outcomes).any RunError.isCancelled then some cancelledReason else none := by
  have hFind : (errors outcomes).find? RunError.isFatal = none :=
    List.find?_eq_none.mpr fun e he => by simp [h e he]
  rw [abortReason?_eq, hFind]

theorem isSome_abortReason? {outcomes : Outcomes} :
    (abortReason? outcomes).isSome = true ↔
      ∃ e ∈ errors outcomes, e.isFatal = true ∨ e.isCancelled = true := by
  by_cases hFatal : ∃ e ∈ errors outcomes, e.isFatal = true
  · obtain ⟨e, he, hError⟩ := hFatal
    have hFind : ((errors outcomes).find? RunError.isFatal).isSome = true :=
      List.find?_isSome.mpr ⟨e, he, hError⟩
    obtain ⟨first, hFirst⟩ := Option.isSome_iff_exists.mp hFind
    rw [abortReason?_eq, hFirst]
    exact iff_of_true rfl ⟨e, he, .inl hError⟩
  · have hNot : ∀ e ∈ errors outcomes, e.isFatal = false := by simpa using hFatal
    rw [abortReason?_of_not_fatal hNot]
    simp only [Option.isSome_ite, List.any_eq_true]
    constructor
    · rintro ⟨e, he, hError⟩
      exact ⟨e, he, .inr hError⟩
    · rintro ⟨e, he, hError⟩
      exact ⟨e, he, hError.resolve_left (by simp [hNot e he])⟩

/-! ## The reason of a session -/

/-- Whatever the exit, the reason is taken from the outcomes, if there are any and an oracle is
unavailable for a fatal error only. -/
theorem Executes.aborted_eq {rule : Rule} {oracle : Oracle} {q : Request} {ps : List Program}
    {turns : List Turn} {r : Record} (h : Executes rule oracle q ps turns r) (hps : ps ≠ [])
    (ha : ∀ e, oracle.unavailable = some e → e.isFatal = true) :
    r.aborted = abortReason? r.outcomes := by
  obtain ⟨p, rest, rfl⟩ := List.exists_cons_of_ne_nil hps
  cases h with
  | cancelled hc =>
      have hErrors : ∀ e ∈ errors ((p :: rest).map fun p => (p.kind, .error (.cancelled p.kind))),
          e.isFatal = false := by
        intro e he
        obtain ⟨i, id, hi⟩ := mem_errors.mp he
        rw [List.getElem?_map, Option.map_eq_some_iff] at hi
        obtain ⟨p', -, hEq⟩ := hi
        cases hEq
        rfl
      simp only [Record.unstarted]
      rw [abortReason?_of_not_fatal hErrors]
      rfl
  | @unavailable e hc hUnavailable =>
      have hFirst : (Record.unstarted true (p :: rest) (fun _ => e) e.message).outcomes[0]? =
          some (p.kind, .error e) := rfl
      refine (abortReason?_of_fatal hFirst (ha e hUnavailable) fun j id e' hj => ?_).symm
      omega
  | ended => rfl

namespace Held

variable {rule : Rule} {oracle : Oracle} {q : Request} {selection : List Kind} {turns : List Turn}
  {session : Session}

/-- Where tasks were started, the reason is taken from what is recorded of them. -/
theorem aborted_eq_abortReason? (h : Held rule oracle q selection turns session)
    (hc : q.cancelAt ≠ some 0) (ha : oracle.unavailable = none) :
    session.record.aborted = abortReason? session.record.outcomes := by
  obtain ⟨-, -, hRecord⟩ := h.record_eq hc ha
  rw [hRecord]
  rfl

/-- Whatever the exit, the reason is taken from the outcomes, if a kind is selected and the oracle
is unavailable for a fatal error only. -/
theorem aborted_eq (h : Held rule oracle q selection turns session) (hs : selection ≠ [])
    (ha : ∀ e, oracle.unavailable = some e → e.isFatal = true) :
    session.record.aborted = abortReason? session.record.outcomes := by
  cases h with
  | @mk ps r _ hp hr =>
      refine hr.aborted_eq ?_ ha
      rintro rfl
      exact hs (List.map_eq_nil_iff.mp (map_kind_of_mapM hp).symm)

/-- Each error among the outcomes is that of a selected kind. -/
theorem exists_of_mem_errors (h : Held rule oracle q selection turns session) {e : RunError}
    (he : e ∈ errors session.record.outcomes) :
    ∃ (i : Nat) (k : Kind), selection[i]? = some k ∧
      session.record.outcomes[i]? = some (k.id, .error e) := by
  obtain ⟨i, id, hi⟩ := mem_errors.mp he
  obtain ⟨k, hk, rfl⟩ := h.exists_kind hi
  exact ⟨i, k, hk, hi⟩

/-- Without a fatal reply no fatal error is recorded. -/
theorem not_fatal_of_mem_errors (h : Held rule oracle q selection turns session)
    (hc : q.cancelAt ≠ some 0) (ha : oracle.unavailable = none)
    (hr : ∀ p ∈ session.programs, (oracle.behaviour p).reply.isFatal = false) {e : RunError}
    (he : e ∈ errors session.record.outcomes) : e.isFatal = false := by
  obtain ⟨i, id, hi⟩ := mem_errors.mp he
  obtain ⟨p, ending, hp, hb, hEnded, hError⟩ := h.task_of_outcome hc ha hi
  cases ending with
  | skipped => cases hError; rfl
  | dropped start stop => cases hError; rfl
  | replied start stop r =>
      have hFaithful := bench_faithful oracle q session.programs turns
      obtain rfl := hFaithful.reply i _ start stop r hb hEnded
      exact (Reply.of_toOutcome_eq_error hError.symm).1.trans (hr p (List.mem_of_getElem? hp))

/-- Apart from errors of the signature, the verdicts show the errors that are recorded. -/
theorem exists_category_iff (h : Held rule oracle q selection turns session) {c : ErrorCategory}
    (hc : c ≠ .signature) :
    (∃ v ∈ session.report.verdicts, v.category? = some c) ↔
      ∃ e ∈ errors session.record.outcomes, e.category = c := by
  constructor
  · rintro ⟨v, hv, hCategory⟩
    obtain ⟨i, hi⟩ := List.mem_iff_getElem?.mp hv
    obtain ⟨k, o, -, ho, rfl⟩ := h.exists_outcome hi
    obtain ⟨e, rfl, he⟩ := (Verifier.category?_judge hc).mp hCategory
    exact ⟨e, mem_errors.mpr ⟨i, k.id, ho⟩, he⟩
  · rintro ⟨e, he, hCategory⟩
    obtain ⟨i, k, hk, hi⟩ := h.exists_of_mem_errors he
    refine ⟨_, List.mem_of_getElem? (h.verdict hk hi), ?_⟩
    exact (Verifier.category?_judge hc).mpr ⟨e, rfl, hCategory⟩

end Held

end Bench

end FaultBench
