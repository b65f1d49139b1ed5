import FaultBench.Proofs.Bench.Agreement
import FaultBench.Proofs.Bench.Independence

/-!
# Every requested kind is accounted for

Whatever way a session ends, its report has one verdict on each kind that was requested, in the order
of the catalog, and none of them is on a kind for which nothing was recorded. The verdict on a kind is
the one on what its own task ended with, or on the error for which no task was started
(`OwnOutcome`). `each_kind_once` puts this together.
-/

namespace FaultBench

/-- No error of a run says that nothing was recorded. -/
theorem RunError.category_ne_missing (e : RunError) : e.category ≠ .missing := by
  cases e <;> simp [category]

namespace Bench

/-- What is recorded for the program `p` of task `i`, and why. -/
inductive OwnOutcome (oracle : Oracle) (q : Request) (ps : List Program) (turns : List Turn)
    (i : Nat) (p : Program) : Outcome → Prop
  /-- The session was cancelled before it began. -/
  | cancelled (hc : q.cancelAt = some 0) :
      OwnOutcome oracle q ps turns i p (.error (.cancelled p.kind))
  /-- The oracle is not available. -/
  | unavailable {e : RunError} (hc : q.cancelAt ≠ some 0) (ha : oracle.unavailable = some e) :
      OwnOutcome oracle q ps turns i p (.error e)
  /-- The job of the task has replied. -/
  | result {start stop : Nat} {o : Outcome} (hc : q.cancelAt ≠ some 0)
      (ha : oracle.unavailable = none)
      (he : (q.bench oracle ps turns).tasks[i]? = some (.ended (.replied start stop (.outcome o))))
      (hr : (oracle.behaviour p).reply = .outcome o) : OwnOutcome oracle q ps turns i p o
  /-- The job of the task has broken down. -/
  | brokeDown {start stop : Nat} {m : String} (hc : q.cancelAt ≠ some 0)
      (ha : oracle.unavailable = none)
      (he : (q.bench oracle ps turns).tasks[i]? = some (.ended (.replied start stop (.panic m))))
      (hr : (oracle.behaviour p).reply = .panic m) :
      OwnOutcome oracle q ps turns i p (.error (.internal p.kind (Reply.breakdown m)))
  /-- The task ended without a reply, because the bench was stopped. -/
  | stopped {e : Ending} (hc : q.cancelAt ≠ some 0) (ha : oracle.unavailable = none)
      (he : (q.bench oracle ps turns).tasks[i]? = some (.ended e))
      (hNone : ∀ start stop r, e ≠ .replied start stop r)
      (hs : (q.bench oracle ps turns).stopping = true) :
      OwnOutcome oracle q ps turns i p (.error (.cancelled p.kind))

/-- The report of a session accounts for each requested kind. -/
structure Accounted (oracle : Oracle) (q : Request) (selection : List Kind) (turns : List Turn)
    (session : Session) : Prop where
  select : q.catalog.select q.requested = .ok selection
  kinds : session.report.verdicts.map Verdict.kind = selection.map Kind.id
  nodup : (session.report.verdicts.map Verdict.kind).Nodup
  order : (session.report.verdicts.map Verdict.kind).Sublist q.catalog.ids
  mem_kinds : ∀ id, id ∈ session.report.verdicts.map Verdict.kind ↔
    id ∈ q.catalog.ids ∧ (q.requested = [] ∨ id ∈ q.requested)
  not_missing : ∀ v ∈ session.report.verdicts, v.category? ≠ some .missing
  verdict : ∀ (i : Nat) (k : Kind), selection[i]? = some k →
    ∃ p o, session.programs[i]? = some p ∧ k.synthesizeDefault = .ok p ∧
      session.report.verdicts[i]? = some (q.verifier.judge k (some o)) ∧
      OwnOutcome oracle q session.programs turns i p o

variable {rule : Rule} {oracle : Oracle} {q : Request} {selection : List Kind}
  {turns : List Turn} {session : Session}

/-- What a task ended with is its own outcome. -/
theorem ownOutcome_of_ending (hc : q.cancelAt ≠ some 0) (ha : oracle.unavailable = none)
    {ps : List Program} {i : Nat} {p : Program} {e : Ending} (hp : ps[i]? = some p)
    (he : (q.bench oracle ps turns).tasks[i]? = some (.ended e)) :
    OwnOutcome oracle q ps turns i p (e.toOutcome p.kind) := by
  have hFaithful := bench_faithful oracle q ps turns
  by_cases hReplied : ∃ start stop r, e = .replied start stop r
  · obtain ⟨start, stop, r, rfl⟩ := hReplied
    have hReply := hFaithful.reply i _ start stop r (oracle.getElem?_jobs hp) he
    cases r with
    | outcome o => exact .result hc ha he hReply.symm
    | panic m => exact .brokeDown hc ha he hReply.symm
  · have hNone : ∀ start stop r, e ≠ .replied start stop r := by simpa using hReplied
    have hStopping : (q.bench oracle ps turns).stopping = true := by
      by_contra hs
      exact hReplied (hFaithful.replied (by simpa using hs) i e he)
    have hCancelled : e.toOutcome p.kind = .error (.cancelled p.kind) := by
      cases e with
      | skipped => rfl
      | dropped start stop => rfl
      | replied start stop r => exact absurd rfl (hNone start stop r)
    rw [hCancelled]
    exact .stopped hc ha he hNone hStopping

/-- What a session records for a kind is the outcome of the kind's own task. -/
theorem Held.ownOutcome (h : Held rule oracle q selection turns session) {i : Nat} {k : Kind}
    (hk : selection[i]? = some k) :
    ∃ p o, session.programs[i]? = some p ∧ k.synthesizeDefault = .ok p ∧
      session.record.outcomes[i]? = some (k.id, o) ∧
      OwnOutcome oracle q session.programs turns i p o := by
  obtain ⟨p, hp, hSynth, hKind⟩ := h.program hk
  by_cases hc : q.cancelAt = some 0
  · refine ⟨p, .error (.cancelled p.kind), hp, hSynth, ?_, .cancelled hc⟩
    rw [hKind]
    exact h.outcome_of_cancelled hc hk
  · cases ha : oracle.unavailable with
    | some e =>
        exact ⟨p, .error e, hp, hSynth, h.outcome_of_unavailable hc ha hk, .unavailable hc ha⟩
    | none =>
        obtain ⟨p', e, hp', -, he, hOutcome, -⟩ := h.task hc ha hk
        obtain rfl := Option.some.inj (hp'.symm.trans hp)
        refine ⟨p', e.toOutcome p'.kind, hp, hSynth, ?_, ownOutcome_of_ending hc ha hp he⟩
        rw [hKind]
        exact hOutcome

theorem Held.not_missing (h : Held rule oracle q selection turns session) :
    ∀ v ∈ session.report.verdicts, v.category? ≠ some .missing := by
  intro v hv hMissing
  obtain ⟨e, -, he⟩ := (h.exists_category_iff (by simp)).mp ⟨v, hv, hMissing⟩
  exact e.category_ne_missing he

theorem Held.mem_kinds_iff (h : Held rule oracle q selection turns session) (id : KindId) :
    id ∈ session.report.verdicts.map Verdict.kind ↔
      id ∈ q.catalog.ids ∧ (q.requested = [] ∨ id ∈ q.requested) := by
  obtain ⟨-, rfl⟩ := Catalog.select_eq_ok_iff.mp h.select_eq
  rw [h.verdicts_kind, List.mem_map]
  constructor
  · rintro ⟨k, hk, rfl⟩
    obtain ⟨hMem, hRequested⟩ := Catalog.mem_wanted.mp hk
    exact ⟨List.mem_map_of_mem hMem, hRequested⟩
  · rintro ⟨hMem, hRequested⟩
    obtain ⟨k, hk, rfl⟩ := List.mem_map.mp hMem
    exact ⟨k, Catalog.mem_wanted.mpr ⟨hk, hRequested⟩, rfl⟩

theorem Held.accounted (h : Held rule oracle q selection turns session) :
    Accounted oracle q selection turns session where
  select := h.select_eq
  kinds := h.verdicts_kind
  nodup := h.verdicts_kind ▸ Catalog.select_nodup h.select_eq
  order := h.verdicts_kind ▸ (Catalog.select_sublist h.select_eq).map Kind.id
  mem_kinds := h.mem_kinds_iff
  not_missing := h.not_missing
  verdict := by
    intro i k hk
    obtain ⟨p, o, hp, hSynth, hOutcome, hOwn⟩ := h.ownOutcome hk
    exact ⟨p, o, hp, hSynth, h.verdict hk hOutcome, hOwn⟩

/-- **Every requested kind is accounted for.** Whatever turns the tasks take and whatever way the
session ends, the report has one verdict on each requested kind, in the order of the catalog, each on
the outcome of the kind's own task or on the error for which no task was started. What `run` returns
is such a session. -/
theorem each_kind_once (oracle : Oracle) (q : Request) :
    (∀ selection turns session, Held .free oracle q selection turns session →
      Accounted oracle q selection turns session) ∧
    ∀ session, run oracle q = .ok session →
      ∃ selection turns, Held .free oracle q selection turns session ∧
        Accounted oracle q selection turns session := by
  refine ⟨fun _ _ _ h => h.accounted, ?_⟩
  intro session hRun
  obtain ⟨selection, turns, h⟩ := held_of_run hRun
  exact ⟨selection, turns, h.free_of_prompt, h.accounted⟩

theorem each_kind_once_mixed :
    ∃ session selection turns, run .mixed (.builtins 2 none) = .ok session ∧
      Held .free .mixed (.builtins 2 none) selection turns session ∧
      session.report.verdicts.map Verdict.kind = FaultClass.all.map FaultClass.canonicalId := by
  obtain ⟨session, -, hRun, -⟩ := exists_held (q := .builtins 2 none) rfl mapM_builtins
    (not_breaksDown .mixed (by decide))
  obtain ⟨-, hAccounted⟩ := each_kind_once .mixed (.builtins 2 none)
  obtain ⟨selection, turns, h, hKinds⟩ := hAccounted session hRun
  obtain rfl : Kind.builtins = selection := Except.ok.inj hKinds.select
  exact ⟨session, Kind.builtins, turns, hRun, h, hKinds.kinds⟩

end Bench

end FaultBench
