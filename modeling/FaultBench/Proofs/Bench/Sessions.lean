import FaultBench.Bench.Session
import FaultBench.Proofs.Bench.Completion
import FaultBench.Proofs.Catalog.Selection
import FaultBench.Proofs.Program.Ranges

/-!
# Sessions under a rule

`Bench.run` polls tasks in one order. `Held` is the relation between a request and all the sessions
that it can lead to under a rule: the tasks take any turns by the rule until they have ended, unless
the session is cancelled before it begins or the oracle is not available. It puts no bound on the
permits, so that it speaks of more sessions than can be held.

* `exists_scheduled`, `exists_held`, `held_of_run`: where selection and synthesis succeed and the
  session does not break down, `run` returns one of them, and that by the rule of its scheduler and
  so by the one of a virtual clock.
* `run_of_breaksDown`: a session that would start tasks on too many permits breaks down.
* `Held.outcomes_fst`, `Held.verdicts_eq`: whatever the exit, one outcome is recorded for each
  selected kind, in their order, and the verdict on a kind is the one on its own outcome.
* `Held.task`: where tasks were started, that outcome is what the task of the kind ended with.
-/

namespace FaultBench

/-! ## Lists of outcomes and of programs -/

theorem lookup_of_mem {α β : Type} [BEq α] [LawfulBEq α] {xs : List (α × β)} {a : α} {b : β}
    (hNodup : (xs.map Prod.fst).Nodup) (h : (a, b) ∈ xs) : xs.lookup a = some b := by
  induction xs with
  | nil => cases h
  | cons x xs ih =>
      rw [List.map_cons, List.nodup_cons] at hNodup
      rw [List.lookup_cons]
      rcases List.mem_cons.mp h with rfl | hMem
      · simp
      · have hNe : a ≠ x.1 := by
          rintro rfl
          exact hNodup.1 (List.mem_map.mpr ⟨_, hMem, rfl⟩)
        rw [beq_false_of_ne hNe]
        exact ih hNodup.2 hMem

theorem getElem?_filterMap_of_isSome {α β : Type} {f : α → Option β} {xs : List α}
    (h : ∀ x ∈ xs, (f x).isSome = true) (i : Nat) :
    (xs.filterMap f)[i]? = xs[i]?.bind f := by
  induction xs generalizing i with
  | nil => simp
  | cons x xs ih =>
      obtain ⟨y, hy⟩ := Option.isSome_iff_exists.mp (h x List.mem_cons_self)
      rw [List.filterMap_cons_some hy]
      cases i with
      | zero => simp [hy]
      | succ i => simpa using ih (fun z hz => h z (List.mem_cons_of_mem x hz)) i

theorem map_kind_of_mapM {ks : List Kind} {ps : List Program}
    (h : ks.mapM Kind.synthesizeDefault = .ok ps) : ps.map Program.kind = ks.map Kind.id := by
  rw [mapM_eq_ok_iff] at h
  induction ks generalizing ps with
  | nil => rw [List.map_eq_nil_iff.mp h.symm, List.map_nil, List.map_nil]
  | cons k ks ih =>
      cases ps with
      | nil => cases h
      | cons p ps =>
          rw [List.map_cons, List.map_cons, List.cons.injEq] at h
          rw [List.map_cons, List.map_cons, Kind.kind_of_synthesizeDefault h.1, ih h.2]

/-- The program of a kind for the variant that it has by default, if nothing is wrong with that. -/
def Kind.program (k : Kind) : Program :=
  .ofSource k.id k.faultClass k.variant (Synthesis.source k k.variant).text

/-- Kinds with possible variants have their programs written. -/
theorem mapM_synthesizeDefault {ks : List Kind}
    (h : ∀ k ∈ ks, k.variant.flaw? k.faultClass = none) :
    ks.mapM Kind.synthesizeDefault = .ok (ks.map Kind.program) := by
  rw [mapM_eq_ok_iff, List.map_map]
  refine List.map_congr_left fun k hk => ?_
  simp only [Kind.synthesizeDefault, Kind.synthesize, h k hk, Kind.program, Function.comp_apply]

namespace Bench

/-! ## All sessions of a request -/

/-- The jobs that the programs are for an oracle. -/
def Oracle.jobs (oracle : Oracle) (ps : List Program) : List Behaviour := ps.map oracle.behaviour

theorem Oracle.getElem?_jobs (oracle : Oracle) {ps : List Program} {i : Nat} {p : Program}
    (hp : ps[i]? = some p) : (oracle.jobs ps)[i]? = some (oracle.behaviour p) := by
  simp [jobs, hp]

/-- The bench of a session before any turn. -/
def Request.opening (q : Request) (ps : List Program) : State := .initial q.permits ps.length

/-- The bench of a session after the given turns. -/
def Request.bench (q : Request) (oracle : Oracle) (ps : List Program) (turns : List Turn) : State :=
  (q.opening ps).course (oracle.jobs ps) turns

theorem Request.bench_append (q : Request) (oracle : Oracle) (ps : List Program)
    (ts us : List Turn) :
    q.bench oracle ps (ts ++ us) = (q.bench oracle ps ts).course (oracle.jobs ps) us :=
  State.course_append ..

/-- What can be recorded of the programs of a session. -/
inductive Executes (rule : Rule) (oracle : Oracle) (q : Request) (ps : List Program) :
    List Turn → Record → Prop
  | cancelled (hc : q.cancelAt = some 0) :
      Executes rule oracle q ps []
        (.unstarted false ps (fun p => .cancelled p.kind) cancelledReason)
  | unavailable {e : RunError} (hc : q.cancelAt ≠ some 0) (ha : oracle.unavailable = some e) :
      Executes rule oracle q ps [] (.unstarted true ps (fun _ => e) e.message)
  | ended {turns : List Turn} (hc : q.cancelAt ≠ some 0) (ha : oracle.unavailable = none)
      (hf : Follows rule (oracle.jobs ps) q.cancelAt (q.opening ps) turns)
      (hd : (q.bench oracle ps turns).isDone = true) :
      Executes rule oracle q ps turns (.ofState ps (q.bench oracle ps turns))

/-- A session on the selection can be held by the given turns. -/
inductive Held (rule : Rule) (oracle : Oracle) (q : Request) (selection : List Kind)
    (turns : List Turn) : Session → Prop
  | mk {ps : List Program} {r : Record} (hs : q.catalog.select q.requested = .ok selection)
      (hp : selection.mapM Kind.synthesizeDefault = .ok ps)
      (hr : Executes rule oracle q ps turns r) :
      Held rule oracle q selection turns (q.conclude selection ps r)

variable {rule : Rule} {oracle : Oracle} {q : Request} {selection : List Kind} {ps : List Program}
  {turns : List Turn} {session : Session} {r : Record}

theorem Request.opening_eq (q : Request) (oracle : Oracle) (ps : List Program) :
    q.opening ps = .initial q.permits (oracle.jobs ps).length := by
  rw [opening, Oracle.jobs, List.length_map]

theorem Request.permits_pos (q : Request) : 0 < q.permits := by
  unfold permits
  omega

theorem opening_sound (oracle : Oracle) (q : Request) (ps : List Program) :
    Sound (oracle.jobs ps) q.permits (q.opening ps) :=
  q.opening_eq oracle ps ▸ .initial (oracle.jobs ps) q.permits

theorem bench_sound (oracle : Oracle) (q : Request) (ps : List Program) (turns : List Turn) :
    Sound (oracle.jobs ps) q.permits (q.bench oracle ps turns) :=
  (opening_sound oracle q ps).course turns

theorem bench_faithful (oracle : Oracle) (q : Request) (ps : List Program) (turns : List Turn) :
    Faithful (oracle.jobs ps) (q.bench oracle ps turns) :=
  .course (opening_sound oracle q ps) (.initial q.permits ps.length) turns

theorem bench_aborted_eq_false (q : Request) (turns : List Turn)
    (hr : ∀ p ∈ ps, (oracle.behaviour p).reply.isFatal = false) :
    (q.bench oracle ps turns).aborted = false :=
  (bench_faithful oracle q ps turns).aborted_eq_false (bench_sound oracle q ps turns)
    (by simpa [Oracle.jobs] using hr)

/-- The session would set up a bench with more permits than there can be. -/
structure BreaksDown (oracle : Oracle) (q : Request) : Prop where
  started : q.cancelAt ≠ some 0
  available : oracle.unavailable = none
  permits : maxPermits < q.parallelism

theorem not_breaksDown (oracle : Oracle) (h : q.parallelism ≤ maxPermits) :
    ¬ BreaksDown oracle q :=
  fun hBreaks => absurd hBreaks.permits (Nat.not_lt.mpr h)

theorem Request.maxPermits_lt_permits (q : Request) :
    maxPermits < q.permits ↔ maxPermits < q.parallelism := by
  have hPos : 1 ≤ maxPermits := by decide
  unfold permits
  omega

/-- `execute` fails exactly where the session breaks down. -/
theorem execute_eq_error_iff {f : NoReport} :
    execute oracle q ps = .error f ↔ BreaksDown oracle q ∧ .panic tooManyPermits = f := by
  unfold execute
  split
  next hc =>
    constructor
    · intro h
      cases h
    · exact fun h => absurd hc h.1.started
  next hc =>
    split
    next e ha =>
      constructor
      · intro h
        cases h
      · rintro ⟨hBreaks, -⟩
        cases ha.symm.trans hBreaks.available
    next ha =>
      split
      next hMany =>
        have hBreaks : BreaksDown oracle q := ⟨hc, ha, q.maxPermits_lt_permits.mp hMany⟩
        rw [Except.error.injEq]
        exact (and_iff_right hBreaks).symm
      next hFew =>
        constructor
        · intro h
          cases h
        · exact fun h => absurd (q.maxPermits_lt_permits.mpr h.1.permits) hFew

/-- The scheduler leads a bench to its end, whatever the number of its permits. -/
theorem exists_ended (ps : List Program) (hc : q.cancelAt ≠ some 0)
    (ha : oracle.unavailable = none) : ∃ turns, Executes .scheduled oracle q ps turns
      (.ofState ps (.ofJobs (oracle.jobs ps) q.permits q.cancelAt)) := by
  obtain ⟨turns, hFollows, hCourse, hDone⟩ :=
    State.ofJobs_course (oracle.jobs ps) q.permits_pos q.cancelAt
  rw [← q.opening_eq] at hFollows hCourse
  have hBench : q.bench oracle ps turns = .ofJobs (oracle.jobs ps) q.permits q.cancelAt :=
    hCourse
  exact ⟨turns, hBench ▸ .ended hc ha hFollows (hBench ▸ hDone)⟩

/-- What `execute` records can be recorded by the rule of the scheduler. -/
theorem executes_of_execute (h : execute oracle q ps = .ok r) :
    ∃ turns, Executes .scheduled oracle q ps turns r := by
  unfold execute at h
  split at h
  next hc =>
    cases h
    exact ⟨[], .cancelled hc⟩
  next hc =>
    split at h
    next e ha =>
      cases h
      exact ⟨[], .unavailable hc ha⟩
    next ha =>
      split at h
      next => cases h
      next =>
        cases h
        exact exists_ended ps hc ha

theorem Executes.mono {other : Rule}
    (hRule : ∀ jobs cancelAt s t, rule jobs cancelAt s t → other jobs cancelAt s t)
    (h : Executes rule oracle q ps turns r) : Executes other oracle q ps turns r := by
  cases h with
  | cancelled hc => exact .cancelled hc
  | unavailable hc ha => exact .unavailable hc ha
  | ended hc ha hf hd => exact .ended hc ha (hf.mono (hRule _ _)) hd

theorem Held.mono {other : Rule}
    (hRule : ∀ jobs cancelAt s t, rule jobs cancelAt s t → other jobs cancelAt s t)
    (h : Held rule oracle q selection turns session) :
    Held other oracle q selection turns session := by
  cases h with
  | mk hs hp hr => exact .mk hs hp (hr.mono hRule)

/-- A session that comes to a report has selected its kinds, written their programs and recorded what
became of these. -/
theorem run_eq_ok_iff : run oracle q = .ok session ↔
    ∃ selection ps r, q.catalog.select q.requested = .ok selection ∧
      selection.mapM Kind.synthesizeDefault = .ok ps ∧ execute oracle q ps = .ok r ∧
      q.conclude selection ps r = session := by
  simp only [run, bind_eq_ok_iff, mapError_eq_ok_iff, pure, Except.pure, Except.ok.injEq]
  constructor
  · rintro ⟨selection, hs, ps, hp, r, hr, h⟩
    exact ⟨selection, ps, r, hs, hp, hr, h⟩
  · rintro ⟨selection, ps, r, hs, hp, hr, h⟩
    exact ⟨selection, hs, ps, hp, r, hr, h⟩

/-- One that comes to none fails in one of these steps. -/
theorem run_eq_error_iff {f : NoReport} : run oracle q = .error f ↔
    (∃ e, q.catalog.select q.requested = .error e ∧ .refused e = f) ∨
      ∃ selection, q.catalog.select q.requested = .ok selection ∧
        ((∃ e, selection.mapM Kind.synthesizeDefault = .error e ∧ .refused e = f) ∨
          ∃ ps, selection.mapM Kind.synthesizeDefault = .ok ps ∧ execute oracle q ps = .error f) := by
  simp only [run, bind_eq_error_iff, mapError_eq_ok_iff, mapError_eq_error_iff, pure, Except.pure,
    reduceCtorEq, and_false, exists_false, or_false]

/-- A session is refused where its kinds cannot be selected, or their programs not be written. -/
theorem run_eq_refused_iff {e : SetupError} : run oracle q = .error (.refused e) ↔
    q.catalog.select q.requested = .error e ∨
      ∃ selection, q.catalog.select q.requested = .ok selection ∧
        selection.mapM Kind.synthesizeDefault = .error e := by
  simp [run_eq_error_iff, execute_eq_error_iff]

/-- Every session that `run` returns is held by the rule of its scheduler. -/
theorem scheduled_of_run (h : run oracle q = .ok session) :
    ∃ selection turns, Held .scheduled oracle q selection turns session := by
  obtain ⟨selection, ps, r, hs, hp, hExecute, rfl⟩ := run_eq_ok_iff.mp h
  obtain ⟨turns, hr⟩ := executes_of_execute hExecute
  exact ⟨selection, turns, .mk hs hp hr⟩

/-- Every session that `run` returns is held by the rule of a virtual clock. -/
theorem held_of_run (h : run oracle q = .ok session) :
    ∃ selection turns, Held .prompt oracle q selection turns session := by
  obtain ⟨selection, turns, hHeld⟩ := scheduled_of_run h
  exact ⟨selection, turns, hHeld.mono fun _ _ _ _ => Rule.prompt_of_scheduled⟩

/-- Where selection and synthesis succeed, `run` returns a session unless it breaks down. -/
theorem exists_run (hs : q.catalog.select q.requested = .ok selection)
    (hp : selection.mapM Kind.synthesizeDefault = .ok ps) (hb : ¬ BreaksDown oracle q) :
    ∃ session, run oracle q = .ok session := by
  cases hExecute : execute oracle q ps with
  | error f => exact absurd (execute_eq_error_iff.mp hExecute).1 hb
  | ok r => exact ⟨_, run_eq_ok_iff.mpr ⟨selection, ps, r, hs, hp, hExecute, rfl⟩⟩

theorem run_of_breaksDown (hs : q.catalog.select q.requested = .ok selection)
    (hp : selection.mapM Kind.synthesizeDefault = .ok ps) (hb : BreaksDown oracle q) :
    run oracle q = .error (.panic tooManyPermits) :=
  run_eq_error_iff.mpr (.inr ⟨selection, hs, .inr ⟨ps, hp, execute_eq_error_iff.mpr ⟨hb, rfl⟩⟩⟩)

/-- The session that `run` returns is held by the rule of the scheduler. -/
theorem exists_scheduled (hs : q.catalog.select q.requested = .ok selection)
    (hp : selection.mapM Kind.synthesizeDefault = .ok ps) (hb : ¬ BreaksDown oracle q) :
    ∃ session turns, run oracle q = .ok session ∧
      Held .scheduled oracle q selection turns session := by
  obtain ⟨session, hRun⟩ := exists_run hs hp hb
  obtain ⟨selection', turns, h⟩ := scheduled_of_run hRun
  cases h with
  | mk hs' hp' hr =>
      obtain rfl := Except.ok.inj (hs'.symm.trans hs)
      exact ⟨_, turns, hRun, .mk hs' hp' hr⟩

/-- So it is by the rule of a virtual clock. -/
theorem exists_held (hs : q.catalog.select q.requested = .ok selection)
    (hp : selection.mapM Kind.synthesizeDefault = .ok ps) (hb : ¬ BreaksDown oracle q) :
    ∃ session turns, run oracle q = .ok session ∧
      Held .prompt oracle q selection turns session := by
  obtain ⟨session, turns, hRun, h⟩ := exists_scheduled hs hp hb
  exact ⟨session, turns, hRun, h.mono fun _ _ _ _ => Rule.prompt_of_scheduled⟩

/-! ## Outcomes and verdicts -/

theorem getElem?_unstarted {probed : Bool} {error : Program → RunError} {reason : String} {i : Nat}
    {p : Program} (hp : ps[i]? = some p) :
    (Record.unstarted probed ps error reason).outcomes[i]? = some (p.kind, .error (error p)) := by
  simp [Record.unstarted, hp]

theorem getElem?_outcomesOf {s : State} {i : Nat} {p : Program} {e : Ending}
    (hd : s.isDone = true) (hp : ps[i]? = some p) (hi : s.tasks[i]? = some (.ended e)) :
    (Record.outcomesOf ps s)[i]? = some (p.kind, e.toOutcome p.kind) := by
  have hEnded : ∀ x ∈ ps.zip s.tasks, (x.2.ending?.map fun e =>
      (x.1.kind, e.toOutcome x.1.kind)).isSome = true := by
    rintro ⟨p, phase⟩ hMem
    obtain ⟨j, hj⟩ := List.mem_iff_getElem?.mp (List.of_mem_zip hMem).2
    obtain ⟨e, rfl⟩ := State.isDone_iff.mp hd j phase hj
    rfl
  have hZip : (ps.zip s.tasks)[i]? = some (p, .ended e) :=
    List.getElem?_zip_eq_some.mpr ⟨hp, hi⟩
  rw [Record.outcomesOf, getElem?_filterMap_of_isSome hEnded, hZip]
  rfl

theorem exists_ending (hd : (q.bench oracle ps turns).isDone = true) {i : Nat} {p : Program}
    (hp : ps[i]? = some p) : ∃ e, (q.bench oracle ps turns).tasks[i]? = some (.ended e) := by
  obtain ⟨phase, hPhase⟩ :=
    (bench_sound oracle q ps turns).exists_phase (oracle.getElem?_jobs hp)
  obtain ⟨e, rfl⟩ := State.isDone_iff.mp hd i phase hPhase
  exact ⟨e, hPhase⟩

/-- Whatever the exit, one outcome is recorded for each program, in their order. -/
theorem Executes.outcomes_fst (h : Executes rule oracle q ps turns r) :
    r.outcomes.map Prod.fst = ps.map Program.kind := by
  cases h with
  | cancelled => simp [Record.unstarted]
  | unavailable => simp [Record.unstarted]
  | ended hc ha hf hd =>
      refine List.ext_getElem? fun i => ?_
      rw [List.getElem?_map, List.getElem?_map]
      cases hp : ps[i]? with
      | some p =>
          obtain ⟨e, he⟩ := exists_ending hd hp
          simp only [Record.ofState, getElem?_outcomesOf hd hp he, Option.map_some]
      | none =>
          have hLe : (Record.outcomesOf ps (q.bench oracle ps turns)).length ≤ ps.length :=
            (List.length_filterMap_le _ _).trans (by simp [List.length_zip])
          have hGe := List.getElem?_eq_none_iff.mp hp
          simp [Record.ofState, List.getElem?_eq_none (hLe.trans hGe)]

namespace Held

variable {i : Nat} {k : Kind}

theorem free_of_prompt (h : Held .prompt oracle q selection turns session) :
    Held .free oracle q selection turns session :=
  h.mono fun _ _ _ _ => Rule.free_of_prompt

theorem report_eq (h : Held rule oracle q selection turns session) :
    session.report = .ofVerdicts q.head session.report.verdicts session.record.aborted := by
  cases h with
  | mk => rfl

theorem report_aborted (h : Held rule oracle q selection turns session) :
    session.report.aborted = session.record.aborted := by
  cases h with
  | mk => rfl

theorem report_verdicts (h : Held rule oracle q selection turns session) :
    session.report.verdicts = q.verifier.verdicts selection session.record.outcomes := by
  cases h with
  | mk => rfl

theorem select_eq (h : Held rule oracle q selection turns session) :
    q.catalog.select q.requested = .ok selection := by
  cases h with
  | mk hs => exact hs

theorem mapM_eq (h : Held rule oracle q selection turns session) :
    selection.mapM Kind.synthesizeDefault = .ok session.programs := by
  cases h with
  | mk _ hp => exact hp

theorem programs_eq (h : Held rule oracle q selection turns session)
    (hp : selection.mapM Kind.synthesizeDefault = .ok ps) : session.programs = ps := by
  cases h with
  | mk hs hp' => exact Except.ok.inj (hp'.symm.trans hp)

theorem program (h : Held rule oracle q selection turns session) (hk : selection[i]? = some k) :
    ∃ p, session.programs[i]? = some p ∧ k.synthesizeDefault = .ok p ∧ p.kind = k.id := by
  cases h with
  | @mk ps r hs hp hr =>
      have hEq := congrArg (·[i]?) (mapM_eq_ok_iff.mp hp)
      simp only [List.getElem?_map, hk, Option.map_some] at hEq
      obtain ⟨p, hProgram, hOk⟩ := Option.map_eq_some_iff.mp hEq.symm
      exact ⟨p, hProgram, hOk.symm, Kind.kind_of_synthesizeDefault hOk.symm⟩

/-- One program is written for each selected kind, in their order. -/
theorem programs_kind (h : Held rule oracle q selection turns session) :
    session.programs.map Program.kind = selection.map Kind.id := by
  cases h with
  | mk hs hp hr => exact map_kind_of_mapM hp

theorem exists_kind_of_program (h : Held rule oracle q selection turns session) {p : Program}
    (hp : session.programs[i]? = some p) : ∃ k, selection[i]? = some k := by
  have hKind := congrArg (·[i]?) h.programs_kind
  simp only [List.getElem?_map, hp, Option.map_some] at hKind
  obtain ⟨k, hk, -⟩ := Option.map_eq_some_iff.mp hKind.symm
  exact ⟨k, hk⟩

/-- One outcome is recorded for each selected kind, in their order. -/
theorem outcomes_fst (h : Held rule oracle q selection turns session) :
    session.record.outcomes.map Prod.fst = selection.map Kind.id := by
  cases h with
  | mk hs hp hr => exact hr.outcomes_fst.trans (map_kind_of_mapM hp)

theorem exists_kind (h : Held rule oracle q selection turns session) {id : KindId} {o : Outcome}
    (hi : session.record.outcomes[i]? = some (id, o)) :
    ∃ k, selection[i]? = some k ∧ k.id = id := by
  have hFst := congrArg (·[i]?) h.outcomes_fst
  simp only [List.getElem?_map, hi, Option.map_some] at hFst
  exact Option.map_eq_some_iff.mp hFst.symm

/-- The outcome that is recorded for a kind is the one that the verifier finds. -/
theorem lookup_outcome (h : Held rule oracle q selection turns session)
    (hk : selection[i]? = some k) :
    ∃ o, session.record.outcomes[i]? = some (k.id, o) ∧
      session.record.outcomes.lookup k.id = some o := by
  have hFst := congrArg (·[i]?) h.outcomes_fst
  simp only [List.getElem?_map, hk, Option.map_some] at hFst
  obtain ⟨⟨id, o⟩, hi, rfl⟩ := Option.map_eq_some_iff.mp hFst
  have hNodup : (session.record.outcomes.map Prod.fst).Nodup :=
    h.outcomes_fst ▸ Catalog.select_nodup h.select_eq
  exact ⟨o, hi, lookup_of_mem hNodup (List.mem_of_getElem? hi)⟩

/-- The verdict on a kind is the one on the outcome that is recorded for it. -/
theorem verdicts_eq (h : Held rule oracle q selection turns session) :
    session.report.verdicts =
      List.zipWith (fun k o => q.verifier.judge k (some o.2)) selection
        session.record.outcomes := by
  rw [h.report_verdicts, Verifier.verdicts]
  refine List.ext_getElem? fun i => ?_
  rw [List.getElem?_map, List.getElem?_zipWith]
  cases hk : selection[i]? with
  | none => rfl
  | some k =>
      obtain ⟨o, ho, hLookup⟩ := h.lookup_outcome hk
      simp [ho, hLookup]

theorem verdict (h : Held rule oracle q selection turns session) {id : KindId} {o : Outcome}
    (hk : selection[i]? = some k) (ho : session.record.outcomes[i]? = some (id, o)) :
    session.report.verdicts[i]? = some (q.verifier.judge k (some o)) := by
  rw [h.verdicts_eq, List.getElem?_zipWith, hk, ho]

theorem exists_outcome (h : Held rule oracle q selection turns session) {v : Verdict}
    (hv : session.report.verdicts[i]? = some v) :
    ∃ k o, selection[i]? = some k ∧ session.record.outcomes[i]? = some (k.id, o) ∧
      v = q.verifier.judge k (some o) := by
  rw [h.verdicts_eq, List.getElem?_zipWith_eq_some] at hv
  obtain ⟨k, ⟨id, o⟩, hk, ho, rfl⟩ := hv
  obtain ⟨k', hk', rfl⟩ := h.exists_kind ho
  cases hk.symm.trans hk'
  exact ⟨k, o, hk, ho, rfl⟩

/-- Where tasks were started, they have ended by the rule, and what is recorded is what they ended
with. -/
theorem record_eq (h : Held rule oracle q selection turns session) (hc : q.cancelAt ≠ some 0)
    (ha : oracle.unavailable = none) :
    Follows rule (oracle.jobs session.programs) q.cancelAt (q.opening session.programs) turns ∧
      (q.bench oracle session.programs turns).isDone = true ∧
      session.record = .ofState session.programs (q.bench oracle session.programs turns) := by
  cases h with
  | mk hs hp hr => cases hr with
    | cancelled hc' => exact absurd hc' hc
    | unavailable _ ha' => simp [ha] at ha'
    | ended _ _ hf hd => exact ⟨hf, hd, rfl⟩

/-- Where the oracle is not available, no task is started. -/
theorem record_of_unavailable (h : Held rule oracle q selection turns session)
    (hc : q.cancelAt ≠ some 0) {e : RunError} (ha : oracle.unavailable = some e) :
    session.record = .unstarted true session.programs (fun _ => e) e.message := by
  cases h with
  | mk hs hp hr => cases hr with
    | cancelled hc' => exact absurd hc' hc
    | unavailable _ ha' =>
        obtain rfl := Option.some.inj (ha'.symm.trans ha)
        rfl
    | ended _ ha' => simp [ha] at ha'

/-- Where tasks were started, the verdict on a kind is the one on what its own task ended with. -/
theorem task (h : Held rule oracle q selection turns session) (hc : q.cancelAt ≠ some 0)
    (ha : oracle.unavailable = none) (hk : selection[i]? = some k) :
    ∃ p e, session.programs[i]? = some p ∧
      (oracle.jobs session.programs)[i]? = some (oracle.behaviour p) ∧
      (q.bench oracle session.programs turns).tasks[i]? = some (.ended e) ∧
      session.record.outcomes[i]? = some (k.id, e.toOutcome k.id) ∧
      session.report.verdicts[i]? = some (q.verifier.judge k (some (e.toOutcome k.id))) := by
  obtain ⟨-, hDone, hRecord⟩ := h.record_eq hc ha
  obtain ⟨p, hp, -, hKind⟩ := h.program hk
  obtain ⟨e, he⟩ := exists_ending hDone hp
  have hOutcome : session.record.outcomes[i]? = some (k.id, e.toOutcome k.id) := by
    rw [hRecord, ← hKind]
    exact getElem?_outcomesOf hDone hp he
  exact ⟨p, e, hp, oracle.getElem?_jobs hp, he, hOutcome, h.verdict hk hOutcome⟩

/-- Where tasks were started, each outcome is what a task ended with. -/
theorem task_of_outcome (h : Held rule oracle q selection turns session) (hc : q.cancelAt ≠ some 0)
    (ha : oracle.unavailable = none) {id : KindId} {o : Outcome}
    (ho : session.record.outcomes[i]? = some (id, o)) :
    ∃ p e, session.programs[i]? = some p ∧
      (oracle.jobs session.programs)[i]? = some (oracle.behaviour p) ∧
      (q.bench oracle session.programs turns).tasks[i]? = some (.ended e) ∧ o = e.toOutcome id := by
  obtain ⟨k, hk, rfl⟩ := h.exists_kind ho
  obtain ⟨p, e, hp, hb, he, hOutcome, -⟩ := h.task hc ha hk
  exact ⟨p, e, hp, hb, he, congrArg Prod.snd (Option.some.inj (ho.symm.trans hOutcome))⟩

/-- If a session is cancelled before it begins, that is recorded for all kinds. -/
theorem outcome_of_cancelled (h : Held rule oracle q selection turns session)
    (hc : q.cancelAt = some 0) (hk : selection[i]? = some k) :
    session.record.outcomes[i]? = some (k.id, .error (.cancelled k.id)) := by
  obtain ⟨p, hp, -, hKind⟩ := h.program hk
  rw [← hKind]
  cases h with
  | mk hs hp' hr => cases hr with
    | cancelled => exact getElem?_unstarted hp
    | unavailable hc' => exact absurd hc hc'
    | ended hc' => exact absurd hc hc'

/-- If the oracle is not available, its error is recorded for all kinds. -/
theorem outcome_of_unavailable (h : Held rule oracle q selection turns session)
    (hc : q.cancelAt ≠ some 0) {e : RunError} (ha : oracle.unavailable = some e)
    (hk : selection[i]? = some k) : session.record.outcomes[i]? = some (k.id, .error e) := by
  obtain ⟨p, hp, -, hKind⟩ := h.program hk
  rw [← hKind, h.record_of_unavailable hc ha]
  exact getElem?_unstarted hp

/-- A task that had ended before anything stopped the bench has got the reply of its job. -/
theorem outcome_of_hasEnded {before after : List Turn}
    (h : Held rule oracle q selection (before ++ after) session) (hc : q.cancelAt ≠ some 0)
    (ha : oracle.unavailable = none)
    (hStopping : (q.bench oracle session.programs before).stopping = false)
    (hEnded : (q.bench oracle session.programs before).hasEnded i = true)
    (hk : selection[i]? = some k) {p : Program} (hp : session.programs[i]? = some p) :
    session.record.outcomes[i]? = some (k.id, (oracle.behaviour p).reply.toOutcome k.id) := by
  obtain ⟨p', e, hp', hb, he, hOutcome, -⟩ := h.task hc ha hk
  obtain rfl := Option.some.inj (hp.symm.trans hp')
  obtain ⟨e', he'⟩ := State.hasEnded_iff.mp hEnded
  obtain ⟨start, stop, rfl⟩ :=
    (bench_faithful oracle q session.programs before).exists_reply hStopping hb he'
  have hSound := bench_sound oracle q session.programs before
  rw [q.bench_append, State.course_ended hSound after he'] at he
  cases he
  exact hOutcome

end Held

/-! ## The built-in kinds -/

/-- The request to run all built-in kinds. -/
def Request.builtins (parallelism : Nat) (cancelAt : Option Nat) : Request where
  catalog := .builtin
  requested := []
  parallelism := parallelism
  cancelAt := cancelAt
  head := ⟨.zero, ⟨⟨2026, 1, 1⟩, 0, 0⟩⟩

theorem mapM_builtins :
    Kind.builtins.mapM Kind.synthesizeDefault = .ok (Kind.builtins.map Kind.program) :=
  mapM_synthesizeDefault (by decide)

end Bench

end FaultBench
