import FaultBench.CommandLine.Tasks
import FaultBench.Proofs.Bench.Independence
import FaultBench.Proofs.Bench.Logs
import FaultBench.Proofs.Fallible
import FaultBench.Proofs.Trial.Records

/-!
# Lifecycles

The events of a session are recorded in its log, among records of other kinds: of the programs that
were written, of what the oracle does, of tasks that stop the bench, and of verdicts.

* `CourseLog.quiet`: no turn logs an event, so a course does not.
* `Held.filter_framed`: the events of a log are the `lifecycle` of the report, if those of the
  course are none.
* `lifecycle_trace`: this is so for all sessions, and for those that the command line runs on a
  host.
-/

namespace FaultBench.Bench

variable {rule : Rule} {own : LogRecord → Prop} {oracle : Oracle} {q : Request}
  {selection : List Kind} {ps : List Program} {jobs : List Behaviour} {turns : List Turn}
  {session : Session} {r : Record} {s : State} {log : List LogRecord}

/-- The records of the events of a run: its start, each verdict of its report, and its end. -/
def lifecycle (report : Report) (parallelism tookMs : Nat) : List LogRecord :=
  event .info "corpus.started"
      [("kinds", .nat report.verdicts.length), ("parallelism", .nat (max 1 parallelism))] ::
    (report.verdicts.map fun v => event .info "kind.finished"
      [("kind", .text v.kind.text), ("status", .text v.status.label),
        ("duration_ms", .nat (v.durationMs.getD 0))]) ++
    [match report.aborted with
      | some reason => event .warn "corpus.aborted" [("reason", .text reason)]
      | none => event .info "corpus.finished"
        [("total", .nat report.summary.total), ("passed", .nat report.summary.passed),
          ("failed", .nat report.summary.failed), ("errored", .nat report.summary.errored),
          ("duration_ms", .nat tookMs), ("success", .bool report.allPassed)]]
where
  event (level : Level) (name : String) (values : List (String × Datum)) : LogRecord :=
    ⟨level, .events, [("event", .text name), ("run_id", .text report.head.runId.text)] ++ values⟩

/-! ## Records of no event -/

theorem Reply.quiet_log (kind : KindId) (r : Reply) : QuietLog (r.log kind) := by
  unfold Reply.log
  split
  · split
    · exact .singleton (LogRecord.isEvent_ofMessage (by simp))
    · exact .nil
  · exact .nil

theorem Phase.quiet_log (kind : KindId) (p : Phase) : QuietLog (p.log kind) := by
  unfold Phase.log
  split
  · exact Reply.quiet_log _ _
  · exact .nil

theorem State.quiet_turnLog (ps : List Program) (jobs : List Behaviour) (s : State) (t : Turn) :
    QuietLog (s.turnLog ps jobs t) := by
  unfold turnLog pollLog
  split
  · split
    · split
      · exact .nil
      · exact Phase.quiet_log _ _
    · exact .nil
  · exact .nil

/-- No turn logs an event, so a course does not, unless the oracle does. -/
theorem CourseLog.quiet (hOwn : ∀ r, own r → r.isEvent = false)
    (h : CourseLog own ps jobs s turns log) : QuietLog log := by
  induction h with
  | nil ha => exact fun r hr => hOwn r (ha r hr)
  | @cons s t ts aside log ha hLog ih =>
      have hAside : QuietLog aside := fun r hr => hOwn r (ha r hr)
      exact (hAside.append (s.quiet_turnLog ps jobs t)).append ih

theorem ExecuteLog.quiet (hOwn : ∀ r, own r → r.isEvent = false)
    (h : ExecuteLog own oracle q ps turns r log) : QuietLog log := by
  cases h with
  | cancelled => exact .nil
  | unavailable hc he ha =>
      have hAside : QuietLog _ := fun r hr => hOwn r (ha r hr)
      exact hAside.append (.singleton (LogRecord.isEvent_ofMessage (by simp)))
  | ended hc he ha hLog =>
      have hAside : QuietLog _ := fun r hr => hOwn r (ha r hr)
      exact (hAside.append (hLog.quiet hOwn)).append
        (.singleton (LogRecord.isEvent_ofMessage (by simp)))

/-! ## Events of logs -/

theorem isEvent_ofEvent (id : String) (e : Event) : (LogRecord.ofEvent id e).isEvent = true := rfl

theorem filter_map_ofEvent (id : String) (es : List Event) :
    (es.map (LogRecord.ofEvent id)).filter LogRecord.isEvent = es.map (LogRecord.ofEvent id) := by
  rw [List.filter_eq_self]
  intro r hr
  obtain ⟨e, -, rfl⟩ := List.mem_map.mp hr
  exact isEvent_ofEvent id e

/-- The lifecycle of a report, read as records of events. -/
theorem lifecycle_eq (report : Report) (parallelism tookMs : Nat) :
    lifecycle report parallelism tookMs =
      let event := LogRecord.ofEvent report.head.runId.text
      event (.started report.verdicts.length (max parallelism 1)) ::
        (report.verdicts.map .ofVerdict).map event ++ [event (closing report tookMs)] := by
  dsimp only
  rw [lifecycle, closing, max_comm, List.map_map]
  cases report.aborted <;> rfl

theorem length_lifecycle (report : Report) (parallelism tookMs : Nat) :
    (lifecycle report parallelism tookMs).length = report.verdicts.length + 2 := by
  simp [lifecycle]

/-- One program is written for each verdict. -/
theorem Held.length_programs (h : Held rule oracle q selection turns session) :
    session.programs.length = session.report.verdicts.length := by
  have hKinds := congrArg List.length h.programs_kind
  rw [List.length_map, List.length_map] at hKinds
  rw [hKinds, h.report_verdicts, Verifier.verdicts, List.length_map]

theorem Held.head_report (h : Held rule oracle q selection turns session) :
    session.report.head = q.head := by
  rw [h.report_eq]
  rfl

/-- The events of a log are the lifecycle of the report, if none is logged in the course. -/
theorem Held.filter_framed (h : Held rule oracle q selection turns session) (hLog : QuietLog log) :
    (session.framed q log).filter LogRecord.isEvent =
      lifecycle session.report q.parallelism session.record.tookMs := by
  have hSynthesized : QuietLog (session.programs.map .synthesized) :=
    .map (fun _ => LogRecord.isEvent_ofMessage (by simp)) _
  have hJudged : QuietLog (session.judged.map .judged) :=
    .map (fun _ => LogRecord.isEvent_ofMessage (by simp)) _
  rw [Session.framed, lifecycle_eq, h.head_report, ← h.length_programs]
  simp only [List.filter_append, hSynthesized.filter_eq_nil, hJudged.filter_eq_nil,
    hLog.filter_eq_nil,
    List.filter_cons_of_pos (isEvent_ofEvent _ _), filter_map_ofEvent, List.filter_nil,
    List.nil_append, List.append_nil]
  rfl

theorem Session.quiet_courseLog {available : List LogRecord} {job : Program → List LogRecord}
    (hAvailable : QuietLog available) (hJob : ∀ p, QuietLog (job p)) (session : Session) :
    QuietLog (session.courseLog available job) := by
  have hCourse : ∀ aborted, QuietLog (courseLog.course session available job aborted) := by
    intro aborted
    refine (hAvailable.append ?_).append (.singleton (LogRecord.isEvent_ofMessage (by simp)))
    intro r hr
    obtain ⟨⟨p, stop, reply⟩, -, hMem⟩ := List.mem_flatMap.mp hr
    exact (hJob p).append (Reply.quiet_log p.kind reply) r hMem
  unfold courseLog
  dsimp only
  split
  · exact .nil
  · split
    · split
      · exact .singleton (LogRecord.isEvent_ofMessage (by simp))
      · exact hCourse true
    · exact hCourse false

/-! ## Sessions of the command line -/

open CommandLine

theorem quiet_searchLog (c : Toolchain) (h : Host) : QuietLog (searchLog c h) := by
  unfold searchLog
  split
  · exact .singleton (LogRecord.isEvent_ofMessage (by simp))
  · exact .nil

/-- A task that comes to no report does not end well. -/
theorem breakOff_ne_ok (available : List LogRecord) (q : Request) (f : NoReport) {p p' : Progress}
    {report : Report} : (breakOff available q f).run.run p ≠ (.ok report, p') := by
  intro h
  obtain ⟨ks, p₁, -, hPrograms⟩ := run_bind_eq_ok_iff.mp h
  obtain ⟨ps, p₂, -, hLast⟩ := run_bind_eq_ok_iff.mp hPrograms
  cases f with
  | refused e => cases hLast
  | panic message => cases hLast

/-- What the command line logs of a session on a host. -/
def hostLog (c : Toolchain) (h : Host) (session : Session) : List LogRecord :=
  session.log (searchLog c h) fun program => (Trial.ofProgram c h program).2.log

theorem run_runSession (c : RunSettings) (q : Request) (p : Progress) :
    (runSession c q).run.run p =
      match run (.ofHost c.tool p.host) q with
      | .error f => (breakOff (searchLog c.tool p.host) q f).run.run p
      | .ok session =>
        (.ok session.report, { p with log := p.log ++ hostLog c.tool p.host session }) := by
  unfold runSession
  rw [run_get_bind]
  dsimp only
  cases run (.ofHost c.tool p.host) q with
  | error f => rfl
  | ok session => rfl

/-- A report is that of a session on the host, whose log is added to what was logged before. -/
theorem log_of_runSession {c : RunSettings} {p p' : Progress} {report : Report}
    (h : (runSession c q).run.run p = (.ok report, p')) :
    ∃ session, run (.ofHost c.tool p.host) q = .ok session ∧ session.report = report ∧
      p'.log = p.log ++ hostLog c.tool p.host session := by
  rw [run_runSession] at h
  cases hRun : run (.ofHost c.tool p.host) q with
  | error f =>
      rw [hRun] at h
      exact absurd h (breakOff_ne_ok _ q f)
  | ok session =>
      rw [hRun] at h
      cases h
      exact ⟨session, rfl, rfl, rfl⟩

theorem Held.filter_hostLog (h : Held rule oracle q selection turns session) (c : Toolchain)
    (host : Host) : (hostLog c host session).filter LogRecord.isEvent =
      lifecycle session.report q.parallelism session.record.tookMs := by
  rw [hostLog, h.log_eq]
  exact h.filter_framed (session.quiet_courseLog (quiet_searchLog c host)
    fun p => Trial.quiet_ofProgram c host p)

/-! ## Traces -/

/-- **The trace of a run.** Whichever turns are taken and whatever becomes of the jobs, a session
leaves logs, and one of them is the log of `Session.log` up to order. The events in each of them are
the start of the session, the verdicts of its report in their order, and one end, which says why the
session was aborted if it was. That needs no more of the oracle than that it records no event of its
own, and the trials that the command line runs on a host do not. -/
theorem lifecycle_trace :
    (∀ (oracle : Oracle) (q : Request) (own : LogRecord → Prop), (∀ r, own r → r.isEvent = false) →
      ∀ selection turns session, Held .free oracle q selection turns session →
      (∀ log, Logged own oracle q turns session log → log.filter LogRecord.isEvent =
        lifecycle session.report q.parallelism session.record.tookMs) ∧
      ∀ available job, (∀ r ∈ available, own r) → (∀ p, ∀ r ∈ job p, own r) →
        ∃ log, Logged own oracle q turns session log ∧ log.Perm (session.log available job)) ∧
    ∀ (c : RunSettings) (q : Request) (p p' : Progress) (report : Report),
      (runSession c q).run.run p = (.ok report, p') →
      ∃ log tookMs, p'.log = p.log ++ log ∧
        log.filter LogRecord.isEvent = lifecycle report q.parallelism tookMs := by
  constructor
  · intro oracle q own hOwn selection turns session h
    refine ⟨?_, fun available job => h.exists_logged own⟩
    rintro _ ⟨course, hCourse, rfl⟩
    exact h.filter_framed (hCourse.quiet hOwn)
  · intro c q p p' report h
    obtain ⟨session, hRun, rfl, hLog⟩ := log_of_runSession h
    obtain ⟨selection, turns, hHeld⟩ := held_of_run hRun
    exact ⟨_, session.record.tookMs, hLog, hHeld.filter_hostLog c.tool p.host⟩

/-- A host without files. -/
def bareHost : Host := ⟨⟨[], []⟩, [], []⟩

theorem lifecycle_trace_mixed :
    (∃ session turns log, run .mixed (.builtins 2 none) = .ok session ∧
      Logged (· = foundTools ⟨"/bin/cc", none⟩) .mixed (.builtins 2 none) turns session log ∧
      (log.filter LogRecord.isEvent).length = 7) ∧
    ∃ report p, (runSession ⟨2, .default⟩ (.builtins 2 none)).run.run ⟨bareHost, "", []⟩ =
        (.ok report, p) ∧ (p.log.filter LogRecord.isEvent).length = 7 := by
  have hLength : ∀ {oracle : Oracle} {turns : List Turn} {session : Session} (tookMs : Nat),
      Held .prompt oracle (.builtins 2 none) Kind.builtins turns session →
        (lifecycle session.report 2 tookMs).length = 7 := by
    intro oracle turns session tookMs h
    rw [length_lifecycle, h.report_verdicts, Verifier.verdicts, List.length_map]
    rfl
  obtain ⟨hTurns, hHost⟩ := lifecycle_trace
  constructor
  · obtain ⟨session, turns, hRun, h⟩ := exists_held (q := .builtins 2 none) rfl mapM_builtins
      (not_breaksDown .mixed (by decide))
    have hOwn : ∀ r, r = foundTools ⟨"/bin/cc", none⟩ → r.isEvent = false := by
      rintro r rfl
      rfl
    obtain ⟨hFilter, hLogs⟩ := hTurns _ _ _ hOwn _ _ _ h.free_of_prompt
    obtain ⟨log, hLog, -⟩ := hLogs [foundTools ⟨"/bin/cc", none⟩] (fun _ => []) (by simp) (by simp)
    refine ⟨session, turns, log, hRun, hLog, ?_⟩
    rw [hFilter log hLog]
    exact hLength _ h
  · obtain ⟨session, turns, hRun, h⟩ := exists_held (q := .builtins 2 none) rfl mapM_builtins
      (not_breaksDown (.ofHost .default bareHost) (by decide))
    have hEnd := run_runSession ⟨2, .default⟩ (.builtins 2 none) ⟨bareHost, "", []⟩
    rw [hRun] at hEnd
    obtain ⟨log, tookMs, hLog, hFilter⟩ := hHost _ _ _ _ _ hEnd
    refine ⟨session.report, _, hEnd, ?_⟩
    rw [hLog, List.nil_append, hFilter]
    exact hLength _ h

end FaultBench.Bench
