import FaultBench.Bench.Session
import FaultBench.Log.Record

/-!
# The log of a session
-/

namespace FaultBench.Bench

/-- The replies of the tasks, each with its program and its time, in the order in which they came. -/
def Session.replies (s : Session) : List (Program × Nat × Reply) :=
  let all := (s.programs.zip s.record.endings).filterMap fun (p, e) =>
    match e with
    | some (.replied _ stop r) => some (p, stop, r)
    | _ => none
  all.mergeSort fun a b => a.2.1 ≤ b.2.1

/-- What is logged of a reply, after what the job itself logs. -/
def Reply.log (kind : KindId) : Reply → List LogRecord
  | .outcome (.error e) => if e.isFatal then [.fatal kind e] else []
  | _ => []

/-- What is logged between the first event of a session and the verdicts. -/
def Session.courseLog (s : Session) (available : List LogRecord) (job : Program → List LogRecord) :
    List LogRecord :=
  let r := s.record
  if !r.probed then []
  else match r.aborted with
    | some reason =>
      if r.endings.all Option.isNone then [.unavailable reason] else course true
    | none => course false
where
  course (aborted : Bool) : List LogRecord :=
    available ++ (s.replies.flatMap fun (p, _, r) => job p ++ r.log p.kind) ++
      [.finished s.programs.length aborted]

/-- The verdicts on programs that ran. -/
def Session.judged (s : Session) : List Verdict :=
  s.report.verdicts.filter fun v =>
    match s.record.outcomes.lookup v.kind with
    | some (.ok _) => true
    | _ => false

/-- All that is logged of a session, given what is logged once the tools are found, and by each
job. -/
def Session.log (s : Session) (available : List LogRecord) (job : Program → List LogRecord) :
    List LogRecord :=
  let events := s.events.map (LogRecord.ofEvent s.report.head.runId.text)
  s.programs.map .synthesized ++ events.take 1 ++ s.courseLog available job ++
    s.judged.map .judged ++ events.drop 1

end FaultBench.Bench
