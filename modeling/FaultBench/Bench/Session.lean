import FaultBench.Bench.Schedule
import FaultBench.Event
import FaultBench.Program.Synthesis
import FaultBench.Verdict.Judgement

/-!
# Sessions

A session runs the requested kinds of a catalog on a bench and reports on them. It is refused for a
mistake in the request, and breaks down where it would set up a bench with more permits than there
can be. What else goes wrong after the start is part of the report.
-/

namespace FaultBench.Bench

/-- What a session is asked to do. -/
structure Request where
  catalog : Catalog
  /-- All kinds are run if none is requested. -/
  requested : List KindId
  parallelism : Nat
  verifier : Verifier := {}
  /-- When the session is cancelled: at 0, before it begins. -/
  cancelAt : Option Nat := none
  head : Report.Head

/-- How many jobs run at a time: one, if none is asked for. No request is cut down to
`maxPermits`. -/
def Request.permits (q : Request) : Nat := max q.parallelism 1

/-- What a bench did with the programs of a session. -/
structure Record where
  /-- The oracle was asked whether it is available. -/
  probed : Bool
  outcomes : Outcomes
  /-- Why the session did not run to its end. -/
  aborted : Option String
  /-- How the task of each program ended, if there were tasks. -/
  endings : List (Option Ending)
  tookMs : Nat
  peak : Nat

structure Session where
  programs : List Program
  record : Record
  report : Report
  events : List Event

/-- Why a session comes to no report. -/
inductive NoReport
  /-- There is a mistake in the request. -/
  | refused (e : SetupError)
  /-- The session broke down and left a message. -/
  | panic (message : String)

/-- The reason of a session that was stopped from outside. -/
def cancelledReason : String := "cancelled"

/-- Why a session is taken for aborted: the first fatal error, or else that a job was cancelled. -/
def abortReason? (outcomes : Outcomes) : Option String :=
  let errors := outcomes.filterMap fun o =>
    match o.2 with
    | .error e => some e
    | .ok _ => none
  match errors.find? RunError.isFatal with
  | some e => some e.message
  | none => if errors.any RunError.isCancelled then some cancelledReason else none

namespace Record

/-- The record of programs that were not started, all for one reason. -/
def unstarted (probed : Bool) (ps : List Program) (error : Program → RunError) (reason : String) :
    Record where
  probed := probed
  outcomes := ps.map fun p => (p.kind, .error (error p))
  aborted := some reason
  endings := ps.map fun _ => none
  tookMs := 0
  peak := 0

/-- What the tasks of a bench recorded. A task that has not ended records nothing. -/
def outcomesOf (ps : List Program) (s : State) : Outcomes :=
  (ps.zip s.tasks).filterMap fun (p, phase) =>
    phase.ending?.map fun e => (p.kind, e.toOutcome p.kind)

/-- The record of a bench that has come to its end. -/
def ofState (ps : List Program) (s : State) : Record where
  probed := true
  outcomes := outcomesOf ps s
  aborted := abortReason? (outcomesOf ps s)
  endings := s.tasks.map Phase.ending?
  tookMs := s.now
  peak := s.peak

end Record

/-- What comes of programs: nothing is started in a session that is cancelled before it begins, or
whose oracle is not available. The bench is set up after both were looked at. -/
def execute (oracle : Oracle) (q : Request) (ps : List Program) : Except NoReport Record :=
  if q.cancelAt = some 0 then
    .ok (.unstarted false ps (fun p => .cancelled p.kind) cancelledReason)
  else match oracle.unavailable with
    | some e => .ok (.unstarted true ps (fun _ => e) e.message)
    | none =>
      if maxPermits < q.permits then .error (.panic tooManyPermits)
      else .ok (.ofState ps (.ofJobs (ps.map oracle.behaviour) q.permits q.cancelAt))

/-- The last event of a session. -/
def closing (report : Report) (tookMs : Nat) : Event :=
  match report.aborted with
  | some reason => .aborted reason
  | none => .ofReport report tookMs

/-- The session that a record is of. -/
def Request.conclude (q : Request) (selection : List Kind) (ps : List Program) (r : Record) :
    Session :=
  let report := q.verifier.verifySelection q.head selection r.outcomes r.aborted
  { programs := ps
    record := r
    report := report
    events := .started ps.length q.permits ::
      (report.verdicts.map .ofVerdict ++ [closing report r.tookMs]) }

/-- Runs what is requested. -/
def run (oracle : Oracle) (q : Request) : Except NoReport Session := do
  let selection ← (q.catalog.select q.requested).mapError .refused
  let ps ← (selection.mapM Kind.synthesizeDefault).mapError .refused
  return q.conclude selection ps (← execute oracle q ps)

end FaultBench.Bench
