import FaultBench.Proofs.Bench.Sessions

/-!
# What a session does

`run` says what a session comes to. `perform` takes the same steps and keeps a list of the deeds that
can be seen from outside: an event is emitted, the oracle is asked whether it is available, or a
program is handed over to it.

* `run_perform_refused`: a session that is refused does nothing.
* `run_perform_breaksDown`: one that breaks down has begun, and has asked its oracle.
* `run_perform_ok`: all others do what `Session.deeds` reads off the session that `run` returns.
-/

namespace FaultBench.Bench

/-! ## Steps that do something -/

/-- What a session does that can be seen from outside. -/
inductive Deed
  | emit (e : Event)
  /-- The oracle is asked whether it is available. -/
  | probe
  /-- A program is handed over to the oracle. -/
  | handOver (p : Program)

/-- What came of steps, and what was done in them. -/
structure Doing (α : Type) where
  result : α
  deeds : List Deed

namespace Doing

instance : Monad Doing where
  pure a := ⟨a, []⟩
  map f x := ⟨f x.result, x.deeds⟩
  bind x f := ⟨(f x.result).result, x.deeds ++ (f x.result).deeds⟩

def act (ds : List Deed) : Doing Unit := ⟨(), ds⟩

variable {α β : Type}

@[simp] theorem result_pure (a : α) : (pure a : Doing α).result = a := rfl

@[simp] theorem deeds_pure (a : α) : (pure a : Doing α).deeds = [] := rfl

@[simp] theorem result_bind (x : Doing α) (f : α → Doing β) :
    (x >>= f).result = (f x.result).result := rfl

@[simp] theorem deeds_bind (x : Doing α) (f : α → Doing β) :
    (x >>= f).deeds = x.deeds ++ (f x.result).deeds := rfl

@[simp] theorem deeds_act (ds : List Deed) : (act ds).deeds = ds := rfl

variable {ε : Type}

/-- A step that may fail does nothing. -/
theorem run_fallible_bind (x : Except ε α) (f : α → ExceptT ε Doing β) :
    (ExceptT.mk (pure x) >>= f).run =
      match x with
      | .error e => ⟨.error e, []⟩
      | .ok a => (f a).run := by
  cases x <;> rfl

/-- A step that does something does not fail. -/
theorem run_lift_bind (x : Doing α) (f : α → ExceptT ε Doing β) :
    ((liftM x : ExceptT ε Doing α) >>= f).run =
      ⟨(f x.result).run.result, x.deeds ++ (f x.result).run.deeds⟩ := rfl

/-- What was done before a failure stays done, and nothing is done after it. -/
theorem run_bind (x : ExceptT ε Doing α) (f : α → ExceptT ε Doing β) :
    (x >>= f).run =
      match x.run.result with
      | .error e => ⟨.error e, x.run.deeds⟩
      | .ok a => ⟨(f a).run.result, x.run.deeds ++ (f a).run.deeds⟩ := by
  rw [ExceptT.run_bind]
  cases hResult : x.run.result with
  | error e => simp [bind, hResult, pure]
  | ok a => simp [bind, hResult]

end Doing

open Doing

/-! ## The steps of a session -/

/-- The programs of the tasks whose jobs were started. -/
def startedPrograms (ps : List Program) (endings : List (Option Ending)) : List Program :=
  (ps.zip endings).filterMap fun (p, e) =>
    if e.any fun e => (Phase.ended e).begun then some p else none

/-- The steps of `execute`. -/
def performExecute (oracle : Oracle) (q : Request) (ps : List Program) :
    ExceptT NoReport Doing Record := do
  act [.emit (.started ps.length q.permits)]
  if q.cancelAt = some 0 then
    return .unstarted false ps (fun p => .cancelled p.kind) cancelledReason
  else
    act [.probe]
    match oracle.unavailable with
    | some e => return .unstarted true ps (fun _ => e) e.message
    | none =>
      if maxPermits < q.permits then throw (.panic tooManyPermits)
      else
        let r := Record.ofState ps (.ofJobs (ps.map oracle.behaviour) q.permits q.cancelAt)
        act ((startedPrograms ps r.endings).map .handOver)
        return r

/-- The steps of `run`. -/
def perform (oracle : Oracle) (q : Request) : ExceptT NoReport Doing Session := do
  let selection ← ExceptT.mk (pure ((q.catalog.select q.requested).mapError .refused))
  let ps ← ExceptT.mk (pure ((selection.mapM Kind.synthesizeDefault).mapError .refused))
  let session := q.conclude selection ps (← performExecute oracle q ps)
  act (session.report.verdicts.map fun v => .emit (.ofVerdict v))
  act [.emit (closing session.report session.record.tookMs)]
  return session

/-! ## What was done -/

/-- What was done with the oracle before a record was made. -/
def Record.deeds (ps : List Program) (r : Record) : List Deed :=
  (if r.probed then [.probe] else []) ++ (startedPrograms ps r.endings).map .handOver

/-- What was done in a session. -/
def Session.deeds (s : Session) : List Deed :=
  (s.events.take 1).map .emit ++ s.record.deeds s.programs ++ (s.events.drop 1).map .emit

theorem startedPrograms_none (ps : List Program) :
    startedPrograms ps (ps.map fun _ => none) = [] := by
  rw [startedPrograms, List.filterMap_eq_nil_iff]
  rintro ⟨p, e⟩ hMem
  obtain ⟨-, -, rfl⟩ := List.mem_map.mp (List.of_mem_zip hMem).2
  rfl

theorem deeds_unstarted (probed : Bool) (ps : List Program) (error : Program → RunError)
    (reason : String) :
    (Record.unstarted probed ps error reason).deeds ps = if probed then [.probe] else [] := by
  have hNone : startedPrograms ps (Record.unstarted probed ps error reason).endings = [] :=
    startedPrograms_none ps
  rw [Record.deeds, hNone, List.map_nil, List.append_nil]
  rfl

/-- The steps of `execute` come to the same. Where it breaks down, the session has begun and its oracle
was asked. -/
theorem run_performExecute (oracle : Oracle) (q : Request) (ps : List Program) :
    (performExecute oracle q ps).run =
      match execute oracle q ps with
      | .ok r => ⟨.ok r, .emit (.started ps.length q.permits) :: r.deeds ps⟩
      | .error f => ⟨.error f, [.emit (.started ps.length q.permits), .probe]⟩ := by
  unfold performExecute execute
  rw [run_lift_bind]
  by_cases hc : q.cancelAt = some 0
  · simp [hc, deeds_unstarted]
  · rw [if_neg hc, if_neg hc, run_lift_bind]
    cases oracle.unavailable with
    | some e => simp [deeds_unstarted]
    | none =>
        by_cases hMany : maxPermits < q.permits
        · simp [hMany]
        · rw [if_neg hMany, if_neg hMany, run_lift_bind]
          simp [Record.deeds, Record.ofState]

variable {oracle : Oracle} {q : Request} {selection : List Kind} {ps : List Program}

/-- A session that is refused does nothing. -/
theorem run_perform_refused {e : SetupError} (h : run oracle q = .error (.refused e)) :
    (perform oracle q).run = ⟨.error (.refused e), []⟩ := by
  unfold perform
  rw [run_fallible_bind]
  rcases run_eq_refused_iff.mp h with hs | ⟨selection, hs, hp⟩
  · rw [hs]
    rfl
  · rw [hs]
    dsimp only [Except.mapError]
    rw [run_fallible_bind, hp]

/-- Where selection and synthesis succeed, what is done is what becomes of the programs. -/
theorem run_perform_eq (oracle : Oracle) (hs : q.catalog.select q.requested = .ok selection)
    (hp : selection.mapM Kind.synthesizeDefault = .ok ps) :
    (perform oracle q).run =
      match execute oracle q ps with
      | .ok r => ⟨.ok (q.conclude selection ps r), (q.conclude selection ps r).deeds⟩
      | .error f => ⟨.error f, [.emit (.started ps.length q.permits), .probe]⟩ := by
  unfold perform
  rw [run_fallible_bind, hs]
  dsimp only [Except.mapError]
  rw [run_fallible_bind, hp]
  dsimp only [Except.mapError]
  rw [Doing.run_bind, run_performExecute]
  cases execute oracle q ps with
  | error f => rfl
  | ok r =>
      simp only [run_lift_bind]
      simp [Session.deeds, Request.conclude]

theorem run_perform_ok {session : Session} (h : run oracle q = .ok session) :
    (perform oracle q).run = ⟨.ok session, session.deeds⟩ := by
  obtain ⟨selection, ps, r, hs, hp, hExecute, rfl⟩ := run_eq_ok_iff.mp h
  rw [run_perform_eq oracle hs hp, hExecute]

/-- A session that breaks down has begun, has asked its oracle, and has handed over no program. -/
theorem run_perform_breaksDown (hs : q.catalog.select q.requested = .ok selection)
    (hp : selection.mapM Kind.synthesizeDefault = .ok ps) (hb : BreaksDown oracle q) :
    (perform oracle q).run =
      ⟨.error (.panic tooManyPermits), [.emit (.started ps.length q.permits), .probe]⟩ := by
  rw [run_perform_eq oracle hs hp, execute_eq_error_iff.mpr ⟨hb, rfl⟩]

end FaultBench.Bench
