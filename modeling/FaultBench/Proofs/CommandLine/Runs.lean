import FaultBench.Proofs.Bench.Lifecycle
import FaultBench.Proofs.CommandLine.Steps

/-!
# Runs

A run reads its configuration and the ids of kinds, holds a session on them, and hands on its report
(`run_runCorpus_eq_ok_iff`, `runIds_ok`).
-/

namespace FaultBench.CommandLine

open TaskM

variable {c : Catalog} {ids : List KindId} {p p' : Progress} {code : Nat} {head : Report.Head}
  {o : RunOptions} {config : Config}

/-- Hands on a report as it is asked for. -/
def deliver (o : RunOptions) (report : Report) : TaskM Nat := do
  match o.output with
  | some path =>
    onFiles (fun e => .error (o.format.failure path) [e.message]) (report.save o.format path)
    print report.text
    print ("Report written to " ++ Path.quote path ++ "\n")
  | none =>
    print (report.render o.format)
    if o.format = .json then print "\n"
  return report.exitCode

/-- What is asked of a session. -/
def RunOptions.request (o : RunOptions) (head : Report.Head) (config : Config) (c : Catalog)
    (ids : List KindId) : Bench.Request where
  catalog := c
  requested := ids
  parallelism := (settings config o).parallelism
  verifier := ⟨o.matchMode⟩
  head := head

/-- Runs the kinds of ids. -/
def runIds (head : Report.Head) (o : RunOptions) (config : Config) (c : Catalog)
    (ids : List KindId) : TaskM Nat := do
  note [.running (settings config o)]
  let report ← runSession (settings config o) (o.request head config c ids)
  deliver o report

theorem run_runCorpus_eq_ok_iff :
    (runCorpus head o).run.run p = (.ok code, p') ↔
      ∃ config p₁ c p₂ ids, (loadConfig o.tools.config).run.run p = (.ok config, p₁) ∧
        (loadCatalog config).run.run p₁ = (.ok c, p₂) ∧ kindIds o.kinds = .ok ids ∧
        (runIds head o config c ids).run.run p₂ = (.ok code, p') := by
  have hSteps : runCorpus head o = (do
      let config ← loadConfig o.tools.config
      let catalog ← loadCatalog config
      let requested ← ExceptT.mk (pure (kindIds o.kinds))
      runIds head o config catalog requested) := rfl
  rw [hSteps]
  simp only [run_bind_eq_ok_iff, run_pure_eq_ok_iff]
  constructor
  · rintro ⟨config, p₁, hConfig, c, p₂, hCatalog, ids, p₃, ⟨hIds, rfl⟩, hRun⟩
    exact ⟨config, p₁, c, p₃, ids, hConfig, hCatalog, hIds, hRun⟩
  · rintro ⟨config, p₁, c, p₂, ids, hConfig, hCatalog, hIds, hRun⟩
    exact ⟨config, p₁, hConfig, c, p₂, hCatalog, ids, p₂, ⟨hIds, rfl⟩, hRun⟩

/-- What is printed of a report. -/
def RunOptions.shown (o : RunOptions) (report : Report) : String :=
  match o.output with
  | some path => report.text ++ ("Report written to " ++ Path.quote path ++ "\n")
  | none => report.render o.format ++ if o.format = .json then "\n" else ""

theorem deliver_ok {o : RunOptions} {report : Report}
    (h : (deliver o report).run.run p = (.ok code, p')) :
    code = report.exitCode ∧ p'.stdout = p.stdout ++ o.shown report := by
  unfold deliver at h
  unfold RunOptions.shown
  cases hOutput : o.output with
  | some path =>
      rw [hOutput] at h
      obtain ⟨_, p₁, hFile, hShown⟩ := run_bind_eq_ok_iff.mp h
      rw [← keeps_onFiles.ok hFile]
      cases hShown
      exact ⟨rfl, String.append_assoc⟩
  | none =>
      rw [hOutput] at h
      dsimp only at h ⊢
      split at h
      next hJson =>
        cases h
        rw [if_pos hJson]
        exact ⟨rfl, String.append_assoc⟩
      next hJson =>
        cases h
        rw [if_neg hJson, String.append_empty]
        exact ⟨rfl, rfl⟩

theorem runSession_ok {s : RunSettings} {q : Bench.Request} {report : Report}
    (h : (runSession s q).run.run p = (.ok report, p')) :
    ∃ session, Bench.run (.ofHost s.tool p.host) q = .ok session ∧ session.report = report ∧
      p'.stdout = p.stdout := by
  obtain ⟨session, hRun, rfl, -⟩ := Bench.log_of_runSession h
  rw [Bench.run_runSession, hRun] at h
  cases h
  exact ⟨session, hRun, rfl, rfl⟩

/-- A run on ids holds a session with its settings, and hands on the report of it. -/
theorem runIds_ok (h : (runIds head o config c ids).run.run p = (.ok code, p')) :
    ∃ session, Bench.run (.ofHost (settings config o).tool p.host) (o.request head config c ids) =
        .ok session ∧
      code = session.report.exitCode ∧ p'.stdout = p.stdout ++ o.shown session.report := by
  unfold runIds at h
  obtain ⟨_, p₁, hNote, hRest⟩ := run_bind_eq_ok_iff.mp h
  obtain ⟨_, p₂, hSession, hDeliver⟩ := run_bind_eq_ok_iff.mp hRest
  obtain ⟨session, hRun, rfl, hStdout⟩ := runSession_ok hSession
  obtain ⟨hCode, hShown⟩ := deliver_ok hDeliver
  have hHost : p₁.host = p.host := (keeps_note (fun _ _ => rfl) _).ok hNote
  have hNoted : p₁.stdout = p.stdout := (keeps_note (fun _ _ => rfl) _).ok hNote
  rw [hStdout, hNoted] at hShown
  rw [hHost] at hRun
  exact ⟨session, hRun, hCode, hShown⟩

/-- A run on ids is the same for any ids that select the same kinds. -/
theorem runIds_congr {ids' : List KindId} (h : c.select ids = c.select ids') :
    runIds head o config c ids = runIds head o config c ids' := by
  have hSession : ∀ oracle, Bench.run oracle (o.request head config c ids) =
      Bench.run oracle (o.request head config c ids') := by
    intro oracle
    unfold Bench.run RunOptions.request
    dsimp only
    rw [h]
    rfl
  have hBreakOff : ∀ available f, breakOff available (o.request head config c ids) f =
      breakOff available (o.request head config c ids') f := by
    intro available f
    unfold breakOff RunOptions.request
    dsimp only
    rw [h]
    rfl
  unfold runIds runSession
  simp only [hSession, hBreakOff]

end FaultBench.CommandLine
