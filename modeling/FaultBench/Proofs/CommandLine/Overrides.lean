import FaultBench.Proofs.Bench.Agreement
import FaultBench.Proofs.Bench.Deeds
import FaultBench.Proofs.CommandLine.Runs
import FaultBench.Proofs.Config.Patches

/-!
# Overrides

A run takes its settings from a configuration, which is checked as it is read. A compiler, a time
limit and a number of programs may be given in their place, and what is given is not checked again:
the bounds still hold unless it is a time limit of nothing or a name of blanks alone
(`RunOptions.Overrides.sound_iff`). Such a time limit is taken as it is, but under such a name no
program is started, as `settings_of_runs` says.
-/

namespace FaultBench

/-! ## Configured settings -/

/-- It is the default, or it was read from a text. -/
def Config.Given (c : Config) : Prop := c = {} ∨ ∃ text, Config.read text = .ok c

theorem Config.Given.flaw?_eq_none {c : Config} (h : c.Given) : c.flaw? = none := by
  rcases h with rfl | ⟨text, hRead⟩
  · rfl
  · unfold Config.read Config.validated at hRead
    split at hRead
    next c' _ =>
      cases hFlaw : c'.flaw? with
      | none =>
          rw [hFlaw] at hRead
          cases hRead
          exact hFlaw
      | some flaw =>
          rw [hFlaw] at hRead
          cases hRead
    next => cases hRead

namespace RunSettings

/-- The settings are within the bounds on what can be configured. -/
structure Sound (s : RunSettings) : Prop where
  compiler : Text.isBlankText s.tool.compiler.toList = false
  timeoutMs : 0 < s.tool.timeoutMs
  compileTimeoutMs : 0 < s.tool.compileTimeoutMs
  maxOutputBytes : 0 < s.tool.maxOutputBytes
  permits : 1 ≤ s.permits

theorem one_le_permits (s : RunSettings) : 1 ≤ s.permits := Nat.le_max_right s.parallelism 1

theorem sound_ofConfig {c : Config} (h : c.Given) : (ofConfig c).Sound := by
  obtain ⟨hCompiler, hTimeout, hCompile, hOutput, -⟩ := Config.flaw?_eq_none_iff.mp h.flaw?_eq_none
  exact {
    compiler := hCompiler
    timeoutMs := Nat.mul_pos (by decide) (Nat.pos_of_ne_zero hTimeout)
    compileTimeoutMs := Nat.mul_pos (by decide) (Nat.pos_of_ne_zero hCompile)
    maxOutputBytes := Nat.pos_of_ne_zero hOutput
    permits := one_le_permits _ }

end RunSettings

namespace CommandLine

open TaskM

/-! ## Settings with something in their place -/

/-- The settings are those of `base`, but for what is given in the options. -/
structure RunOptions.Overrides (o : RunOptions) (base s : RunSettings) : Prop where
  compiler : s.tool.compiler = o.tools.compiler.getD base.tool.compiler
  timeoutMs : s.tool.timeoutMs = (o.timeoutSecs.map (1000 * ·)).getD base.tool.timeoutMs
  parallelism : s.parallelism = o.parallelism.getD base.parallelism
  flags : s.tool.flags = base.tool.flags
  env : s.tool.env = base.tool.env
  runWrapper : s.tool.runWrapper = base.tool.runWrapper
  compileTimeoutMs : s.tool.compileTimeoutMs = base.tool.compileTimeoutMs
  maxOutputBytes : s.tool.maxOutputBytes = base.tool.maxOutputBytes
  cpuLimitSecs : s.tool.cpuLimitSecs = base.tool.cpuLimitSecs

theorem overrides_settings (c : Config) (o : RunOptions) :
    o.Overrides (.ofConfig c) (settings c o) := by
  constructor <;> rfl

/-- A name is given for the compiler, and it is of blanks alone. -/
def RunOptions.NamesNoCompiler (o : RunOptions) : Prop :=
  ∃ name, o.tools.compiler = some name ∧ Text.isBlankText name.toList = true

namespace RunOptions.Overrides

variable {o : RunOptions} {base s : RunSettings}

theorem timeoutMs_eq_zero_iff (h : o.Overrides base s) (hBase : base.Sound) :
    s.tool.timeoutMs = 0 ↔ o.timeoutSecs = some 0 := by
  rw [h.timeoutMs]
  cases o.timeoutSecs with
  | none => simp [hBase.timeoutMs.ne']
  | some secs =>
      rw [Option.map_some, Option.getD_some, Option.some_inj]
      omega

theorem isBlank_compiler_iff (h : o.Overrides base s) (hBase : base.Sound) :
    Text.isBlankText s.tool.compiler.toList = true ↔ o.NamesNoCompiler := by
  rw [h.compiler, NamesNoCompiler]
  cases o.tools.compiler with
  | none => simp [hBase.compiler]
  | some name => simp

/-- Of sound settings, only a time limit of nothing and a name of blanks alone make others. -/
theorem sound_iff (h : o.Overrides base s) (hBase : base.Sound) :
    s.Sound ↔ o.timeoutSecs ≠ some 0 ∧ ¬ o.NamesNoCompiler := by
  rw [Ne, ← h.timeoutMs_eq_zero_iff hBase, ← h.isBlank_compiler_iff hBase, Bool.not_eq_true]
  constructor
  · intro hSound
    exact ⟨hSound.timeoutMs.ne', hSound.compiler⟩
  · rintro ⟨hTimeout, hCompiler⟩
    exact {
      compiler := hCompiler
      timeoutMs := Nat.pos_of_ne_zero hTimeout
      compileTimeoutMs := h.compileTimeoutMs ▸ hBase.compileTimeoutMs
      maxOutputBytes := h.maxOutputBytes ▸ hBase.maxOutputBytes
      permits := s.one_le_permits }

end RunOptions.Overrides

/-! ## Runs -/

variable {p p' : Progress} {c : Config} {o : RunOptions} {head : Report.Head} {code : Nat}

theorem given_of_loadConfig {path : Option String}
    (h : (loadConfig path).run.run p = (.ok c, p')) : c.Given := by
  cases path with
  | none =>
      cases h
      exact .inl rfl
  | some path =>
      obtain ⟨_, p₁, -, hRest⟩ := run_bind_eq_ok_iff.mp h
      obtain ⟨c', p₂, hDemand, hNoted⟩ := run_bind_eq_ok_iff.mp hRest
      cases hNoted
      obtain ⟨text, -, hRead⟩ := bind_eq_ok_iff.mp (run_demand_eq_ok_iff.mp hDemand).1
      exact .inr ⟨text, hRead⟩

/-- A run that has come to its end has held a session with its settings. -/
theorem session_of_runCorpus (h : (runCorpus head o).run.run p = (.ok code, p')) :
    ∃ c p₁ q session, (loadConfig o.tools.config).run.run p = (.ok c, p₁) ∧
      Bench.run (.ofHost (settings c o).tool p.host) q = .ok session ∧
      q.permits = (settings c o).permits ∧ q.cancelAt = none ∧ code = session.report.exitCode := by
  obtain ⟨c, p₁, cat, p₂, ids, hConfig, hCatalog, -, hRun⟩ := run_runCorpus_eq_ok_iff.mp h
  obtain ⟨session, hSession, hCode, -⟩ := runIds_ok hRun
  have hFirst : p₁.host = p.host := (keeps_loadConfig (fun _ _ => rfl) _).ok hConfig
  have hSecond : p₂.host = p₁.host := (keeps_loadCatalog (fun _ _ => rfl) _).ok hCatalog
  rw [hSecond, hFirst] at hSession
  exact ⟨c, p₁, _, session, hConfig, hSession, rfl, rfl, hCode⟩

/-- No tool is searched for under a name of blanks alone. -/
theorem unavailable_of_isBlank {t : Toolchain} (h : Text.isBlankText t.compiler.toList = true)
    (host : Host) : (Bench.Oracle.ofHost t host).unavailable =
      some (.toolUnavailable t.compiler "empty executable name") := by
  have hSearch : t.search host.tree host.env =
      .error (.toolUnavailable t.compiler "empty executable name") := by
    unfold Toolchain.search Tools.find
    rw [if_pos h]
    rfl
  unfold Bench.Oracle.ofHost
  rw [hSearch]

/-- Without a name for the compiler, no program of a session is started, and that is its end. -/
theorem session_of_isBlank {t : Toolchain} {host : Host} {q : Bench.Request}
    {session : Bench.Session} (hBlank : Text.isBlankText t.compiler.toList = true)
    (hCancel : q.cancelAt = none) (h : Bench.run (.ofHost t host) q = .ok session) :
    Bench.startedPrograms session.programs session.record.endings = [] ∧
      session.report.exitCode = 2 := by
  obtain ⟨ks, turns, hHeld⟩ := Bench.held_of_run h
  have hNotCancelled : q.cancelAt ≠ some 0 := by simp [hCancel]
  have hRecord := hHeld.record_of_unavailable hNotCancelled (unavailable_of_isBlank hBlank host)
  constructor
  · rw [hRecord]
    exact Bench.startedPrograms_none session.programs
  · rw [Report.exitCode_eq_two, hHeld.report_aborted, hRecord]
    rfl

/-- **The settings of runs.** The settings of a run are those of its configuration, but for what is
given in their place. A program has time to be compiled, its outputs are kept, and one at least runs
at a time, whatever is given. The time limit is nothing exactly if that is given, and the compiler has
no name exactly if it is given one of blanks. A run that comes to its end is held with these settings,
and without a name for the compiler no program is started in it. -/
theorem settings_of_runs (o : RunOptions) :
    (∀ c : Config, c.Given →
      o.Overrides (.ofConfig c) (settings c o) ∧
      0 < (settings c o).tool.compileTimeoutMs ∧ 0 < (settings c o).tool.maxOutputBytes ∧
      1 ≤ (settings c o).permits ∧
      ((settings c o).tool.timeoutMs = 0 ↔ o.timeoutSecs = some 0) ∧
      (Text.isBlankText (settings c o).tool.compiler.toList = true ↔ o.NamesNoCompiler) ∧
      ((settings c o).Sound ↔ o.timeoutSecs ≠ some 0 ∧ ¬ o.NamesNoCompiler)) ∧
    ∀ head p code p', (runCorpus head o).run.run p = (.ok code, p') →
      ∃ c q session, c.Given ∧ (∃ p₁, (loadConfig o.tools.config).run.run p = (.ok c, p₁)) ∧
        Bench.run (.ofHost (settings c o).tool p.host) q = .ok session ∧
        q.permits = (settings c o).permits ∧ code = session.report.exitCode ∧
        (o.NamesNoCompiler → code = 2 ∧
          Bench.startedPrograms session.programs session.record.endings = []) := by
  constructor
  · intro c hGiven
    have hOver := overrides_settings c o
    have hBase := RunSettings.sound_ofConfig hGiven
    exact ⟨hOver, hOver.compileTimeoutMs ▸ hBase.compileTimeoutMs,
      hOver.maxOutputBytes ▸ hBase.maxOutputBytes, (settings c o).one_le_permits,
      hOver.timeoutMs_eq_zero_iff hBase, hOver.isBlank_compiler_iff hBase, hOver.sound_iff hBase⟩
  · intro head p code p' h
    obtain ⟨c, p₁, q, session, hConfig, hRun, hPermits, hCancel, hCode⟩ := session_of_runCorpus h
    have hGiven := given_of_loadConfig hConfig
    refine ⟨c, q, session, hGiven, ⟨p₁, hConfig⟩, hRun, hPermits, hCode, fun hNone => ?_⟩
    have hBlank := ((overrides_settings c o).isBlank_compiler_iff
      (RunSettings.sound_ofConfig hGiven)).mpr hNone
    obtain ⟨hStarted, hTwo⟩ := session_of_isBlank hBlank hCancel hRun
    exact ⟨hCode.trans hTwo, hStarted⟩

/-- A text that configures each of the settings for which something can be given. -/
def configuredText : String :=
  "[toolchain]\ncompiler = \"gcc\"\ntimeout_secs = 3\n\n[pipeline]\nparallelism = 7\n"

/-- A host with a file of the text. -/
def configuredHost : Host where
  tree := ⟨[(["c.toml"], .file configuredText.toUTF8.toList false)], []⟩
  env := []
  commands := []

/-- No time, no compiler and no program at a time. -/
def givenNothing : RunOptions where
  parallelism := some 0
  timeoutSecs := some 0
  tools := { config := some "c.toml", compiler := some " " }

theorem settings_of_runs_givenNothing :
    Request.ofArgs [] ["run-corpus", "-c", "c.toml", "--compiler", " ", "-t", "0", "-p", "0"] =
      .ok ⟨false, false, .runCorpus givenNothing⟩ ∧
    (∃ c : Config, c.Given ∧ c.toolchain.timeoutSecs = 3 ∧
      (settings c givenNothing).tool.timeoutMs = 0 ∧ 1 ≤ (settings c givenNothing).permits ∧
      ¬ (settings c givenNothing).Sound) ∧
    ∃ p' c q session,
      (runCorpus (Bench.Request.builtins 2 none).head givenNothing).run.run
        ⟨configuredHost, "", []⟩ = (.ok 2, p') ∧
      Bench.run (.ofHost (settings c givenNothing).tool configuredHost) q = .ok session ∧
      q.permits = (settings c givenNothing).permits ∧
      Bench.startedPrograms session.programs session.record.endings = [] := by
  obtain ⟨hSettings, hRuns⟩ := settings_of_runs givenNothing
  have hBlank : givenNothing.NamesNoCompiler := ⟨" ", rfl, by decide⟩
  refine ⟨by decide +kernel, ?_, ?_⟩
  · have hRead : (Config.read configuredText).toOption.map (·.toolchain.timeoutSecs) = some 3 := by
      decide +kernel
    cases hOk : Config.read configuredText with
    | error e =>
        rw [hOk] at hRead
        cases hRead
    | ok c =>
        rw [hOk] at hRead
        have hGiven : c.Given := .inr ⟨configuredText, hOk⟩
        obtain ⟨-, -, -, hPermits, hTimeout, -, hSound⟩ := hSettings c hGiven
        exact ⟨c, hGiven, Option.some.inj hRead, hTimeout.mpr rfl, hPermits,
          fun h => (hSound.mp h).1 rfl⟩
  · have hOk : ((runCorpus (Bench.Request.builtins 2 none).head givenNothing).run.run
        ⟨configuredHost, "", []⟩).1 = .ok 2 := by
      decide +kernel
    obtain ⟨p', hRun⟩ : ∃ p', (runCorpus (Bench.Request.builtins 2 none).head givenNothing).run.run
        ⟨configuredHost, "", []⟩ = (.ok 2, p') := ⟨_, Prod.ext hOk rfl⟩
    obtain ⟨c, q, session, -, -, hSession, hPermits, -, hNone⟩ := hRuns _ _ _ _ hRun
    exact ⟨p', c, q, session, hRun, hSession, hPermits, (hNone hBlank).2⟩

end CommandLine

end FaultBench
