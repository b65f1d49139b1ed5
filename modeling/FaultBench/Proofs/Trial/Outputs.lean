import FaultBench.Proofs.Fallible
import FaultBench.Trial

/-!
# Outputs under a limit

However an output is cut into the parts that its reads give (`Reads`), its first bytes are kept, as
many as the limit allows, and it is read to its end (`Capture.drain_of_reads`). A trial ends with a
run exactly if its program was built and its process ended in time (`ofProgram_ok_iff`). So a run
holds the first bytes of what its process printed, and tells whether there were more
(`output_capped`).
-/

namespace FaultBench

/-! ## Reads of an output -/

/-- The reads of an output up to its end: each gives a part that is not empty and not longer than
what is read at once. -/
inductive Reads : List UInt8 → List (List UInt8) → Prop
  | done : Reads [] []
  | read {part rest : List UInt8} {reads : List (List UInt8)} (nonempty : part ≠ [])
    (short : part.length ≤ partSize) (later : Reads rest reads) : Reads (part ++ rest) (part :: reads)

theorem reads_parts (bytes : List UInt8) : Reads bytes (parts partSize bytes) := by
  induction hLength : bytes.length using Nat.strongRecOn generalizing bytes with
  | ind n ih =>
      rw [parts]
      split
      next hDone =>
        rcases hDone with hSize | rfl
        · cases hSize
        · exact .done
      next hMore =>
        obtain ⟨-, hBytes⟩ := not_or.mp hMore
        have hSize : partSize = 8192 := rfl
        have hPos : 0 < bytes.length := List.length_pos_iff.mpr hBytes
        have hRest := ih (bytes.drop partSize).length (by rw [List.length_drop]; omega) _ rfl
        have hRead : Reads (bytes.take partSize ++ bytes.drop partSize) _ :=
          .read (by simp [hSize, hBytes]) (List.length_take_le _ _) hRest
        rwa [List.take_append_drop] at hRead

namespace Capture

variable {limit : Nat} {bytes part : List UInt8} {reads : List (List UInt8)}

/-- What is to be kept of bytes. -/
def exact (limit : Nat) (bytes : List UInt8) : Capture :=
  ⟨bytes.take limit, decide (limit < bytes.length)⟩

theorem exact_nil (limit : Nat) : exact limit [] = {} := by
  simp [exact]

theorem kept_exact : (exact limit bytes).kept = bytes.take (min limit bytes.length) :=
  List.take_eq_take_min

/-- What is to be kept stays so with one more part. -/
theorem add_exact : (exact limit bytes).add limit part = exact limit (bytes ++ part) := by
  have hRoom : limit - (bytes.take limit).length = limit - bytes.length := by
    rw [List.length_take]
    omega
  have hCut : limit < (bytes ++ part).length ↔
      limit < bytes.length ∨ limit - bytes.length < part.length := by
    rw [List.length_append]
    omega
  simp only [add, exact, hRoom, List.take_append, hCut, Bool.decide_or]

/-- All that is read before the end is taken up, whatever the reads give. -/
theorem drain_append (h : Reads part reads) (rest : List (List UInt8)) :
    drain limit (exact limit bytes) (reads ++ rest) =
      drain limit (exact limit (bytes ++ part)) rest := by
  induction h generalizing bytes with
  | done => rw [List.nil_append, List.append_nil]
  | read hNonempty _ _ ih =>
      rw [List.cons_append, drain, List.isEmpty_eq_false_iff.mpr hNonempty, add_exact, ← List.append_assoc]
      exact ih

/-- An output is read to its end and no further. -/
theorem drain_of_reads (h : Reads bytes reads) (rest : List (List UInt8)) :
    drain limit {} (reads ++ [] :: rest) = (exact limit bytes, rest) := by
  rw [← exact_nil limit, drain_append h]
  rfl

theorem ofOutput_eq : ofOutput limit bytes = exact limit bytes := by
  have hDrain : drain limit (exact limit []) (parts partSize bytes ++ []) = _ :=
    drain_append (reads_parts bytes) []
  rw [exact_nil, List.append_nil, List.nil_append] at hDrain
  rw [ofOutput, hDrain]
  rfl

end Capture

/-! ## Runs -/

/-- A run holds the first bytes of what a process printed, as far as the limit allows, and is marked
if that is not all. -/
structure Run.Shows (r : Run) (limit : Nat) (a : Activity) : Prop where
  stdout : r.stdout = textOf (a.stdout.take (min limit a.stdout.length))
  stderr : r.stderr = textOf (a.stderr.take (min limit a.stderr.length))
  truncated : r.truncated = true ↔ limit < a.stdout.length ∨ limit < a.stderr.length

namespace Trial

variable {α β : Type} {t t' : Trial} {c : Toolchain} {tools : Tools} {p : Program} {h : Host}
  {workspace said : String} {r : Run}

/-- The run of a program that did something, with what the compiler said of it. -/
def runOf (c : Toolchain) (p : Program) (said : String) (a : Activity) : Run where
  program := p
  exitCode := a.status.code?.map Int.ofNat
  signal := a.status.signal?.map Int.ofNat
  stdout := textOf (Capture.exact c.maxOutputBytes a.stdout).kept
  stderr := textOf (Capture.exact c.maxOutputBytes a.stderr).kept
  compileStderr := said
  durationMs := a.tookMs
  truncated :=
    (Capture.exact c.maxOutputBytes a.stdout).cut || (Capture.exact c.maxOutputBytes a.stderr).cut

theorem shows_runOf (a : Activity) : (runOf c p said a).Shows c.maxOutputBytes a where
  stdout := congrArg textOf Capture.kept_exact
  stderr := congrArg textOf Capture.kept_exact
  truncated := by simp [runOf, Capture.exact]

theorem bind_ok_iff {m : Step α} {f : α → Step β} {b : β} : ((m >>= f).run.run t).1 = .ok b ↔
    ∃ a t', m.run.run t = (.ok a, t') ∧ ((f a).run.run t').1 = .ok b := by
  rw [run_bind]
  cases hRun : m.run.run t with
  | mk result t' =>
      cases result with
      | ok a =>
          constructor
          · exact fun hb => ⟨a, t', rfl, hb⟩
          · rintro ⟨_, _, hSame, hb⟩
            cases hSame
            exact hb
      | error e =>
          constructor
          · intro hb
            cases hb
          · rintro ⟨_, _, hSame, -⟩
            cases hSame

/-- A process that is started does what the host makes of it. -/
theorem start_ok_iff {kind : KindId} {i : Invocation} {limitMs : Nat} {record : Trial → Trial}
    {activity : Option Activity} :
    (∃ t', (start kind i limitMs record).run.run t = (.ok activity, t')) ↔
      ∃ host, t.host.run i (some limitMs) = .ok (activity, host) := by
  rw [start, run_get_bind]
  cases t.host.run i (some limitMs) with
  | error e =>
      constructor
      · rintro ⟨_, hRun⟩
        cases hRun
      · rintro ⟨_, hRun⟩
        cases hRun
  | ok result =>
      constructor
      · rintro ⟨_, hRun⟩
        cases hRun
        exact ⟨_, rfl⟩
      · rintro ⟨_, hRun⟩
        cases hRun
        exact ⟨_, rfl⟩

theorem execute_ok_iff : ((execute c tools p workspace).run.run t).1 = .ok r ↔
    ∃ a host, t.host.run (programProcess c tools workspace t.host) (some c.timeoutMs) =
      .ok (some a, host) ∧ r = runOf c p "" a := by
  rw [execute, run_get_bind, bind_ok_iff]
  constructor
  · rintro ⟨activity, t', hStart, hRest⟩
    obtain ⟨host, hHost⟩ := start_ok_iff.mp ⟨t', hStart⟩
    cases activity with
    | none => cases hRest
    | some a =>
        cases hRest
        refine ⟨a, host, hHost, ?_⟩
        simp only [runOf, Capture.ofOutput_eq]
  · rintro ⟨a, host, hHost, rfl⟩
    obtain ⟨t', hStart⟩ := start_ok_iff.mpr ⟨host, hHost⟩
    refine ⟨some a, t', hStart, ?_⟩
    simp only [runOf, ← Capture.ofOutput_eq]
    rfl

/-- A program runs in a workspace if it was built there and then ended in time. -/
theorem inWorkspace_ok_iff : ((inWorkspace c tools p workspace).run.run t).1 = .ok r ↔
    ∃ said t', (build c tools p workspace).run.run t = (.ok said, t') ∧
      ∃ a host, t'.host.run (programProcess c tools workspace t'.host) (some c.timeoutMs) =
        .ok (some a, host) ∧ r = runOf c p said a := by
  rw [inWorkspace, bind_ok_iff]
  refine exists_congr fun said => exists_congr fun t' => and_congr_right fun _ => ?_
  rw [bind_ok_iff]
  constructor
  · rintro ⟨run, t'', hExecute, hRest⟩
    obtain ⟨a, host, hHost, rfl⟩ := execute_ok_iff.mp (congrArg Prod.fst hExecute)
    cases hRest
    exact ⟨a, host, hHost, rfl⟩
  · rintro ⟨a, host, hHost, rfl⟩
    have hExecute : ((execute c tools p workspace).run.run t').1 = .ok (runOf c p "" a) :=
      execute_ok_iff.mpr ⟨a, host, hHost, rfl⟩
    exact ⟨runOf c p "" a, _, Prod.ext hExecute rfl, rfl⟩

/-- The trial of a program has come to where the program is built, and this is what the compiler
said. -/
def Built (c : Toolchain) (h : Host) (p : Program) (tools : Tools) (workspace said : String)
    (t : Trial) : Prop :=
  c.search h.tree h.env = .ok tools ∧
  ∃ t', (createWorkspace p.kind).run.run ⟨h, 0, none, none, []⟩ = (.ok workspace, t') ∧
    (build c tools p workspace).run.run t' = (.ok said, t)

theorem demand_ok_iff {result : Except RunError α} {a : α} :
    (demand result).run.run t = (.ok a, t') ↔ result = .ok a ∧ t' = t := by
  cases result with
  | error e =>
      constructor
      · intro hRun
        cases hRun
      · rintro ⟨hResult, -⟩
        cases hResult
  | ok b =>
      constructor
      · intro hRun
        cases hRun
        exact ⟨rfl, rfl⟩
      · rintro ⟨hResult, rfl⟩
        cases hResult
        rfl

/-- A trial ends with a run if its program was built and then ended in time. -/
theorem ofProgram_ok_iff : (ofProgram c h p).1 = .ok r ↔ ∃ tools workspace said t,
    Built c h p tools workspace said t ∧
      ∃ a host, t.host.run (programProcess c tools workspace t.host) (some c.timeoutMs) =
        .ok (some a, host) ∧ r = runOf c p said a := by
  rw [ofProgram, steps, run_get_bind, bind_ok_iff]
  constructor
  · rintro ⟨tools, _, hSearch, hRest⟩
    obtain ⟨hTools, rfl⟩ := demand_ok_iff.mp hSearch
    obtain ⟨workspace, t', hWorkspace, hRest⟩ := bind_ok_iff.mp hRest
    rw [run_get_bind] at hRest
    obtain ⟨_, t'', _, hRest⟩ := bind_ok_iff.mp hRest
    have hDone := (demand_ok_iff.mp (Prod.ext hRest rfl)).1
    obtain ⟨said, t, hBuild, hRun⟩ := inWorkspace_ok_iff.mp hDone
    exact ⟨tools, workspace, said, t, ⟨hTools, t', hWorkspace, hBuild⟩, hRun⟩
  · rintro ⟨tools, workspace, said, t, ⟨hTools, t', hWorkspace, hBuild⟩, hRun⟩
    have hDone := inWorkspace_ok_iff.mpr ⟨said, t, hBuild, hRun⟩
    refine ⟨tools, _, demand_ok_iff.mpr ⟨hTools, rfl⟩, ?_⟩
    rw [bind_ok_iff]
    refine ⟨workspace, t', hWorkspace, ?_⟩
    rw [run_get_bind]
    refine bind_ok_iff.mpr ⟨(), _, rfl, ?_⟩
    exact congrArg Prod.fst (demand_ok_iff.mpr ⟨hDone, rfl⟩)

/-- **What is kept of an output** is its first bytes, as many as the limit allows, in whatever parts
it is read, and it is read to its end. The run of a program that was built and ended in time holds
these bytes of both outputs as text, and is marked if one of them was longer than the limit. -/
theorem output_capped :
    (∀ (limit : Nat) (bytes : List UInt8) (reads : List (List UInt8)), Reads bytes reads →
      ∀ after : List (List UInt8), Capture.drain limit {} (reads ++ [] :: after) =
        (⟨bytes.take (min limit bytes.length), decide (limit < bytes.length)⟩, after)) ∧
    (∀ c h p tools workspace said t a host, Built c h p tools workspace said t →
      t.host.run (programProcess c tools workspace t.host) (some c.timeoutMs) = .ok (some a, host) →
        ∃ r, (ofProgram c h p).1 = .ok r ∧ r.Shows c.maxOutputBytes a) ∧
    ∀ c h p r, (ofProgram c h p).1 = .ok r → ∃ tools workspace said t a host,
      Built c h p tools workspace said t ∧
      t.host.run (programProcess c tools workspace t.host) (some c.timeoutMs) = .ok (some a, host) ∧
      r.Shows c.maxOutputBytes a := by
  refine ⟨fun limit bytes reads hReads after => ?_, ?_, ?_⟩
  · rw [Capture.drain_of_reads hReads, ← Capture.kept_exact]
    rfl
  · intro c h p tools workspace said t a host hBuilt hHost
    have hOk := ofProgram_ok_iff.mpr ⟨tools, workspace, said, t, hBuilt, a, host, hHost, rfl⟩
    exact ⟨_, hOk, shows_runOf a⟩
  · intro c h p r hOk
    obtain ⟨tools, workspace, said, t, hBuilt, a, host, hHost, rfl⟩ := ofProgram_ok_iff.mp hOk
    exact ⟨tools, workspace, said, t, a, host, hBuilt, hHost, shows_runOf a⟩

/-- A host with a compiler whose programs print two bytes and report one. -/
def printingHost : Host where
  tree := ⟨[(["tmp"], .directory), (["cc"], .file [] true)], []⟩
  env := []
  commands :=
    [(["cc"], .compiler [] { program := { stdout := [0x68, 0x69], stderr := [0x21] } } none)]

def oneByte : Toolchain :=
  { Toolchain.default with compiler := "/cc", runWrapper := [], maxOutputBytes := 1 }

def printing : Program := .ofSource FaultClass.leak.canonicalId .leak {} ""

theorem output_capped_oneByte :
    (Reads [0x61, 0x62, 0x63] [[0x61], [0x62, 0x63]] ∧
      Capture.drain 3 {} [[0x61], [0x62, 0x63], [], [0x64]] =
        (⟨[0x61, 0x62, 0x63], false⟩, [[0x64]]) ∧
      Capture.drain 0 {} [[0x61], [0x62, 0x63], [], [0x64]] = (⟨[], true⟩, [[0x64]])) ∧
    ∃ r, (ofProgram oneByte printingHost printing).1 = .ok r ∧
      r.stdout = "h" ∧ r.stderr = "!" ∧ r.truncated = true ∧
      ∃ tools workspace said t a host, Built oneByte printingHost printing tools workspace said t ∧
        t.host.run (programProcess oneByte tools workspace t.host) (some oneByte.timeoutMs) =
          .ok (some a, host) ∧
        r.Shows 1 a ∧
        ∃ r', (ofProgram oneByte printingHost printing).1 = .ok r' ∧ r'.Shows 1 a := by
  obtain ⟨hDrain, hStarted, hRun⟩ := output_capped
  have hSecond : Reads ([0x62, 0x63] ++ []) [[0x62, 0x63]] := .read (by decide) (by decide) .done
  have hReads : Reads ([0x61] ++ [0x62, 0x63]) [[0x61], [0x62, 0x63]] :=
    .read (by decide) (by decide) hSecond
  have hShown : (ofProgram oneByte printingHost printing).1.toOption.map
      (fun r => (r.stdout, r.stderr, r.truncated)) = some ("h", "!", true) := by
    decide +kernel
  refine ⟨⟨hReads, hDrain 3 _ _ hReads _, hDrain 0 _ _ hReads _⟩, ?_⟩
  cases hOk : (ofProgram oneByte printingHost printing).1 with
  | error e =>
      rw [hOk] at hShown
      cases hShown
  | ok r =>
      rw [hOk] at hShown
      obtain ⟨hStdout, hRest⟩ := Prod.mk.inj (Option.some.inj hShown)
      obtain ⟨hStderr, hTruncated⟩ := Prod.mk.inj hRest
      obtain ⟨tools, workspace, said, t, a, host, hBuilt, hHost, hShows⟩ := hRun _ _ _ r hOk
      obtain ⟨r', hOk', hShows'⟩ := hStarted _ _ _ _ _ _ _ _ _ hBuilt hHost
      exact ⟨r, rfl, hStdout, hStderr, hTruncated, tools, workspace, said, t, a, host, hBuilt, hHost,
        hShows, r', hOk.symm.trans hOk', hShows'⟩

end Trial

end FaultBench
