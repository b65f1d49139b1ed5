import FaultBench.CommandLine.Words
import FaultBench.Environment
import FaultBench.Kind.Signature
import FaultBench.Kind.Variant
import FaultBench.Report.Format
import FaultBench.Text.Letters

/-!
# Requests

What the arguments of the program ask for. Some options can be given by variables instead.
-/

namespace FaultBench.CommandLine

/-- Where the settings of the tools come from. -/
structure ToolOptions where
  config : Option String := none
  compiler : Option String := none
  deriving DecidableEq, Repr

structure RunOptions where
  kinds : List String := []
  parallelism : Option Nat := none
  timeoutSecs : Option Nat := none
  tools : ToolOptions := {}
  matchMode : Option MatchMode := none
  format : ReportFormat := .text
  output : Option String := none
  deriving DecidableEq, Repr

/-- What is to be done. -/
inductive Task
  | runCorpus (o : RunOptions)
  | list (config : Option String) (json : Bool)
  | synthesize (kind : String) (patch : VariantPatch) (config out : Option String)
  | emit (out : String) (kinds : List String) (config : Option String)
  | checkTools (o : ToolOptions)
  deriving DecidableEq, Repr

/-- The files that a task reads or writes under a path that is given to it. -/
def Task.paths : Task → List String
  | .runCorpus o => o.tools.config.toList ++ o.output.toList
  | .list config _ => config.toList
  | .synthesize _ _ config out => config.toList ++ out.toList
  | .emit out _ config => out :: config.toList
  | .checkTools o => o.config.toList

structure Request where
  verbose : Bool
  logJson : Bool
  task : Task
  deriving DecidableEq, Repr

/-! ## Values -/

/-- A value that is read by `f`, where the option is given. -/
def read? {α : Type} (f : Found) (name : String) (read : String → Option α) :
    Except Stop (Option α) :=
  match f.value? name with
  | none => .ok none
  | some text =>
    match read text with
    | some a => .ok (some a)
    | none => .error .usage

/-- A value of an option, or else of a variable. -/
def orVariable (f : Found) (name : String) (env : Environment) (variableName : String) :
    Option String :=
  (f.value? name).or (env.lookup variableName)

/-- A path has at least one character. -/
def path? (value : Option String) : Except Stop (Option String) :=
  if value = some "" then .error .usage else .ok value

def natUpTo (most : Nat) (text : String) : Option Nat :=
  (Text.nat? text.toList).filter (· ≤ most)

def intWithin (lo hi : Int) (text : String) : Option Int :=
  (Text.int? text.toList).filter fun n => lo ≤ n ∧ n ≤ hi

def nat64 : String → Option Nat := natUpTo 0xffffffffffffffff
def int64 : String → Option Int :=
  intWithin (-0x8000000000000000) 0x7fffffffffffffff
def nat32 (text : String) : Option Nat := (intWithin 0 0xffffffff text).map Int.toNat

/-- One of several values by its name. -/
def oneOf {α : Type} (all : List α) (name : α → String) (text : String) : Option α :=
  all.find? (name · == text)

/-- The parts of a text between commas. -/
def commaParts (text : String) : List String := (Text.splitOn ',' text.toList).map String.ofList

/-! ## Rules -/

def configVariable : String := "FAULTCORPUS_CONFIG"
def compilerVariable : String := "FAULTCORPUS_CC"

/-- The options of all tasks. -/
def commonRules : List OptionRule :=
  [{ name := "verbose", letter := some 'v' }, { name := "log-json" },
    { name := "help", letter := some 'h' }]

def topRules : List OptionRule := commonRules ++ [{ name := "version", letter := some 'V' }]

def configRule (letter : Option Char) : OptionRule :=
  { name := "config", letter := letter, takes := .one }

def kindsRule : OptionRule := { name := "kinds", letter := some 'k', takes := .any }

def outRule : OptionRule := { name := "out", letter := some 'o', takes := .one }

def toolRules : List OptionRule := [configRule (some 'c'), { name := "compiler", takes := .one }]

def runRules : List OptionRule := kindsRule :: toolRules ++
  [{ name := "parallelism", letter := some 'p', takes := .one },
    { name := "timeout", letter := some 't', takes := .one },
    { name := "match-mode", takes := .one },
    { name := "format", letter := some 'f', takes := .one },
    { name := "output", letter := some 'o', takes := .one }]

def variantRules : List OptionRule :=
  ["alloc-size", "buffer-size", "overflow-by", "call-depth", "leak-count", "access"].map fun name =>
    { name := name, takes := .one }

/-! ## Tasks -/

def readConfig (f : Found) (env : Environment) : Except Stop (Option String) :=
  path? (orVariable f "config" env configVariable)

def readTools (f : Found) (env : Environment) : Except Stop ToolOptions :=
  return ⟨← readConfig f env, orVariable f "compiler" env compilerVariable⟩

def readKinds (f : Found) : List String := (f.values "kinds").flatMap commaParts

def readRun (f : Found) (env : Environment) : Except Stop RunOptions :=
  return {
    kinds := readKinds f
    parallelism := ← read? f "parallelism" nat64
    timeoutSecs := ← read? f "timeout" nat64
    tools := ← readTools f env
    matchMode := ← read? f "match-mode" (oneOf [.substring, .regex] MatchMode.name)
    format := (← read? f "format" (oneOf ReportFormat.all ReportFormat.name)).getD .text
    output := ← path? (f.value? "output") }

def readPatch (f : Found) : Except Stop VariantPatch :=
  return {
    allocSize := ← read? f "alloc-size" int64
    bufferSize := ← read? f "buffer-size" int64
    overflowBy := ← read? f "overflow-by" int64
    callDepth := ← read? f "call-depth" nat32
    leakCount := ← read? f "leak-count" nat32
    access := ← read? f "access" (oneOf [.read, .write] Access.name) }

/-- A task that takes no words. -/
def wordless {α : Type} (f : Found) (a : Except Stop α) : Except Stop α :=
  if f.words.isEmpty then a else .error .usage

/-- The options of the task of a name, and how it is read from what was found of them. -/
def taskReader? (env : Environment) : String → Option (List OptionRule × (Found → Except Stop Task))
  | "run-corpus" => some (runRules, fun f => wordless f do return .runCorpus (← readRun f env))
  | "list" => some ([configRule none, { name := "json" }], fun f =>
      wordless f do return .list (← readConfig f env) (f.has "json"))
  | "synthesize" => some (configRule none :: outRule :: variantRules, fun f =>
      match f.words with
      | [kind] => do
        return .synthesize kind (← readPatch f) (← readConfig f env) (← path? (f.value? "out"))
      | _ => .error .usage)
  | "emit" => some ([configRule none, outRule, kindsRule], fun f => wordless f do
      match ← path? (f.value? "out") with
      | some out => return .emit out (readKinds f) (← readConfig f env)
      | none => .error .usage)
  | "check-tools" => some (toolRules, fun f => wordless f do return .checkTools (← readTools f env))
  | _ => none

/-- What arguments ask for. -/
def Request.ofArgs (env : Environment) (args : List String) : Except Stop Request := do
  let (top, rest) ← scan topRules true none {} args
  match top.words, top.escaped with
  | ["help"], false =>
    if rest.all fun w => w = "help" || (taskReader? env w).isSome then .error .help
    else .error .usage
  | [name], false =>
    match taskReader? env name with
    | none => .error .usage
    | some (rules, read) =>
      let (found, _) ← scan (commonRules ++ rules) false none {} rest
      let task ← read found
      let given (flag : String) : Bool := top.has flag || found.has flag
      return ⟨given "verbose", given "log-json", task⟩
  | _, _ => .error .usage

end FaultBench.CommandLine
