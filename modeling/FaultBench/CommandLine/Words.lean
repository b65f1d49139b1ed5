/-!
# Options and words

The arguments of a command are options and words. An option has a long name after two hyphens, and
may have a letter after one. Letters may be written together, as long as no option before the last of
them takes a value. A value stands behind the option, with or without an equals sign, or is the next
argument. After two hyphens alone there are words only.
-/

namespace FaultBench.CommandLine

/-- Why arguments ask for nothing that can be done. -/
inductive Stop
  /-- They are not understood. -/
  | usage
  | help
  | version
  deriving DecidableEq, Repr

/-- How many values an option takes. -/
inductive Takes
  | nothing
  | one
  /-- It may be given again. -/
  | any
  deriving DecidableEq, Repr

structure OptionRule where
  name : String
  letter : Option Char := none
  takes : Takes := .nothing
  deriving DecidableEq, Repr

/-- What was found in arguments. -/
structure Found where
  /-- Options with their values, in the order in which they were given. -/
  options : List (String × String) := []
  words : List String := []
  /-- Two hyphens alone were found. -/
  escaped : Bool := false
  deriving DecidableEq, Repr

namespace Found

def has (f : Found) (name : String) : Bool := f.options.any (·.1 == name)

/-- The values of an option. -/
def values (f : Found) (name : String) : List String :=
  (f.options.filter (·.1 == name)).map (·.2)

def value? (f : Found) (name : String) : Option String := (f.values name).head?

/-- Adds an option. One that takes at most one value is given once. -/
def add (f : Found) (r : OptionRule) (value : String) : Except Stop Found :=
  if r.name = "help" then .error .help
  else if r.name = "version" then .error .version
  else if r.takes ≠ .any ∧ f.has r.name then .error .usage
  else .ok { f with options := f.options ++ [(r.name, value)] }

end Found

/-- An argument that cannot be the value of the option before it. -/
def looksLikeOption (arg : String) : Bool := arg.toList.head? == some '-' && arg != "-"

/-- Reads an option with a long name. The rule is one whose value is still to come. -/
def long (rules : List OptionRule) (f : Found) (text : List Char) :
    Except Stop (Found × Option OptionRule) :=
  let name := String.ofList (text.takeWhile (· != '='))
  match rules.find? (·.name == name), text.dropWhile (· != '=') with
  | none, _ => .error .usage
  | some r, [] =>
    if r.takes = .nothing then (f.add r "").map (·, none) else .ok (f, some r)
  | some r, _ :: value =>
    if r.takes = .nothing then .error .usage else (f.add r (String.ofList value)).map (·, none)

/-- Reads options that are given by their letters. -/
def letters (rules : List OptionRule) (f : Found) : List Char →
    Except Stop (Found × Option OptionRule)
  | [] => .ok (f, none)
  | c :: rest =>
    match rules.find? (·.letter == some c) with
    | none => .error .usage
    | some r =>
      if r.takes = .nothing then do letters rules (← f.add r "") rest
      else match rest with
        | [] => .ok (f, some r)
        | '=' :: value => (f.add r (String.ofList value)).map (·, none)
        | value => (f.add r (String.ofList value)).map (·, none)

/-- Reads arguments, to the first word if `one` is set, and gives those that are left. The rule is one
whose value is to come first. -/
def scan (rules : List OptionRule) (one : Bool) (pending : Option OptionRule) (f : Found) :
    List String → Except Stop (Found × List String)
  | [] => if pending.isSome then .error .usage else .ok (f, [])
  | arg :: rest =>
    match pending with
    | some r =>
      if looksLikeOption arg then .error .usage
      else do scan rules one none (← f.add r arg) rest
    | none =>
      if f.escaped || !looksLikeOption arg then
        let f := { f with words := f.words ++ [arg] }
        if one then .ok (f, rest) else scan rules one none f rest
      else if arg = "--" then scan rules one none { f with escaped := true } rest
      else do
        let (f, pending) ← match arg.toList with
          | '-' :: '-' :: text => long rules f text
          | text => letters rules f (text.drop 1)
        scan rules one pending f rest

end FaultBench.CommandLine
