import FaultBench.Log.Record
import FaultBench.Text.Blank
import FaultBench.Text.Letters
import FaultBench.Text.Search

/-!
# Filters of the log

A filter chooses records by their source and their level. It is a list of directives, of which each
concerns the sources whose name begins with a given text; of several that concern a source, the one
with the longest text decides.
-/

namespace FaultBench

namespace Level

/-- A level is at most as talkative as another one. -/
def within (a b : Level) : Bool := a.number ≤ b.number

/-- The level of a name in letters of any case, or of a number. -/
def ofText? (s : String) : Option Level :=
  match Text.nat? s.toList with
  | some n => all.find? (·.number == n)
  | none => all.find? (·.name == s.map Char.toLower)

end Level

structure Directive where
  /-- How the names of the sources begin; all are meant if there is none. -/
  target : Option String
  /-- The most talkative level that passes, if one does. -/
  level : Option Level
  deriving DecidableEq, Repr

namespace Directive

/-- The level in a directive, or that nothing passes. -/
def level? (s : List Char) : Option (Option Level) :=
  let name := String.ofList s
  if Text.nat? s == some 0 || name.map Char.toLower == "off" then some none
  else (Level.ofText? name).map some

def isTargetStart (c : Char) : Bool :=
  Text.isAlphanumeric c || c == '_' || c == '-' || c == ':'

/-- A directive is a level, a target, or both with an equals sign between them. Without a level all
records pass. -/
def ofText? (s : List Char) : Option Directive :=
  let s := Text.trim s
  if (s.head?.map isTargetStart) == some false then none
  else match Text.splitOn '=' s with
    | [only] =>
      if only.isEmpty then some ⟨none, some .trace⟩
      else match level? only with
        | some l => some ⟨none, l⟩
        | none => some ⟨some (String.ofList only), some .trace⟩
    | [target, level] =>
      let target := some (String.ofList target)
      if level.isEmpty then some ⟨target, some .trace⟩ else (level? level).map (⟨target, ·⟩)
    | _ => none

def text (d : Directive) : String :=
  let level := (d.level.map Level.name).getD "off"
  match d.target with
  | some t => t ++ "=" ++ level
  | none => level

def concerns (d : Directive) (source : LogSource) : Bool :=
  match d.target with
  | some t => t.toList.isPrefixOf source.target.toList
  | none => true

/-- How closely a directive says which sources it concerns. -/
def weight (d : Directive) : Nat := (d.target.map (·.utf8ByteSize + 1)).getD 0

end Directive

abbrev LogFilter := List Directive

namespace LogFilter

/-- The parts of the program whose records a level is chosen for. -/
def ownTargets : List String := ["faultcorpus", "faultcorpus_core", "faultcorpus_oracle"]

/-- The filter for a level: the parts of the program have that level, and all else has to warn. -/
def ofLevel (l : Level) : LogFilter :=
  ownTargets.map (fun t => ⟨some t, some l⟩) ++ [⟨none, some .warn⟩]

/-- The filter that is written in a text. One that says nothing lets errors pass. -/
def ofText? (s : String) : Option LogFilter := do
  let ds ← ((Text.splitOn ',' s.toList).filter (!·.isEmpty)).mapM Directive.ofText?
  return if ds.isEmpty then [⟨none, some .error⟩] else ds

/-- The directive that decides about a source. Of two for the same sources the later one does. -/
def deciding? (f : LogFilter) (source : LogSource) : Option Directive :=
  f.foldl (fun best d =>
    if d.concerns source && ((best.map Directive.weight).getD 0 ≤ d.weight) then some d
    else best) none

def permits (f : LogFilter) (r : LogRecord) : Bool :=
  match (f.deciding? r.source).bind (·.level) with
  | some l => r.level.within l
  | none => false

end LogFilter

end FaultBench
