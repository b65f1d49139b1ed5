/-!
# Flaws of written patterns
-/

namespace FaultBench

/-- Why a text is not the written form of a pattern. -/
inductive PatternFlaw
  | groupUnclosed
  | groupUnopened
  | groupName
  | groupFlags
  | lookAround
  | nothingToRepeat
  | repetition
  | escape
  | backReference
  | classUnclosed
  | classItem
  | unknownProperty
  | notUtf8
  | tooDeep
  | tooLarge
  deriving DecidableEq, Repr

/-- The wording of a flaw is that of the library that reads patterns: lines that show the pattern and
point into it. It stands in the message of an invalid signature and in that of a verdict on one, and
is not modelled: this text stands in its place. -/
def PatternFlaw.message (_ : PatternFlaw) : String := "<regex error>"

end FaultBench
