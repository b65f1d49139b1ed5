import FaultBench.Text.Letters
import FaultBench.Text.Script
import FaultBench.Text.CaseFold

/-!
# Character classes by name

The classes that a written pattern can name: the ASCII classes, and the properties of characters
by general category, script or a property of its own.
-/

namespace FaultBench.Pattern

open FaultBench.Text

/-- The class of ASCII characters that a name between `[:` and `:]` stands for. -/
def asciiClass? : String → Option (Char → Bool)
  | "alnum" => some Char.isAlphanum
  | "alpha" => some Char.isAlpha
  | "ascii" => some fun c => c.toNat < 128
  | "blank" => some fun c => c == '\t' || c == ' '
  | "cntrl" => some fun c => c.toNat < 32 || c.toNat == 127
  | "digit" => some Char.isDigit
  | "graph" => some fun c => '!' ≤ c && c ≤ '~'
  | "lower" => some Char.isLower
  | "print" => some fun c => ' ' ≤ c && c ≤ '~'
  | "punct" => some fun c => '!' ≤ c && c ≤ '~' && !c.isAlphanum
  | "space" => some isAsciiBlank
  | "upper" => some Char.isUpper
  | "word" => some isAsciiWordChar
  | "xdigit" => some fun c => c.isDigit || ('a' ≤ c && c ≤ 'f') || ('A' ≤ c && c ≤ 'F')
  | _ => none
where
  isAsciiBlank (c : Char) : Bool := c == ' ' || (9 ≤ c.toNat && c.toNat ≤ 13)

/-- Names are compared without case, blanks, underscores, hyphens and a leading `is`. -/
def normalName (s : List Char) : String :=
  let t := (s.filter fun c => c != ' ' && c != '_' && c != '-').map Char.toLower
  match t with
  | 'i' :: 's' :: rest => if rest == ['c'] then "isc" else String.ofList rest
  | _ => String.ofList t

/-- The long names of the general categories and of their unions, with the codes of the
categories that they hold. -/
def categoryNames : List (List String × List String) :=
  [(["lu", "uppercaseletter"], ["Lu"]), (["ll", "lowercaseletter"], ["Ll"]),
   (["lt", "titlecaseletter"], ["Lt"]), (["lm", "modifierletter"], ["Lm"]),
   (["lo", "otherletter"], ["Lo"]), (["lc", "casedletter"], ["Lu", "Ll", "Lt"]),
   (["l", "letter"], ["Lu", "Ll", "Lt", "Lm", "Lo"]),
   (["mn", "nonspacingmark"], ["Mn"]), (["mc", "spacingmark"], ["Mc"]),
   (["me", "enclosingmark"], ["Me"]), (["m", "mark", "combiningmark"], ["Mn", "Mc", "Me"]),
   (["nd", "decimalnumber", "digit"], ["Nd"]), (["nl", "letternumber"], ["Nl"]),
   (["no", "othernumber"], ["No"]), (["n", "number"], ["Nd", "Nl", "No"]),
   (["pc", "connectorpunctuation"], ["Pc"]), (["pd", "dashpunctuation"], ["Pd"]),
   (["ps", "openpunctuation"], ["Ps"]), (["pe", "closepunctuation"], ["Pe"]),
   (["pi", "initialpunctuation"], ["Pi"]), (["pf", "finalpunctuation"], ["Pf"]),
   (["po", "otherpunctuation"], ["Po"]),
   (["p", "punctuation", "punct"], ["Pc", "Pd", "Ps", "Pe", "Pi", "Pf", "Po"]),
   (["sm", "mathsymbol"], ["Sm"]), (["sc", "currencysymbol"], ["Sc"]),
   (["sk", "modifiersymbol"], ["Sk"]), (["so", "othersymbol"], ["So"]),
   (["s", "symbol"], ["Sm", "Sc", "Sk", "So"]),
   (["zs", "spaceseparator"], ["Zs"]), (["zl", "lineseparator"], ["Zl"]),
   (["zp", "paragraphseparator"], ["Zp"]), (["z", "separator"], ["Zs", "Zl", "Zp"]),
   (["cc", "control", "cntrl"], ["Cc"]), (["cf", "format"], ["Cf"]),
   (["cs", "surrogate"], ["Cs"]), (["co", "privateuse"], ["Co"]), (["cn", "unassigned"], ["Cn"]),
   (["c", "other"], ["Cc", "Cf", "Cs", "Co", "Cn"])]

def categoryClass? (name : String) : Option (Char → Bool) :=
  match name with
  | "any" => some fun _ => true
  | "ascii" => some fun c => c.toNat < 128
  | "assigned" => some fun c => categoryOf c != .unassigned
  | _ => (categoryNames.find? (·.1.contains name)).map fun entry =>
    let cs := entry.2.filterMap Category.ofCode?
    fun c => cs.contains (categoryOf c)

def scriptClass? (name : String) : Option (Char → Bool) :=
  (scriptNames.find? fun ns => ns.any fun n => normalName n.toList == name).bind fun ns =>
    ns.head?.map fun code c => scriptOf c == code

/-- The properties that are neither a category nor a script. Only these seven are read. The other ones
that are true or false of a character, such as `Emoji`, `Math`, `Dash`, `Hex_Digit`, `Cased`,
`XID_Start` and `XID_Continue`, are left out: a pattern with one of them is refused here, although the
library reads it. -/
def propertyClass? : String → Option (Char → Bool)
  | "alphabetic" | "alpha" => some isAlphabetic
  | "lowercase" | "lower" => some isLowercase
  | "uppercase" | "upper" => some isUppercase
  | "whitespace" | "wspace" | "space" => some isBlank
  | "graphemeextend" | "grext" => some isExtender
  | "joincontrol" | "joinc" => some fun c => c.toNat == 0x200C || c.toNat == 0x200D
  | "asciihexdigit" | "ahex" => asciiClass? "xdigit"
  | _ => none

/-- The class that a name stands for on its own. -/
def namedClass? (name : List Char) : Option (Char → Bool) :=
  let n := normalName name
  (propertyClass? n).or ((categoryClass? n).or (scriptClass? n))

/-- The class of a property and its value. The script extensions of a character are taken for its
script, and `Age`, `Grapheme_Cluster_Break`, `Word_Break` and `Sentence_Break` are left out. -/
def valuedClass? (property value : List Char) : Option (Char → Bool) :=
  match normalName property with
  | "gc" | "generalcategory" => categoryClass? (normalName value)
  | "sc" | "script" | "scx" | "scriptextensions" => scriptClass? (normalName value)
  | _ => none

end FaultBench.Pattern
