import FaultBench.Text.Quoted

/-!
# Ids of fault kinds

The id of a kind is also the name of its directory and the stem of its file, so it holds small
letters, digits, hyphens and underscores alone.
-/

namespace FaultBench

def KindId.isIdChar (c : Char) : Bool := c.isLower || c.isDigit || c == '-' || c == '_'

/-- The id of a fault kind. -/
structure KindId where
  text : String
  ne_empty : text ≠ ""
  chars : ∀ c ∈ text.toList, KindId.isIdChar c = true
  deriving DecidableEq

/-- Why a text is no id. -/
inductive KindIdFlaw
  | empty
  | character (c : Char)
  deriving DecidableEq, Repr

def KindIdFlaw.message : KindIdFlaw → String
  | .empty => "must not be empty"
  | .character c => "character " ++ Text.quoteChar c ++ " not allowed"

namespace KindId

instance : ToString KindId := ⟨text⟩

theorem ext_text {a b : KindId} (h : a.text = b.text) : a = b := by
  cases a; cases b; cases h; rfl

/-- The id that a text is. Of several characters that it must not have, the first is named. -/
def ofString (s : String) : Except KindIdFlaw KindId :=
  if hs : s = "" then .error .empty
  else match h : s.toList.find? (!isIdChar ·) with
    | some c => .error (.character c)
    | none => .ok ⟨s, hs, fun c hc => by simpa using List.find?_eq_none.1 h c hc⟩

def ofString? (s : String) : Option KindId := (ofString s).toOption

@[simp] theorem ofString_text (id : KindId) : ofString id.text = .ok id := by
  unfold ofString
  rw [dif_neg id.ne_empty]
  split
  · next c h => simpa [id.chars c (List.mem_of_find?_eq_some h)] using List.find?_some h
  · rfl

end KindId

end FaultBench
