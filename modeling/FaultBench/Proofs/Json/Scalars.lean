import FaultBench.Data.Json.Reader
import FaultBench.Data.Json.Writer
import Mathlib.Tactic

/-!
# Numbers and texts in JSON

What is written for an integer of 64 bits is read as that integer, if nothing behind it goes on with
the number: `number?_toString`. What is written for a text is read as that text: `string?_string`.
-/

namespace FaultBench.Json

/-! ## Integers -/

/-- No number goes on with these characters. -/
def EndsNumber (rest : List Char) : Prop :=
  ∀ c ∈ rest.head?, c.isDigit = false ∧ c ≠ '.' ∧ c ≠ 'e' ∧ c ≠ 'E'

theorem endsNumber_nil : EndsNumber [] := by
  simp [EndsNumber]

theorem endsNumber_cons {c : Char} {rest : List Char}
    (h : c.isDigit = false ∧ c ≠ '.' ∧ c ≠ 'e' ∧ c ≠ 'E') : EndsNumber (c :: rest) := by
  simpa [EndsNumber] using h

/-- The integers that keep their value. -/
def IsWord (n : Int) : Prop := -0x8000000000000000 ≤ n ∧ n ≤ 0xffffffffffffffff

theorem digits_append {ds rest : List Char} (hDigits : ∀ c ∈ ds, c.isDigit = true)
    (hRest : EndsNumber rest) : digits (ds ++ rest) = (ds, rest) := by
  have hStop : rest.takeWhile Char.isDigit = [] ∧ rest.dropWhile Char.isDigit = rest := by
    cases rest with
    | nil => simp
    | cons c rest =>
        have hc := (hRest c rfl).1
        simp [hc]
  rw [digits, List.span_eq_takeWhile_dropWhile, List.takeWhile_append_of_pos hDigits,
    List.dropWhile_append_of_pos hDigits, hStop.1, hStop.2, List.append_nil]

theorem digitsValue_toDigits (n : Nat) : digitsValue (Nat.toDigits 10 n) = n :=
  Nat.ofDigitChars_ten_toDigits

theorem isDigit_toDigits {n : Nat} : ∀ c ∈ Nat.toDigits 10 n, c.isDigit = true := fun _ hc =>
  Nat.isDigit_of_mem_toDigits (by decide) (by decide) hc

/-- A zero stands in front of no other digit. -/
theorem toDigits_eq_zero {n : Nat} (h : (Nat.toDigits 10 n).head? = some '0') :
    Nat.toDigits 10 n = ['0'] := by
  induction n using Nat.strong_induction_on with
  | _ n ih =>
      rcases Nat.lt_or_ge n 10 with hLt | hGe
      · rw [Nat.toDigits_of_lt_base hLt] at h ⊢
        simpa using h
      · rw [Nat.toDigits_of_base_le (by decide) hGe, List.head?_append_of_ne_nil _ (by simp)] at h
        have hTenth := congrArg digitsValue (ih (n / 10) (by omega) h)
        rw [digitsValue_toDigits] at hTenth
        have hZero : digitsValue ['0'] = 0 := rfl
        omega

/-- The digits of a word are too few for the number to be infinite. -/
theorem isInfinite_toDigits {n : Nat} (h : n ≤ 0xffffffffffffffff) :
    Numeral.isInfinite ⟨Nat.toDigits 10 n, [], 0⟩ = false := by
  have hLength : (Nat.toDigits 10 n).length ≤ 20 :=
    (Nat.length_toDigits_le_iff (by decide) (by decide)).2 (by omega)
  have hDropped : ((Nat.toDigits 10 n).dropWhile (· == '0')).length ≤ 20 :=
    (List.dropWhile_suffix _).length_le.trans hLength
  have hSmall : (((Nat.toDigits 10 n).dropWhile (· == '0')).length : Int) < 309 := by omega
  simp [Numeral.isInfinite, hSmall]

theorem fraction?_of_ends {rest : List Char} (h : EndsNumber rest) :
    fraction? rest = some (none, rest) := by
  cases rest with
  | nil => rfl
  | cons c rest =>
      have hc := (h c rfl).2.1
      simp [fraction?, hc]

theorem exponent?_of_ends {rest : List Char} (h : EndsNumber rest) :
    exponent? rest = some (none, rest) := by
  cases rest with
  | nil => rfl
  | cons c rest =>
      obtain ⟨-, -, hSmall, hCapital⟩ := h c rfl
      simp [exponent?, hSmall, hCapital]

/-- The digits of a natural number are read with the sign that was read before them. -/
theorem number?_toDigits {n : Nat} {rest : List Char} (hn : n ≤ 0xffffffffffffffff)
    (hRest : EndsNumber rest) :
    number? (Nat.toDigits 10 n ++ rest) = some (.int n, rest) ∧
      (0 < n → n ≤ 0x8000000000000000 →
        number? ('-' :: (Nat.toDigits 10 n ++ rest)) = some (.int (-n), rest)) := by
  have hDigits := digits_append (isDigit_toDigits (n := n)) hRest
  have hLead : ((Nat.toDigits 10 n).head? == some '0' && Nat.toDigits 10 n != ['0']) = false := by
    by_cases hZero : (Nat.toDigits 10 n).head? = some '0'
    · simp [toDigits_eq_zero hZero]
    · simp [hZero]
  have hUnsigned : ∀ s, Nat.toDigits 10 n ++ rest ≠ '-' :: s := by
    intro s hs
    cases hHead : Nat.toDigits 10 n with
    | nil => exact Nat.toDigits_ne_nil hHead
    | cons c ds =>
        have hc : c.isDigit = true := isDigit_toDigits (n := n) c (by simp [hHead])
        rw [hHead] at hs
        rw [(List.cons.inj hs).1] at hc
        exact absurd hc (by decide)
  constructor
  · unfold number?
    split
    · next negative s heq =>
        split at heq
        · next s' hs' => exact absurd hs' (hUnsigned s')
        · obtain ⟨rfl, rfl⟩ := Prod.mk.inj heq
          simp [hDigits, hLead, fraction?_of_ends hRest, exponent?_of_ends hRest,
            isInfinite_toDigits hn, digitsValue_toDigits, Numeral.integer, hn]
  · intro hPos hLe
    have hNot : ¬ (n = 0 ∨ 0x8000000000000000 < n) := by omega
    simp [number?, hDigits, hLead, fraction?_of_ends hRest, exponent?_of_ends hRest,
      isInfinite_toDigits hn, digitsValue_toDigits, Numeral.integer, hNot]

/-- What is written for an integer. -/
theorem toList_toString_int (n : Int) :
    (toString n).toList =
      if 0 ≤ n then Nat.toDigits 10 n.natAbs else '-' :: Nat.toDigits 10 n.natAbs := by
  cases n with
  | ofNat n => simp [Int.repr]
  | negSucc n =>
      have hNeg : ¬ 0 ≤ Int.negSucc n := by omega
      simp [Int.repr, hNeg]

theorem number?_toString {n : Int} {rest : List Char} (hn : IsWord n) (hRest : EndsNumber rest) :
    number? ((toString n).toList ++ rest) = some (.int n, rest) := by
  obtain ⟨hLow, hHigh⟩ := hn
  obtain ⟨hNat, hNeg⟩ := number?_toDigits (n := n.natAbs) (by omega) hRest
  rw [toList_toString_int]
  split
  · next h => rw [hNat, Int.natAbs_of_nonneg h]
  · next h =>
      rw [List.cons_append, hNeg (by omega) (by omega)]
      congr 3
      omega

/-! ## Texts -/

theorem hexDigit?_digitChar : ∀ d < 16, hexDigit? (Nat.digitChar d) = some d := by
  decide

/-- The number of a control character is read from its two digits. -/
theorem hex4?_hexEscape {c : Char} (h : c.toNat < 0x20) :
    hex4? '0' '0' (Nat.digitChar (c.toNat / 16)) (Nat.digitChar (c.toNat % 16)) = some c.toNat := by
  have hHigh := hexDigit?_digitChar (c.toNat / 16) (by omega)
  have hLow := hexDigit?_digitChar (c.toNat % 16) (by omega)
  have hZero : hexDigit? '0' = some 0 := rfl
  have hNumber : c.toNat / 16 * 16 + c.toNat % 16 = c.toNat := by omega
  simp [hex4?, hHigh, hLow, hZero, hNumber]

/-- Behind a backslash stands a letter or a number; all other characters stand for themselves. -/
theorem escape_cases (c : Char) :
    (∃ e, escape c = ['\\', e] ∧ e ≠ 'u' ∧ simpleEscape? e = some c) ∨
      (escape c = hexEscape c ∧ c.toNat < 0x20) ∨
      (escape c = [c] ∧ c ≠ '"' ∧ c ≠ '\\' ∧ ¬ c.toNat < 0x20) := by
  by_cases hLetter : c ∈ ['"', '\\', '\n', '\r', '\t', '\x08', '\x0c']
  · left
    simp only [List.mem_cons, List.not_mem_nil, or_false] at hLetter
    rcases hLetter with rfl | rfl | rfl | rfl | rfl | rfl | rfl <;>
      exact ⟨_, rfl, by decide, rfl⟩
  · right
    simp only [List.mem_cons, List.not_mem_nil, or_false, not_or] at hLetter
    obtain ⟨hQuote, hSlash, hFeed, hReturn, hTab, hBack, hForm⟩ := hLetter
    by_cases hControl : c.toNat < 0x20 <;>
      simp [escape, hQuote, hSlash, hFeed, hReturn, hTab, hBack, hForm, hControl]

/-- An escaped character is read as that character. -/
theorem units?_escape (c : Char) (rest : List Char) :
    units? (escape c ++ rest) = (units? rest).map fun r => (c.toNat :: r.1, r.2) := by
  rcases escape_cases c with ⟨e, hEscape, he, hLetter⟩ | ⟨hEscape, hControl⟩ |
    ⟨hEscape, hQuote, hSlash, hControl⟩
  · rw [hEscape, List.cons_append, List.singleton_append, units?.eq_4]
    · rw [hLetter]
      cases units? rest <;> rfl
    · rintro - - - - - rfl
      exact absurd rfl he
  · rw [hEscape, hexEscape]
    simp only [List.cons_append, List.nil_append]
    rw [units?.eq_3, hex4?_hexEscape hControl]
    cases units? rest <;> rfl
  · rw [hEscape, List.singleton_append, units?.eq_5 _ _ hQuote (by simp [hSlash])
      (by simp [hSlash]), if_neg hControl]
    cases units? rest <;> rfl

theorem units?_flatMap_escape (s rest : List Char) :
    units? (s.flatMap escape ++ '"' :: rest) = some (s.map Char.toNat, rest) := by
  induction s with
  | nil => rfl
  | cons c s ih =>
      rw [List.flatMap_cons, List.append_assoc, units?_escape, ih]
      rfl

/-- No character is half of a pair. -/
theorem not_half (c : Char) : isHighHalf c.toNat = false ∧ isLowHalf c.toNat = false := by
  have hValid : c.toNat < 0xD800 ∨ 0xDFFF < c.toNat ∧ c.toNat < 0x110000 := c.valid
  simp only [isHighHalf, isLowHalf, Bool.and_eq_false_iff, decide_eq_false_iff_not]
  omega

theorem join?_map_toNat (s : List Char) : join? (s.map Char.toNat) = some s := by
  induction s with
  | nil => rfl
  | cons c s ih =>
      rw [List.map_cons, join?.eq_def]
      simp [not_half, ih]

theorem string?_string (s : String) (rest : List Char) :
    string? (s.toList.flatMap escape ++ '"' :: rest) = some (some s, rest) := by
  simp [string?, units?_flatMap_escape, join?_map_toNat]

end FaultBench.Json
