import FaultBench.Proofs.Text.Cuts
import FaultBench.Text.Quoted

/-!
# Quoted texts

What a character is written as between two marks holds no line feed, whatever the character is, so
a quoted text lies on one line. A character is read back from what it is written as, with nothing that
follows (`unescape?_escapeIn`), so no two texts are quoted alike (`quote_injective`).
-/

namespace FaultBench.Text

/-- The digits of a number in hexadecimal. -/
theorem exists_digitChar_of_mem {n : Nat} {c : Char} (h : c ∈ Nat.toDigits 16 n) :
    ∃ d < 16, Nat.digitChar d = c := by
  induction n using Nat.strongRecOn with
  | ind n ih =>
      by_cases hn : n < 16
      · rw [Nat.toDigits_of_lt_base hn, List.mem_singleton] at h
        exact ⟨n, hn, h.symm⟩
      · rw [Nat.toDigits_of_base_le (by omega) (by omega), List.mem_append, List.mem_singleton] at h
        rcases h with hFirst | rfl
        · exact ih (n / 16) (by omega) hFirst
        · exact ⟨n % 16, Nat.mod_lt n (by omega), rfl⟩

theorem lineFeed_not_mem_numberEscape (c : Char) : '\n' ∉ numberEscape c := by
  have hDigits : ∀ d < 16, Nat.digitChar d ≠ '\n' := by decide
  intro hMem
  simp only [numberEscape, List.mem_append, List.mem_cons, List.not_mem_nil, or_false] at hMem
  rcases hMem with ((h | h | h) | h) | h
  · cases h
  · cases h
  · cases h
  · obtain ⟨d, hd, hFeed⟩ := exists_digitChar_of_mem h
    exact hDigits d hd hFeed
  · cases h

theorem lineFeed_not_mem_escapeIn (mark c : Char) : '\n' ∉ escapeIn mark c := by
  unfold escapeIn
  split
  · decide
  · split
    · decide
    · split
      · decide
      · split
        · decide
        next hFeed =>
          have hOther : '\n' ≠ c := fun hEq => hFeed (beq_iff_eq.mpr hEq.symm)
          split
          · simp [hOther]
          · split
            · exact lineFeed_not_mem_numberEscape c
            · simp [hOther]

/-- A quoted text lies on one line. -/
theorem lineFeed_not_mem_quote (s : String) : '\n' ∉ (quote s).toList := by
  rw [quote, String.toList_ofList, quoted]
  simp only [List.cons_append, List.mem_cons, List.mem_append, List.mem_flatMap, List.not_mem_nil,
    or_false, not_or, not_exists, not_and]
  exact ⟨by decide, fun c _ => lineFeed_not_mem_escapeIn '"' c, by decide⟩

/-! ## Reading quoted texts -/

/-- What a digit in hexadecimal stands for. -/
def hexValue (c : Char) : Nat := if c.isDigit then c.toNat - 48 else c.toNat - 87

/-- The number with the given digits in hexadecimal. -/
def hexNumber (ds : List Char) : Nat := ds.foldl (fun n c => 16 * n + hexValue c) 0

/-- The character that an escape stands for, and what follows it. The backslash was read already. -/
def escaped? : List Char → Option (Char × List Char)
  | [] => none
  | '0' :: rest => some ('\x00', rest)
  | 't' :: rest => some ('\t', rest)
  | 'r' :: rest => some ('\r', rest)
  | 'n' :: rest => some ('\n', rest)
  | 'u' :: '\x7b' :: rest =>
    some (Char.ofNat (hexNumber (rest.takeWhile (· != '\x7d'))),
      (rest.dropWhile (· != '\x7d')).drop 1)
  | c :: rest => some (c, rest)

/-- The first character of a text that was quoted, and what follows it. -/
def unescape? : List Char → Option (Char × List Char)
  | [] => none
  | c :: rest => if c = '\\' then escaped? rest else some (c, rest)

theorem hexValue_digitChar : ∀ d < 16, hexValue (Nat.digitChar d) = d := by decide

theorem hexNumber_toDigits (n : Nat) : hexNumber (Nat.toDigits 16 n) = n := by
  induction n using Nat.strongRecOn with
  | ind n ih =>
      by_cases hn : n < 16
      · rw [Nat.toDigits_of_lt_base hn, hexNumber, List.foldl_cons, List.foldl_nil,
          hexValue_digitChar n hn, Nat.mul_zero, Nat.zero_add]
      · have hFront := ih (n / 16) (by omega)
        have hLast := hexValue_digitChar (n % 16) (Nat.mod_lt n (by omega))
        rw [hexNumber] at hFront ⊢
        rw [Nat.toDigits_of_base_le (by omega) (by omega), List.foldl_append, hFront,
          List.foldl_cons, List.foldl_nil, hLast, Nat.div_add_mod]

theorem unescape?_numberEscape (c : Char) (rest : List Char) :
    unescape? (numberEscape c ++ rest) = some (c, rest) := by
  have hDigits : ∀ d ∈ Nat.toDigits 16 c.toNat, (d != '\x7d') = true := by
    have hOther : ∀ d < 16, (Nat.digitChar d != '\x7d') = true := by decide
    intro d hd
    obtain ⟨n, hn, rfl⟩ := exists_digitChar_of_mem hd
    exact hOther n hn
  have hStop : ('\x7d' != '\x7d') = false := by decide
  have hRead : unescape? (numberEscape c ++ rest) =
      escaped? ('u' :: '\x7b' :: (Nat.toDigits 16 c.toNat ++ '\x7d' :: rest)) := by
    simp [numberEscape, unescape?]
  rw [hRead, escaped?, takeWhile_append_cons hDigits hStop, dropWhile_append_cons hDigits hStop,
    hexNumber_toDigits, Char.ofNat_toNat, List.drop_one, List.tail_cons]

/-- A character is read back, and nothing that follows is taken for a part of it. -/
theorem unescape?_escapeIn (c : Char) (rest : List Char) :
    unescape? (escapeIn '"' c ++ rest) = some (c, rest) := by
  unfold escapeIn
  split
  next h => rw [beq_iff_eq.mp h]; rfl
  split
  next h => rw [beq_iff_eq.mp h]; rfl
  split
  next h => rw [beq_iff_eq.mp h]; rfl
  split
  next h => rw [beq_iff_eq.mp h]; rfl
  split
  next h =>
    rw [Bool.or_eq_true, beq_iff_eq, beq_iff_eq] at h
    rcases h with rfl | rfl <;> rfl
  next hMark =>
    split
    · exact unescape?_numberEscape c rest
    · have hOther : c ≠ '\\' := by
        rintro rfl
        exact hMark rfl
      rw [List.singleton_append, unescape?, if_neg hOther]

/-- Texts are told apart by what is written for their characters. -/
theorem flatMap_escapeIn_injective : Function.Injective (List.flatMap (escapeIn '"')) := by
  intro s
  induction s with
  | nil =>
      intro t h
      cases t with
      | nil => rfl
      | cons d t =>
          have hRead := unescape?_escapeIn d (t.flatMap (escapeIn '"'))
          rw [← List.flatMap_cons, ← h] at hRead
          cases hRead
  | cons c s ih =>
      intro t h
      have hRead := unescape?_escapeIn c (s.flatMap (escapeIn '"'))
      rw [← List.flatMap_cons, h] at hRead
      cases t with
      | nil => cases hRead
      | cons d t =>
          rw [List.flatMap_cons, unescape?_escapeIn] at hRead
          obtain ⟨rfl, hRest⟩ := Prod.mk.inj (Option.some.inj hRead)
          rw [ih hRest.symm]

/-- No two texts are quoted alike. -/
theorem quote_injective : Function.Injective quote := by
  intro s t h
  have hQuoted : quoted s.toList = quoted t.toList := String.ofList_injective h
  rw [quoted, quoted, List.cons_append, List.cons_append, List.cons.injEq,
    List.append_left_inj] at hQuoted
  exact String.toList_injective (flatMap_escapeIn_injective hQuoted.2)

end FaultBench.Text
