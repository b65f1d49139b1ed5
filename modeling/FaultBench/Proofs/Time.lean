import FaultBench.Time
import Mathlib.Tactic

/-!
# Points in time, written and read

A point in time of a year of four digits is read back from its text, to the nanosecond and with a
61st second where there is one: `ofString?_text`.
-/

namespace FaultBench

namespace Time

/-! ## Numbers of a fixed width -/

theorem isDigit_padded {w n : Nat} : ∀ c ∈ padded w n, c.isDigit = true := by
  intro c hc
  simp only [padded, List.mem_append, List.mem_replicate, Nat.toString_eq_repr,
    Nat.toList_repr] at hc
  rcases hc with ⟨-, rfl⟩ | hc
  · rfl
  · exact Nat.isDigit_of_mem_toDigits (by decide) (by decide) hc

theorem length_padded {w n : Nat} (hw : 0 < w) (hn : n < 10 ^ w) : (padded w n).length = w := by
  have hLength : (Nat.toDigits 10 n).length ≤ w :=
    (Nat.length_toDigits_le_iff (by decide) hw).2 hn
  simp only [padded, List.length_append, List.length_replicate, Nat.toString_eq_repr,
    Nat.toList_repr]
  omega

theorem foldl_padded (w n : Nat) :
    (padded w n).foldl (fun n c => 10 * n + (c.toNat - 48)) 0 = n := by
  have hValue : Nat.ofDigitChars 10 (padded w n) 0 = n := by
    simp [padded, Nat.ofDigitChars_append]
  exact hValue

/-- A number of `w` digits is read if it may have so many, and no more where it may have more. -/
theorem number?_padded {most w n : Nat} {rest : List Char} (hw : 0 < w) (hn : n < 10 ^ w)
    (hMost : w = most ∨ w ≤ most ∧ ∀ c ∈ rest.head?, c.isDigit = false) :
    number? most (padded w n ++ rest) = some (n, rest) := by
  have hLength := length_padded hw hn
  have hStop : (rest.take (most - w)).takeWhile Char.isDigit = [] := by
    rcases hMost with rfl | ⟨-, hRest⟩
    · simp
    · cases rest with
      | nil => simp
      | cons c rest =>
          cases most - w with
          | zero => simp
          | succ k => simp [hRest c rfl]
  have hTaken : ((padded w n ++ rest).take most).takeWhile Char.isDigit = padded w n := by
    have hLe : (padded w n).length ≤ most := by omega
    rw [List.take_append, List.take_of_length_le hLe, hLength,
      List.takeWhile_append_of_pos isDigit_padded, hStop, List.append_nil]
  have hNonempty : (padded w n).isEmpty = false := by
    rw [List.isEmpty_eq_false_iff]
    rintro hNil
    rw [hNil] at hLength
    exact hw.ne hLength
  rw [number?, hTaken, hNonempty, foldl_padded]
  simp

theorem trimStart_cons {c : Char} (h : Text.isBlank c = false) (s : List Char) :
    Text.trimStart (c :: s) = c :: s :=
  List.dropWhile_cons_of_neg (by simp [h])

theorem isBlank_of_isDigit {c : Char} (h : c.isDigit = true) : Text.isBlank c = false := by
  have hRange : 48 ≤ c.toNat ∧ c.toNat ≤ 57 := Char.isDigit_iff_toNat.mp h
  simp [Text.isBlank]
  omega

/-- A number of a fixed width opens with a digit. -/
theorem exists_padded_eq_cons {w n : Nat} (hw : 0 < w) (hn : n < 10 ^ w) :
    ∃ c s, padded w n = c :: s ∧ c.isDigit = true := by
  have hLength := length_padded hw hn
  cases hPadded : padded w n with
  | nil =>
      rw [hPadded] at hLength
      exact absurd hLength hw.ne
  | cons c s => exact ⟨c, s, rfl, isDigit_padded c (hPadded ▸ List.mem_cons_self)⟩

theorem trimStart_padded {w n : Nat} (hw : 0 < w) (hn : n < 10 ^ w) (rest : List Char) :
    Text.trimStart (padded w n ++ rest) = padded w n ++ rest := by
  obtain ⟨c, s, hPadded, hc⟩ := exists_padded_eq_cons hw hn
  rw [hPadded]
  exact trimStart_cons (isBlank_of_isDigit hc) _

theorem field?_padded {n : Nat} (hn : n < 10 ^ 2) (rest : List Char) :
    field? 2 (padded 2 n ++ rest) = some (n, rest) := by
  rw [field?, trimStart_padded (by decide) hn, number?_padded (by decide) hn (.inl rfl)]

theorem mark?_cons {c : Char} (h : Text.isBlank c = false) (rest : List Char) :
    mark? c (c :: rest) = some rest := by
  rw [mark?, trimStart_cons h]
  simp

/-! ## Dates -/

theorem year?_chars {y : Int} (h : 0 ≤ y ∧ y ≤ 9999) (rest : List Char) :
    year? (yearChars y ++ rest) = some (y, rest) := by
  have hSmall : y.toNat < 10 ^ 4 := by omega
  obtain ⟨c, s, hPadded, hc⟩ := exists_padded_eq_cons (by decide) hSmall
  have hSign : ∀ sign t, sign.isDigit = false → padded 4 y.toNat ++ rest ≠ sign :: t := by
    intro sign t hSign hEq
    rw [hPadded] at hEq
    rw [(List.cons.inj hEq).1, hSign] at hc
    cases hc
  rw [yearChars, if_pos h, year?, trimStart_padded (by decide) hSmall]
  split
  · next t ht => exact absurd ht (hSign '-' t rfl)
  · next t ht => exact absurd ht (hSign '+' t rfl)
  · simp [number?_padded (by decide) hSmall (.inl rfl), h.1]

/-- A date that there is, in a year of four digits. -/
theorem date?_chars {d : Date} (hYear : 0 ≤ d.year ∧ d.year ≤ 9999) (hValid : d.isValid = true)
    (rest : List Char) :
    date? (yearChars d.year ++ '-' :: (padded 2 d.month ++ '-' :: (padded 2 d.day ++ rest))) =
      some (d, rest) := by
  have hDays : Date.daysInMonth d.year d.month ≤ 31 := by
    unfold Date.daysInMonth
    split
    · split <;> decide
    all_goals decide
  have hSmall : d.month < 10 ^ 2 ∧ d.day < 10 ^ 2 := by
    simp only [Date.isValid, Bool.and_eq_true, decide_eq_true_eq] at hValid
    omega
  simp [date?, year?_chars hYear, mark?_cons (c := '-') rfl, field?_padded hSmall.1,
    field?_padded hSmall.2, hValid]

/-! ## Times of day -/

/-- A fraction of a second goes on only with digits. -/
theorem fraction?_chars {n : Nat} (hn : n < 10 ^ 9) {rest : List Char}
    (hRest : ∀ c ∈ rest.head?, c.isDigit = false ∧ c ≠ '.') :
    fraction? (fractionChars n ++ rest) = some (n, rest) := by
  have hEnd : rest.dropWhile Char.isDigit = rest := by
    cases rest with
    | nil => rfl
    | cons c rest => exact List.dropWhile_cons_of_neg (by simp [(hRest c rfl).1])
  have hDigits : ∀ w m, 0 < w → w ≤ 9 → m < 10 ^ w → m * 10 ^ (9 - w) = n →
      fraction? ('.' :: padded w m ++ rest) = some (n, rest) := by
    intro w m hw hMost hm hValue
    have hNumber := number?_padded hw hm (.inr ⟨hMost, fun c hc => (hRest c hc).1⟩)
    simp [fraction?, hNumber, length_padded hw hm, hEnd, hValue]
  unfold fractionChars
  split_ifs with hZero hMilli hMicro
  · cases rest with
    | nil => rw [hZero]; rfl
    | cons c rest =>
        have hc := (hRest c rfl).2
        simp [fraction?, hc, hZero]
  · exact hDigits 3 _ (by decide) (by decide) (by omega) (by omega)
  · exact hDigits 6 _ (by decide) (by decide) (by omega) (by omega)
  · exact hDigits 9 _ (by decide) (by decide) (by omega) (by omega)

/-- The point in time is one of a year of four digits. Its nanoseconds are those that a time of day can
be made of, which is the library's own condition on the times that it makes: any within the second,
and as many again in the last second of a minute, which may be followed by another one before the
next minute. The clock and `ofString?` give no others. A time can be given others by setting its
nanoseconds alone; its text then counts a second more, and another time is read from it. -/
structure Writable (t : Time) : Prop where
  year : 0 ≤ t.date.year ∧ t.date.year ≤ 9999
  date : t.date.isValid = true
  second : t.second < 86400
  nano : t.nano < leapNanos ∨ t.second % 60 = 59 ∧ t.nano < 2 * leapNanos

/-- The time of day, behind which stands a zone. -/
theorem clock?_chars {hour minute second nano : Nat} (hHour : hour < 24) (hMinute : minute < 60)
    (hSecond : second ≤ 60) (hNano : nano < 10 ^ 9) {rest : List Char}
    (hRest : ∀ c ∈ rest.head?, c.isDigit = false ∧ c ≠ '.') :
    clock? (padded 2 hour ++ ':' :: (padded 2 minute ++ ':' :: (padded 2 second ++
      (fractionChars nano ++ rest)))) =
      some (if second = 60 then (hour * 3600 + minute * 60 + 59, nano + leapNanos)
        else (hour * 3600 + minute * 60 + second, nano), rest) := by
  have hFields : hour < 10 ^ 2 ∧ minute < 10 ^ 2 ∧ second < 10 ^ 2 := by omega
  have hInRange : ¬ (23 < hour ∨ 59 < minute ∨ 60 < second) := by omega
  simp only [clock?, field?_padded hFields.1, field?_padded hFields.2.1, field?_padded hFields.2.2,
    mark?_cons (c := ':') rfl, fraction?_chars hNano hRest, Option.bind_eq_bind, Option.bind_some]
  split_ifs with hOut hLeap
  · simp only [Bool.or_eq_true, decide_eq_true_eq, or_assoc] at hOut
    exact absurd hOut hInRange
  · rfl
  · rfl

/-- The second and the nanoseconds that are written for a point in time. -/
def Shows (t : Time) (second nano : Nat) : Prop :=
  if leapNanos ≤ t.nano then second = t.second % 60 + 1 ∧ nano + leapNanos = t.nano
  else second = t.second % 60 ∧ nano = t.nano

theorem exists_chars_eq (t : Time) (zone : String) : ∃ second nano, t.Shows second nano ∧
    t.chars zone = yearChars t.date.year ++ '-' :: (padded 2 t.date.month ++ '-' ::
      (padded 2 t.date.day ++ 'T' :: (padded 2 (t.second / 3600) ++ ':' ::
        (padded 2 (t.second / 60 % 60) ++ ':' :: (padded 2 second ++
          (fractionChars nano ++ zone.toList)))))) := by
  by_cases hLeap : leapNanos ≤ t.nano
  · refine ⟨t.second % 60 + 1, t.nano - leapNanos, ?_, ?_⟩
    · rw [Shows, if_pos hLeap]
      exact ⟨rfl, Nat.sub_add_cancel hLeap⟩
    · simp [chars, hLeap]
  · refine ⟨t.second % 60, t.nano, ?_, ?_⟩
    · rw [Shows, if_neg hLeap]
      exact ⟨rfl, rfl⟩
    · simp [chars, hLeap]

/-- What is read of the time of day is what was written of it. -/
theorem clock?_of_shows {t : Time} (h : t.Writable) {second nano : Nat}
    (hShows : t.Shows second nano) {rest : List Char}
    (hRest : ∀ c ∈ rest.head?, c.isDigit = false ∧ c ≠ '.') :
    clock? (padded 2 (t.second / 3600) ++ ':' :: (padded 2 (t.second / 60 % 60) ++ ':' ::
      (padded 2 second ++ (fractionChars nano ++ rest)))) = some ((t.second, t.nano), rest) := by
  have hDay := h.second
  have hNano := h.nano
  have hBillion : leapNanos = 10 ^ 9 := by norm_num [leapNanos]
  have hBounds : second ≤ 60 ∧ nano < 10 ^ 9 ∧
      (if second = 60 then (t.second / 3600 * 3600 + t.second / 60 % 60 * 60 + 59, nano + leapNanos)
        else (t.second / 3600 * 3600 + t.second / 60 % 60 * 60 + second, nano)) =
        (t.second, t.nano) := by
    unfold Shows at hShows
    split_ifs at hShows with hLeap
    · obtain ⟨rfl, hSum⟩ := hShows
      obtain ⟨hLast, hLt⟩ := hNano.resolve_left (by omega)
      have hSixty : t.second % 60 + 1 = 60 := by omega
      have hSecond : t.second / 3600 * 3600 + t.second / 60 % 60 * 60 + 59 = t.second := by omega
      rw [if_pos hSixty, hSecond, hSum]
      exact ⟨hSixty.le, by omega, rfl⟩
    · obtain ⟨rfl, rfl⟩ := hShows
      have hNotSixty : t.second % 60 ≠ 60 := by omega
      have hSecond :
          t.second / 3600 * 3600 + t.second / 60 % 60 * 60 + t.second % 60 = t.second := by
        omega
      rw [if_neg hNotSixty, hSecond]
      exact ⟨by omega, by omega, rfl⟩
  rw [clock?_chars (by omega) (by omega) hBounds.1 hBounds.2.1 hRest, hBounds.2.2]

theorem zone?_utc : zone? ['Z'] = some (0, []) := by
  decide

theorem ofLocal_utc {t : Time} (h : t.second < 86400) : ofLocal t.date t.second t.nano 0 = t := by
  have hDay : (t.second : Int) < secondsPerDay := by
    simp only [secondsPerDay]
    omega
  simp [ofLocal, hDay]

/-- **Points in time are read back** from their texts. -/
theorem ofString?_text {t : Time} (h : t.Writable) : ofString? (t.text "Z") = some t := by
  obtain ⟨second, nano, hShows, hChars⟩ := t.exists_chars_eq "Z"
  have hZone : "Z".toList = ['Z'] := rfl
  have hBlanks : Text.trimStart ['Z'] = ['Z'] ∧ Text.trimStart [] = [] := ⟨rfl, rfl⟩
  have hNext : ∀ c ∈ ['Z'].head?, c.isDigit = false ∧ c ≠ '.' := by
    rintro c ⟨⟩
    decide
  have hClock := clock?_of_shows h hShows hNext
  rw [ofString?, text, String.toList_ofList, hChars, hZone, date?_chars h.year h.date]
  simp only [Option.bind_eq_bind, Option.bind_some]
  rw [if_neg (by decide), hClock, Option.bind_some, hBlanks.1, zone?_utc, Option.bind_some,
    hBlanks.2, if_neg (by decide), ofLocal_utc h.second, if_pos h.date]

end Time

end FaultBench
