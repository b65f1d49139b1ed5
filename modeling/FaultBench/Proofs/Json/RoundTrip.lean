import FaultBench.Proofs.Json.Scalars

/-!
# Reading what was written

A datum fits a number of levels if its integers have 64 bits, its lists and records lie no deeper
than that, and nothing in it lacks a JSON form of its own. Such a datum is read back from what is
written for it, in either layout: `read?_write`.
-/

namespace FaultBench

/-- The datum has a JSON form of its own, with lists and records at most `levels` deep. -/
inductive Datum.Fits : Nat → Datum → Prop
  | null {levels : Nat} : Fits levels .null
  | bool {levels : Nat} (b : Bool) : Fits levels (.bool b)
  | text {levels : Nat} (s : String) : Fits levels (.text s)
  | int {levels : Nat} {n : Int} (h : Json.IsWord n) : Fits levels (.int n)
  | list {levels : Nat} {xs : List Datum} (h : ∀ x ∈ xs, Fits levels x) :
      Fits (levels + 1) (.list xs)
  | fields {levels : Nat} {kvs : List (String × Datum)} (h : ∀ kv ∈ kvs, Fits levels kv.2) :
      Fits (levels + 1) (.fields kvs)

namespace Json

/-! ## Blanks -/

@[simp] theorem skipSpace_nil : skipSpace [] = [] := rfl

theorem skipSpace_cons {c : Char} (h : isSpace c = false) (s : List Char) :
    skipSpace (c :: s) = c :: s :=
  List.dropWhile_cons_of_neg (by simp [h])

/-- What sets the parts of a list or record apart is skipped. -/
theorem skipSpace_lead (l : Layout) (k : Nat) (s : List Char) :
    skipSpace (l.lead k ++ s) = skipSpace s := by
  cases l with
  | compact => rfl
  | indented =>
      have hBlanks : ∀ c ∈ Layout.indented.lead k, isSpace c = true := by
        intro c hc
        rcases List.mem_cons.mp hc with rfl | hc
        · rfl
        · rw [List.eq_of_mem_replicate hc]
          rfl
      exact List.dropWhile_append_of_pos hBlanks

theorem endsNumber_lead {c : Char} {rest : List Char} (h : EndsNumber (c :: rest)) (l : Layout)
    (k : Nat) : EndsNumber (l.lead k ++ c :: rest) := by
  cases l with
  | compact => exact h
  | indented => exact endsNumber_cons (by decide)

variable {fuel depth : Nat} {s t : List Char}

/-- Blanks in front of a value count for nothing. -/
theorem value?_congr (h : skipSpace s = skipSpace t) :
    value? fuel depth s = value? fuel depth t := by
  cases fuel with
  | zero => rw [value?, value?]
  | succ fuel => rw [value?, value?, h]

theorem member?_congr (h : skipSpace s = skipSpace t) :
    member? fuel depth s = member? fuel depth t := by
  cases fuel with
  | zero => rw [member?, member?]
  | succ fuel => rw [member?, member?, h]

/-! ## Parts of lists and records -/

/-- The text is read as the datum at the given depth, whatever follows it. -/
def Reads (depth : Nat) (d : Datum) (s : List Char) : Prop :=
  ∀ fuel rest, 2 * s.length ≤ fuel → EndsNumber rest →
    value? fuel depth (s ++ rest) = some (d, rest)

/-- Every value has a character, so that the fuel lasts for a step. -/
theorem Reads.intro {d : Datum} (hNonempty : s ≠ [])
    (h : ∀ fuel rest, 2 * s.length ≤ fuel + 1 → EndsNumber rest →
      value? (fuel + 1) depth (s ++ rest) = some (d, rest)) : Reads depth d s := by
  intro fuel rest hFuel hRest
  have hPos := List.length_pos_iff.mpr hNonempty
  obtain ⟨fuel, rfl⟩ := Nat.exists_eq_add_one_of_ne_zero (n := fuel) (by omega)
  exact h fuel rest hFuel hRest

theorem endsNumber_elements (l : Layout) (k j : Nat) (xs : List Datum) (rest : List Char) :
    EndsNumber (elements l k xs ++ (l.lead j ++ ']' :: rest)) := by
  cases xs with
  | nil => exact endsNumber_lead (endsNumber_cons (by decide)) l j
  | cons x xs => exact endsNumber_cons (by decide)

theorem elements?_elements {l : Layout} {k : Nat} (j : Nat) {xs : List Datum} (rest : List Char)
    (hxs : ∀ x ∈ xs, Reads depth x (value l k x)) (hFuel : 2 * (elements l k xs).length < fuel) :
    elements? fuel depth (elements l k xs ++ (l.lead j ++ ']' :: rest)) = some (xs, rest) := by
  induction xs generalizing fuel with
  | nil =>
      obtain ⟨fuel, rfl⟩ := Nat.exists_eq_add_one_of_ne_zero (Nat.ne_zero_of_lt hFuel)
      rw [elements, List.nil_append, elements?, skipSpace_lead, skipSpace_cons rfl]
      rfl
  | cons x xs ih =>
      obtain ⟨hx, hxs⟩ := List.forall_mem_cons.mp hxs
      obtain ⟨fuel, rfl⟩ := Nat.exists_eq_add_one_of_ne_zero (Nat.ne_zero_of_lt hFuel)
      simp only [elements, List.length_append, List.length_cons, List.length_nil] at hFuel
      have hValue := hx fuel (elements l k xs ++ (l.lead j ++ ']' :: rest)) (by omega)
        (endsNumber_elements l _ _ xs rest)
      have hRest := @ih fuel hxs (by omega)
      simp only [elements, List.append_assoc, List.cons_append, List.nil_append]
      rw [elements?, skipSpace_cons rfl]
      simp only [value?_congr (skipSpace_lead l k _), hValue, Option.bind_eq_bind,
        Option.bind_some, hRest]
      rfl

/-- A name with its value. -/
theorem member?_written (l : Layout) (name : String) {x : Datum} {rest : List Char}
    (hx : Reads depth x s) (hFuel : 2 * s.length < fuel) (hRest : EndsNumber rest) :
    member? fuel depth (string name ++ (l.colon ++ (s ++ rest))) = some ((some name, x), rest) := by
  obtain ⟨fuel, rfl⟩ := Nat.exists_eq_add_one_of_ne_zero (Nat.ne_zero_of_lt hFuel)
  have hValue := hx fuel rest (by omega) hRest
  have hColon : ∃ t, skipSpace (l.colon ++ (s ++ rest)) = ':' :: t ∧
      value? fuel depth t = some (x, rest) := by
    cases l with
    | compact => exact ⟨_, rfl, hValue⟩
    | indented =>
        have hBlank : skipSpace (' ' :: (s ++ rest)) = skipSpace (s ++ rest) := rfl
        exact ⟨_, rfl, (value?_congr hBlank).trans hValue⟩
  obtain ⟨t, hSkip, hRead⟩ := hColon
  simp only [string, List.cons_append, List.append_assoc, List.nil_append]
  rw [member?, skipSpace_cons rfl]
  simp only [string?_string, Option.bind_eq_bind, Option.bind_some, hSkip, hRead]
  rfl

theorem endsNumber_members (l : Layout) (k j : Nat) (kvs : List (String × Datum))
    (rest : List Char) : EndsNumber (members l k kvs ++ (l.lead j ++ '\x7d' :: rest)) := by
  cases kvs with
  | nil => exact endsNumber_lead (endsNumber_cons (by decide)) l j
  | cons kv kvs => exact endsNumber_cons (by decide)

theorem members?_members {l : Layout} {k : Nat} (j : Nat) {kvs : List (String × Datum)}
    (rest : List Char)
    (hkvs : ∀ kv ∈ kvs, Reads depth kv.2 (value l k kv.2))
    (hFuel : 2 * (members l k kvs).length < fuel) :
    members? fuel depth (members l k kvs ++ (l.lead j ++ '\x7d' :: rest)) =
      some (kvs.map fun kv => (some kv.1, kv.2), rest) := by
  induction kvs generalizing fuel with
  | nil =>
      obtain ⟨fuel, rfl⟩ := Nat.exists_eq_add_one_of_ne_zero (Nat.ne_zero_of_lt hFuel)
      rw [members, List.nil_append, members?, skipSpace_lead, skipSpace_cons rfl]
      rfl
  | cons kv kvs ih =>
      obtain ⟨hx, hkvs⟩ := List.forall_mem_cons.mp hkvs
      obtain ⟨fuel, rfl⟩ := Nat.exists_eq_add_one_of_ne_zero (Nat.ne_zero_of_lt hFuel)
      simp only [members, List.length_append, List.length_cons, List.length_nil] at hFuel
      have hMember := member?_written l kv.1 hx (show _ < fuel by omega)
        (endsNumber_members l k j kvs rest)
      have hRest := @ih fuel hkvs (by omega)
      simp only [members, List.append_assoc, List.cons_append, List.nil_append]
      rw [members?, skipSpace_cons rfl]
      simp only [member?_congr (skipSpace_lead l k _), hMember, Option.bind_eq_bind,
        Option.bind_some, hRest]
      rfl

theorem record_map_some (kvs : List (String × Datum)) :
    record (kvs.map fun kv => (some kv.1, kv.2)) = .fields kvs := by
  have hNames : (kvs.map fun kv => (some kv.1, kv.2)).mapM
      (fun kv : Option String × Datum => kv.1.map (·, kv.2)) = some kvs := by
    induction kvs with
    | nil => rfl
    | cons kv kvs ih => simp [ih]
  rw [record, hNames]

/-! ## Values -/

/-- No value but a number opens with a digit or a sign. -/
theorem opensNumber {c : Char} (h : c.isDigit = true ∨ c = '-') :
    isSpace c = false ∧ c ∉ ['n', 't', 'f', '"', '[', ']', '\x7b'] := by
  constructor
  · by_contra hSpace
    simp only [isSpace, Bool.not_eq_false, Bool.or_eq_true, beq_iff_eq, or_assoc] at hSpace
    rcases hSpace with rfl | rfl | rfl | rfl <;> revert h <;> decide
  · simp only [List.mem_cons, List.not_mem_nil, or_false]
    rintro (rfl | rfl | rfl | rfl | rfl | rfl | rfl) <;> revert h <;> decide

theorem value?_number {c : Char} (h : c.isDigit = true ∨ c = '-') (s : List Char) :
    value? (fuel + 1) depth (c :: s) = number? (c :: s) := by
  obtain ⟨hSpace, hPlain⟩ := opensNumber h
  simp only [List.mem_cons, List.not_mem_nil, or_false, not_or] at hPlain
  obtain ⟨hNull, hTrue, hFalse, hText, hList, -, hFields⟩ := hPlain
  rw [value?, skipSpace_cons hSpace]
  split
  · next h => exact absurd (List.cons.inj h).1 hNull
  · next h => exact absurd (List.cons.inj h).1 hTrue
  · next h => exact absurd (List.cons.inj h).1 hFalse
  · next h => exact absurd (List.cons.inj h).1 hText
  · next h => exact absurd (List.cons.inj h).1 hList
  · next h => exact absurd (List.cons.inj h).1 hFields
  · rfl

theorem exists_toString_eq_cons (n : Int) :
    ∃ c s, (toString n).toList = c :: s ∧ (c.isDigit = true ∨ c = '-') := by
  rw [toList_toString_int]
  split
  · cases hDigits : Nat.toDigits 10 n.natAbs with
    | nil => exact absurd hDigits Nat.toDigits_ne_nil
    | cons c ds => exact ⟨c, ds, rfl, .inl (isDigit_toDigits c (hDigits ▸ List.mem_cons_self))⟩
  · exact ⟨_, _, rfl, .inr rfl⟩

theorem reads_int {n : Int} (hn : IsWord n) : Reads depth (.int n) (toString n).toList := by
  obtain ⟨c, s, hWritten, hc⟩ := exists_toString_eq_cons n
  refine .intro (hWritten ▸ List.cons_ne_nil c s) fun fuel rest _ hRest => ?_
  rw [hWritten, List.cons_append, value?_number hc, ← List.cons_append, ← hWritten]
  exact number?_toString hn hRest

theorem reads_text (t : String) : Reads depth (.text t) (string t) := by
  refine .intro (by simp [string]) fun fuel rest _ _ => ?_
  simp only [string, List.cons_append, List.append_assoc, List.nil_append]
  rw [value?, skipSpace_cons rfl]
  simp [string?_string]

theorem reads_null : Reads depth .null "null".toList :=
  .intro (by decide) fun fuel rest _ _ => by rw [value?]; rfl

theorem reads_bool (b : Bool) : Reads depth (.bool b) (if b then "true" else "false").toList := by
  cases b <;> exact .intro (by decide) fun fuel rest _ _ => by rw [value?]; rfl

/-- A value opens with a character that is no blank and ends no list. -/
theorem exists_value_eq_cons {n : Nat} {d : Datum} (h : d.Fits n) (l : Layout) (k : Nat) :
    ∃ c s, value l k d = c :: s ∧ isSpace c = false ∧ c ≠ ']' := by
  cases h with
  | null => exact ⟨_, _, by rw [value]; rfl, by decide⟩
  | bool b => cases b <;> exact ⟨_, _, by rw [value]; rfl, by decide⟩
  | text t => exact ⟨_, _, by rw [value]; rfl, by decide⟩
  | @int _ n h =>
      obtain ⟨c, s, hWritten, hc⟩ := exists_toString_eq_cons n
      obtain ⟨hSpace, hPlain⟩ := opensNumber hc
      exact ⟨c, s, by rw [value, hWritten], hSpace, fun hEnd => hPlain (by simp [hEnd])⟩
  | @list _ xs h =>
      have hOpen : ∃ s, value l k (.list xs) = '[' :: s := by
        cases xs <;> simp [value]
      exact hOpen.elim fun s hs => ⟨_, s, hs, by decide⟩
  | @fields _ kvs h =>
      have hOpen : ∃ s, value l k (.fields kvs) = '\x7b' :: s := by
        cases kvs <;> simp [value]
      exact hOpen.elim fun s hs => ⟨_, s, hs, by decide⟩

theorem reads_list {l : Layout} {k n : Nat} {xs : List Datum}
    (hFits : ∀ x ∈ xs, x.Fits n)
    (hxs : ∀ x ∈ xs, Reads (depth + 1) x (value l (k + 1) x)) (hDepth : depth < maxDepth) :
    Reads depth (.list xs) (value l k (.list xs)) := by
  refine .intro (by cases xs <;> simp [value]) fun fuel rest hFuel _ => ?_
  cases xs with
  | nil =>
      simp only [value, List.cons_append, List.nil_append]
      rw [value?, skipSpace_cons rfl]
      simp [skipSpace_cons (c := ']') rfl, atDepth, hDepth]
  | cons x xs =>
      obtain ⟨hx, hxs⟩ := List.forall_mem_cons.mp hxs
      obtain ⟨c, s, hValue, hSpace, hc⟩ :=
        exists_value_eq_cons (hFits x List.mem_cons_self) l (k + 1)
      simp only [value, List.length_append, List.length_cons, List.length_nil] at hFuel
      have hFirst := hx fuel (elements l (k + 1) xs ++ (l.lead k ++ ']' :: rest)) (by omega)
        (endsNumber_elements l _ _ xs rest)
      have hOthers := elements?_elements k rest hxs (show _ < fuel by omega)
      simp only [value, List.append_assoc, List.cons_append, List.nil_append]
      rw [value?, skipSpace_cons rfl]
      simp only [skipSpace_lead]
      rw [hValue] at hFirst ⊢
      rw [List.cons_append] at hFirst ⊢
      rw [skipSpace_cons hSpace]
      split
      · next h => exact absurd (List.cons.inj h).1 hc
      · simp [hFirst, hOthers, atDepth, hDepth]

theorem reads_fields {l : Layout} {k : Nat} {kvs : List (String × Datum)}
    (hkvs : ∀ kv ∈ kvs, Reads (depth + 1) kv.2 (value l (k + 1) kv.2)) (hDepth : depth < maxDepth) :
    Reads depth (.fields kvs) (value l k (.fields kvs)) := by
  refine .intro (by cases kvs <;> simp [value]) fun fuel rest hFuel _ => ?_
  cases kvs with
  | nil =>
      simp only [value, List.cons_append, List.nil_append]
      rw [value?, skipSpace_cons rfl]
      simp [skipSpace_cons (c := '\x7d') rfl, atDepth, hDepth]
  | cons kv kvs =>
      obtain ⟨hx, hRest⟩ := List.forall_mem_cons.mp hkvs
      simp only [value, List.length_append, List.length_cons, List.length_nil] at hFuel
      have hFirst := member?_written l kv.1 hx (show _ < fuel by omega)
        (endsNumber_members l (k + 1) k kvs rest)
      have hOthers := members?_members k rest hRest (show _ < fuel by omega)
      simp only [value, List.append_assoc, List.cons_append, List.nil_append]
      rw [value?, skipSpace_cons rfl]
      simp only [skipSpace_lead]
      rw [string, List.cons_append, List.cons_append] at hFirst ⊢
      rw [skipSpace_cons rfl]
      split
      · next h => exact absurd (List.cons.inj h).1 (by decide)
      · simp only [hFirst, hOthers, Option.bind_eq_bind, Option.bind_some]
        rw [atDepth, if_pos hDepth, ← record_map_some (kv :: kvs)]
        rfl

/-- A datum is read back at a depth at which its levels do not lie too deep. -/
theorem reads_value (l : Layout) (k : Nat) {n : Nat} {d : Datum} (h : d.Fits n)
    (hDepth : depth + n ≤ maxDepth) : Reads depth d (value l k d) := by
  induction h generalizing depth k with
  | null => exact reads_null
  | bool b => exact reads_bool b
  | text t => exact reads_text t
  | int h => exact reads_int h
  | list h ih => exact reads_list h (fun x hx => ih x hx (k + 1) (by omega)) (by omega)
  | fields h ih => exact reads_fields (fun kv hkv => ih kv hkv (k + 1) (by omega)) (by omega)

/-- **What is written is read back**, in either layout. -/
theorem read?_write (l : Layout) {d : Datum} (h : d.Fits maxDepth) :
    read? (write l d) = some d := by
  have hRead := reads_value l 0 h (Nat.zero_add _).le (2 * (value l 0 d).length + 2) [] (by omega)
    endsNumber_nil
  rw [List.append_nil] at hRead
  simp [read?, write, hRead]

end Json

end FaultBench
