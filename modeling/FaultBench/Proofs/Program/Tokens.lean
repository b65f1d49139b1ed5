import FaultBench.Proofs.Program.Layout

/-!
# Tokens and functions of C texts

A reader of C texts takes words, string literals and single marks from the characters, and the
definitions of functions from those tokens. It goes through both once and from the front, so what is
read of a text is read of its parts one after the other (`run_append`), if none of them ends within
a token or within a declaration (`Declares.append`). A word that is put into a line of code changes
neither its braces nor what is called on it (`Stretch.fill`).
-/

namespace FaultBench.Lexis

open Text

/-! ## Readers -/

section Run

variable {σ α β : Type} {step : σ → α → σ × List β}

/-- Where a reader comes to from `p`, and what it gives out on its way. -/
def run (step : σ → α → σ × List β) (p : σ) : List α → σ × List β
  | [] => (p, [])
  | x :: xs => ((run step (step p x).1 xs).1, (step p x).2 ++ (run step (step p x).1 xs).2)

variable {p q r : σ} {x : α} {xs ys : List α} {us vs : List β}

theorem run_cons (hx : step p x = (q, us)) (hxs : run step q xs = (r, vs)) :
    run step p (x :: xs) = (r, us ++ vs) := by
  rw [run, hx, hxs]

theorem run_append (hxs : run step p xs = (q, us)) (hys : run step q ys = (r, vs)) :
    run step p (xs ++ ys) = (r, us ++ vs) := by
  induction xs generalizing p us with
  | nil =>
      obtain ⟨rfl, rfl⟩ := Prod.mk.inj hxs
      exact hys
  | cons x xs ih =>
      obtain ⟨hEnd, rfl⟩ := Prod.mk.inj hxs
      rw [List.cons_append, List.append_assoc]
      exact run_cons rfl (ih (Prod.ext hEnd rfl))

end Run

/-! ## Tokens -/

inductive Token
  /-- A name, a keyword or a number. -/
  | word (text : List Char)
  | literal (text : List Char)
  | mark (c : Char)
  deriving DecidableEq

/-- Where a reader of characters stands. It knows no character literals. -/
inductive Cursor
  /-- In code, behind the characters of a word that may go on. -/
  | code (word : List Char)
  /-- Behind a slash that may begin a comment. -/
  | slash
  | comment
  /-- In a comment, behind a star that may end it. -/
  | star
  /-- In a directive or a comment that ends with its line. -/
  | aside
  | literal (text : List Char)
  /-- In a literal, behind a backslash. -/
  | escaped (text : List Char)
  deriving DecidableEq

def isNameChar (c : Char) : Bool := c.isAlphanum || c == '_'

/-- The word that ends, if there is one. -/
def flush (word : List Char) : List Token := if word = [] then [] else [.word word]

namespace Cursor

/-- Between two tokens. -/
def start : Cursor := .code []

/-- A character that does not go on with a word. -/
def enter (c : Char) : Cursor × List Token :=
  if c = '"' then (.literal [], [])
  else if c = '/' then (.slash, [])
  else if c = '#' then (.aside, [])
  else if isBlank c then (start, [])
  else (start, [.mark c])

def step : Cursor → Char → Cursor × List Token
  | .code w, c =>
    if isNameChar c then (.code (w ++ [c]), []) else ((enter c).1, flush w ++ (enter c).2)
  | .slash, c =>
    if c = '*' then (.comment, [])
    else if c = '/' then (.aside, [])
    else if isNameChar c then (.code [c], [.mark '/'])
    else ((enter c).1, .mark '/' :: (enter c).2)
  | .comment, c => (if c = '*' then .star else .comment, [])
  | .star, c => (if c = '/' then start else if c = '*' then .star else .comment, [])
  | .aside, c => (if c = '\n' then start else .aside, [])
  | .literal s, c =>
    if c = '"' then (start, [.literal s])
    else if c = '\\' then (.escaped (s ++ [c]), [])
    else (.literal (s ++ [c]), [])
  | .escaped s, c => (.literal (s ++ [c]), [])

end Cursor

open Cursor (start)

/-- The tokens of a text that ends behind one of them. -/
def tokens (s : List Char) : List Token := (run Cursor.step start s).2

/-- A reader stands between two tokens behind the text. -/
def Whole (s : List Char) : Prop := (run Cursor.step start s).1 = start

instance (s : List Char) : Decidable (Whole s) := inferInstanceAs (Decidable (_ = _))

variable {s t w : List Char} {c : Char}

theorem Whole.run_eq (h : Whole s) : run Cursor.step start s = (start, tokens s) := Prod.ext h rfl

theorem whole_of_run {ts : List Token} (h : run Cursor.step start s = (start, ts)) :
    Whole s ∧ tokens s = ts := ⟨congrArg Prod.fst h, congrArg Prod.snd h⟩

theorem Whole.run_append (hs : Whole s) (t : List Char) : run Cursor.step start (s ++ t) =
    ((run Cursor.step start t).1, tokens s ++ tokens t) :=
  Lexis.run_append hs.run_eq (Prod.eta (run Cursor.step start t)).symm

theorem Whole.append (hs : Whole s) (ht : Whole t) : Whole (s ++ t) :=
  (congrArg Prod.fst (hs.run_append t)).trans ht

theorem tokens_append (hs : Whole s) : tokens (s ++ t) = tokens s ++ tokens t :=
  congrArg Prod.snd (hs.run_append t)

/-! ### Words, literals and comments -/

theorem run_code (h : ∀ d ∈ s, isNameChar d = true) :
    run Cursor.step (.code w) s = (.code (w ++ s), []) := by
  induction s generalizing w with
  | nil => rw [run, List.append_nil]
  | cons d s ih =>
      obtain ⟨hd, hs⟩ := List.forall_mem_cons.mp h
      have hStep : Cursor.step (.code w) d = (.code (w ++ [d]), []) := if_pos hd
      rw [List.append_cons]
      exact run_cons hStep (ih hs)

theorem step_code (hc : isNameChar c = false) :
    Cursor.step (.code w) c = ((Cursor.enter c).1, flush w ++ (Cursor.enter c).2) :=
  if_neg (by simp [hc])

/-- A word ends in front of a character that does not go on with it. -/
theorem run_code_cons (hc : isNameChar c = false) : run Cursor.step (.code w) (c :: s) =
    ((run Cursor.step start (c :: s)).1, flush w ++ tokens (c :: s)) := by
  simp only [tokens, start, run, step_code hc, List.append_assoc]
  rfl

/-- A word between two texts. -/
theorem reads_word (hw : ∀ d ∈ w, isNameChar d = true) (hNil : w ≠ []) (hs : Whole s)
    (ht : Whole t) (hSeam : t.head?.map isNameChar = some false) :
    Whole (s ++ (w ++ t)) ∧ tokens (s ++ (w ++ t)) = tokens s ++ .word w :: tokens t := by
  cases t with
  | nil => cases hSeam
  | cons c t =>
      have hEnd := run_code_cons (w := w) (s := t) (Option.some.inj hSeam)
      rw [flush, if_neg hNil, ht.run_eq] at hEnd
      exact whole_of_run (run_append hs.run_eq (run_append (run_code (w := []) hw) hEnd))

theorem isNameChar_of_isDigit (h : c.isDigit = true) : isNameChar c = true := by
  simp [isNameChar, Char.isAlphanum, h]

/-- Of the characters of ids, only the hyphen does not go on with a word. -/
theorem eq_hyphen_of_isIdChar (h : KindId.isIdChar c = true) (hc : isNameChar c = false) :
    c = '-' := by
  simp only [KindId.isIdChar, Bool.or_eq_true, beq_iff_eq] at h
  have hAlpha : c.isAlpha = (c.isUpper || c.isLower) := rfl
  simp only [isNameChar, Char.isAlphanum, hAlpha, Bool.or_eq_false_iff] at hc
  obtain ⟨⟨⟨-, hLower⟩, hDigit⟩, hScore⟩ := hc
  rcases h with ((hIn | hIn) | hIn) | rfl
  · exact absurd hIn (by simp [hLower])
  · exact absurd hIn (by simp [hDigit])
  · exact hIn
  · cases hScore

theorem run_literal (hQuote : '"' ∉ s) (hSlash : '\\' ∉ s) :
    run Cursor.step (.literal w) s = (.literal (w ++ s), []) := by
  induction s generalizing w with
  | nil => rw [run, List.append_nil]
  | cons d s ih =>
      obtain ⟨hd, hs⟩ := List.ne_and_not_mem_of_not_mem_cons hQuote
      obtain ⟨hd', hs'⟩ := List.ne_and_not_mem_of_not_mem_cons hSlash
      have hStep : Cursor.step (.literal w) d = (.literal (w ++ [d]), []) := by
        rw [Cursor.step, if_neg hd.symm, if_neg hd'.symm]
      rw [List.append_cons]
      exact run_cons hStep (ih hs hs')

/-- What stands between quotes is a literal. -/
theorem run_quoted (hQuote : '"' ∉ w) (hSlash : '\\' ∉ w) (t : List Char) :
    run Cursor.step start ('"' :: w ++ '"' :: t) =
      ((run Cursor.step start t).1, .literal w :: tokens t) := by
  have hOpen : Cursor.step start '"' = (.literal [], []) := rfl
  have hClose : Cursor.step (.literal w) '"' = (start, [.literal w]) := rfl
  have hEnd := run_cons hClose (Prod.eta (run Cursor.step start t)).symm
  exact run_cons hOpen (run_append (run_literal hQuote hSlash) hEnd)

/-- A word with hyphens in it is read as words and marks of subtraction. -/
theorem exists_run_word (hw : IsWord w) (hc : isNameChar c = false) (x : List Char) :
    ∃ ts, (∀ t ∈ ts, t = .mark '-' ∨ ∃ word, t = .word word) ∧
      run Cursor.step (.code x) (w ++ c :: s) =
        ((run Cursor.step start (c :: s)).1, ts ++ tokens (c :: s)) := by
  have hFlush : ∀ x, ∀ t ∈ flush x, t = .mark '-' ∨ ∃ word, t = .word word := by
    intro x t ht
    unfold flush at ht
    split at ht
    · cases ht
    · exact .inr ⟨x, List.mem_singleton.mp ht⟩
  induction w generalizing x with
  | nil => exact ⟨flush x, hFlush x, run_code_cons hc⟩
  | cons d w ih =>
      obtain ⟨hd, hs⟩ := List.forall_mem_cons.mp hw
      by_cases hWord : isNameChar d = true
      · obtain ⟨ts, hts, hRun⟩ := ih hs (x ++ [d])
        have hStep : Cursor.step (.code x) d = (.code (x ++ [d]), []) := if_pos hWord
        have hBoth := run_cons hStep hRun
        exact ⟨ts, hts, hBoth⟩
      · rw [Bool.not_eq_true] at hWord
        obtain rfl := eq_hyphen_of_isIdChar hd hWord
        obtain ⟨ts, hts, hRun⟩ := ih hs []
        have hStep : Cursor.step (.code x) '-' = (start, flush x ++ [.mark '-']) := step_code hWord
        refine ⟨(flush x ++ [.mark '-']) ++ ts, ?_, ?_⟩
        · refine List.forall_mem_append.mpr ⟨List.forall_mem_append.mpr ⟨hFlush x, ?_⟩, hts⟩
          exact List.forall_mem_singleton.mpr (.inl rfl)
        · rw [List.append_assoc]
          exact run_cons hStep hRun

/-- A comment without slashes ends with its closing mark. -/
theorem run_comment (h : '/' ∉ s) (p : Cursor) (hp : p = .comment ∨ p = .star) :
    run Cursor.step p (s ++ "*/".toList) = (start, []) := by
  induction s generalizing p with
  | nil => rcases hp with rfl | rfl <;> rfl
  | cons d s ih =>
      obtain ⟨hd, hs⟩ := List.ne_and_not_mem_of_not_mem_cons h
      have hStep : ∃ q, (q = .comment ∨ q = .star) ∧ Cursor.step p d = (q, []) := by
        rcases hp with rfl | rfl
        · by_cases hStar : d = '*'
          · exact ⟨.star, .inr rfl, by rw [Cursor.step, if_pos hStar]⟩
          · exact ⟨.comment, .inl rfl, by rw [Cursor.step, if_neg hStar]⟩
        · by_cases hStar : d = '*'
          · exact ⟨.star, .inr rfl, by rw [Cursor.step, if_neg hd.symm, if_pos hStar]⟩
          · exact ⟨.comment, .inl rfl, by rw [Cursor.step, if_neg hd.symm, if_neg hStar]⟩
      obtain ⟨q, hq, hStep⟩ := hStep
      exact run_cons hStep (ih hs q hq)

/-! ## Functions -/

structure Definition where
  name : List Char
  body : List Token
  deriving DecidableEq

/-- Where a reader of tokens stands. -/
inductive Region
  /-- Outside of braces, behind what may be the head of a function. -/
  | outer (head : List Token)
  /-- In the braces behind a head, and in `depth` pairs of braces more. -/
  | inner (head body : List Token) (depth : Nat)
  deriving DecidableEq

/-- The name in front of the parentheses that end the head of a function. No parentheses are
expected between these. -/
def headName? (head : List Token) : Option (List Char) :=
  match head.reverse with
  | .mark ')' :: params =>
    match params.dropWhile (· != .mark '(') with
    | _ :: .word name :: _ => some name
    | _ => none
  | _ => none

/-- In how many pairs of braces a reader is behind a token, unless it closes those around them. -/
def nextDepth (depth : Nat) (t : Token) : Option Nat :=
  if t = .mark '\x7b' then some (depth + 1)
  else if t = .mark '\x7d' then (if depth = 0 then none else some (depth - 1))
  else some depth

def Region.step : Region → Token → Region × List Definition
  | .outer head, t =>
    if t = .mark '\x7b' then (.inner head [] 0, [])
    else if t = .mark ';' then (.outer [], [])
    else (.outer (head ++ [t]), [])
  | .inner head body depth, t =>
    match nextDepth depth t with
    | some depth => (.inner head (body ++ [t]) depth, [])
    | none => (.outer [], (headName? head).toList.map (⟨·, body⟩))

/-- The functions that a text defines. -/
def functions (s : List Char) : List Definition := (run Region.step (.outer []) (tokens s)).2

/-- The words in front of an opening parenthesis, among them the functions that are called. -/
def callees : List Token → List (List Char)
  | .word w :: ts => (if ts.head? = some (.mark '(') then [w] else []) ++ callees ts
  | _ :: ts => callees ts
  | [] => []

/-- In how many pairs of braces a reader is behind tokens that close none but those that they open
and `depth` more. -/
def depthAfter (depth : Nat) (ts : List Token) : Option Nat := ts.foldlM nextDepth depth

/-- Not a bracket. -/
def Token.isPlain : Token → Bool
  | .mark c => c != '(' && c != ')' && c != '\x7b' && c != '\x7d'
  | _ => true

section Tokens

variable {ts us : List Token} {d e : Nat}

theorem callees_append (h : us.head? ≠ some (.mark '(')) :
    callees (ts ++ us) = callees ts ++ callees us := by
  induction ts with
  | nil => rfl
  | cons t ts ih =>
      have hHead : (ts ++ us).head? = some (.mark '(') ↔ ts.head? = some (.mark '(') := by
        cases ts with
        | nil => exact iff_of_false h (by simp)
        | cons => rfl
      cases t with
      | word w => simp only [List.cons_append, callees, hHead, ih, List.append_assoc]
      | literal | mark => exact ih

theorem head?_ne_of_plain (h : ∀ t ∈ ts, t.isPlain = true) : ts.head? ≠ some (.mark '(') :=
  fun hHead => absurd (h _ (List.mem_of_head? hHead)) (by decide)

theorem callees_plain (h : ∀ t ∈ ts, t.isPlain = true) : callees ts = [] := by
  induction ts with
  | nil => rfl
  | cons t ts ih =>
      obtain ⟨-, hs⟩ := List.forall_mem_cons.mp h
      cases t with
      | word w => rw [callees, if_neg (head?_ne_of_plain hs), ih hs, List.append_nil]
      | literal | mark => exact ih hs

theorem depthAfter_append (h : depthAfter d ts = some e) :
    depthAfter d (ts ++ us) = depthAfter e us := by
  rw [depthAfter] at h
  rw [depthAfter, List.foldlM_append, h]
  rfl

theorem depthAfter_plain (h : ∀ t ∈ ts, t.isPlain = true) : depthAfter d ts = some d := by
  induction ts with
  | nil => rfl
  | cons t ts ih =>
      obtain ⟨ht, hs⟩ := List.forall_mem_cons.mp h
      have hNext : nextDepth d t = some d := by
        rw [nextDepth, if_neg (by rintro rfl; cases ht), if_neg (by rintro rfl; cases ht)]
      rw [depthAfter, List.foldlM_cons, hNext]
      exact ih hs

theorem run_outer {head : List Token} (h : ∀ t ∈ ts, t ≠ .mark '\x7b' ∧ t ≠ .mark ';') :
    run Region.step (.outer head) ts = (.outer (head ++ ts), []) := by
  induction ts generalizing head with
  | nil => rw [run, List.append_nil]
  | cons t ts ih =>
      obtain ⟨ht, hs⟩ := List.forall_mem_cons.mp h
      have hStep : Region.step (.outer head) t = (.outer (head ++ [t]), []) := by
        rw [Region.step, if_neg ht.1, if_neg ht.2]
      rw [List.append_cons]
      exact run_cons hStep (ih hs)

/-- Of tokens whose braces match, a reader in a body leaves none out. -/
theorem run_inner {head body : List Token} (h : depthAfter d ts = some e) :
    run Region.step (.inner head body d) ts = (.inner head (body ++ ts) e, []) := by
  induction ts generalizing d body with
  | nil => rw [run, List.append_nil, Option.some.inj h]
  | cons t ts ih =>
      rw [depthAfter, List.foldlM_cons, Option.bind_eq_bind, Option.bind_eq_some_iff] at h
      obtain ⟨next, hNext, hRest⟩ := h
      have hStep : Region.step (.inner head body d) t = (.inner head (body ++ [t]) next, []) := by
        rw [Region.step, hNext]
      rw [List.append_cons]
      exact run_cons hStep (ih hRest)

end Tokens

/-! ## Stretches of code -/

/-- What is read of a part of a body: the braces lead from depth `d` to depth `e`, and `calls` stand
in front of parentheses. -/
structure Stretch (s : List Char) (d e : Nat) (calls : List (List Char)) : Prop where
  whole : Whole s
  depth : depthAfter d (tokens s) = some e
  calls_eq : callees (tokens s) = calls
  /-- A word in front does not become a call. -/
  apart : (tokens s).head? ≠ some (.mark '(')

instance (d e : Nat) (calls : List (List Char)) : Decidable (Stretch s d e calls) :=
  decidable_of_iff (Whole s ∧ depthAfter d (tokens s) = some e ∧ callees (tokens s) = calls ∧
      (tokens s).head? ≠ some (.mark '('))
    ⟨fun ⟨hWhole, hDepth, hCalls, hApart⟩ => ⟨hWhole, hDepth, hCalls, hApart⟩,
      fun ⟨hWhole, hDepth, hCalls, hApart⟩ => ⟨hWhole, hDepth, hCalls, hApart⟩⟩

namespace Stretch

variable {d e f : Nat} {calls calls' : List (List Char)}

theorem nil : Stretch [] d d [] := ⟨rfl, rfl, rfl, by simp [tokens, run]⟩

theorem append (hs : Stretch s d e calls) (ht : Stretch t e f calls') :
    Stretch (s ++ t) d f (calls ++ calls') where
  whole := hs.whole.append ht.whole
  depth := by
    rw [tokens_append hs.whole, depthAfter_append hs.depth, ht.depth]
  calls_eq := by
    rw [tokens_append hs.whole, callees_append ht.apart, hs.calls_eq, ht.calls_eq]
  apart := by
    rw [tokens_append hs.whole]
    cases hTokens : tokens s with
    | nil => exact ht.apart
    | cons =>
        have hApart := hs.apart
        rwa [hTokens] at hApart

/-- Tokens that are put in between two others, none of them a bracket, change nothing. -/
theorem put {u : List Char} {ts : List Token} (h : Stretch (s ++ t) d e calls) (hs : Whole s)
    (ht : (tokens t).head? ≠ some (.mark '(')) (hPlain : ∀ t ∈ ts, t.isPlain = true)
    (hPut : run Cursor.step start (u ++ t) = ((run Cursor.step start t).1, ts ++ tokens t)) :
    Stretch (s ++ (u ++ t)) d e calls := by
  have hHead : (ts ++ tokens t).head? ≠ some (.mark '(') := by
    cases ts with
    | nil => exact ht
    | cons => exact fun hFirst => head?_ne_of_plain hPlain hFirst
  have hTokens : tokens (s ++ (u ++ t)) = tokens s ++ (ts ++ tokens t) := by
    rw [tokens_append hs, tokens, tokens, hPut]
  obtain ⟨m, hm, hRest⟩ : ∃ m, depthAfter d (tokens s) = some m ∧
      depthAfter m (tokens t) = some e := by
    have hDepth := h.depth
    rw [tokens_append hs, depthAfter, List.foldlM_append, Option.bind_eq_bind,
      Option.bind_eq_some_iff] at hDepth
    exact hDepth
  constructor
  · have hWhole : Whole t := (congrArg Prod.fst (hs.run_append t)).symm.trans h.whole
    exact (congrArg Prod.fst (hs.run_append (u ++ t))).trans ((congrArg Prod.fst hPut).trans hWhole)
  · rw [hTokens, depthAfter_append hm, depthAfter_append (depthAfter_plain hPlain), hRest]
  · rw [hTokens, callees_append hHead, callees_append ht, callees_plain hPlain, List.nil_append,
      ← callees_append ht, ← tokens_append hs, h.calls_eq]
  · have hApart := h.apart
    rw [tokens_append hs] at hApart
    rw [hTokens]
    cases hFirst : tokens s with
    | nil => exact hHead
    | cons =>
        rwa [hFirst] at hApart

/-- A word may be put between the texts without becoming part of a token of theirs. -/
def Between (s t : List Char) : Prop :=
  Whole s ∧ t.head?.map isNameChar = some false ∧ (tokens t).head? ≠ some (.mark '(')

instance (s t : List Char) : Decidable (Between s t) := inferInstanceAs (Decidable (_ ∧ _))

/-- A word that is put into a line leaves its braces and calls as they are. -/
theorem fill (h : Stretch (s ++ t) d e calls ∧ Between s t) (hw : IsWord w) :
    Stretch (s ++ (w ++ t)) d e calls := by
  obtain ⟨hLine, hs, hSeam, ht⟩ := h
  cases t with
  | nil => cases hSeam
  | cons c t =>
      obtain ⟨ts, hts, hRun⟩ := exists_run_word hw (Option.some.inj hSeam) []
      refine hLine.put hs ht (fun t ht => ?_) hRun
      rcases hts t ht with rfl | ⟨word, rfl⟩ <;> rfl

/-- So does a word between quotes. -/
theorem quote (h : Stretch (s ++ t) d e calls ∧ Between s t) (hw : IsWord w) :
    Stretch (s ++ ('"' :: w ++ '"' :: t)) d e calls := by
  obtain ⟨hLine, hs, -, ht⟩ := h
  have hPlain : ∀ u ∈ [Token.literal w], u.isPlain = true := List.forall_mem_singleton.mpr rfl
  have hPut := hLine.put (u := '"' :: w ++ ['"']) hs ht hPlain
  rw [List.append_assoc] at hPut
  exact hPut (run_quoted (hw.not_mem rfl) (hw.not_mem rfl) t)

/-- Lines that follow a line. -/
theorem line {l : Line} {ls : List Line} (e : Nat) (calls : List (List Char))
    (h : Stretch l.chars d e calls) (hs : Stretch (ls.flatMap Line.chars) e f calls') :
    Stretch ((l :: ls).flatMap Line.chars) d f (calls ++ calls') := by
  rw [List.flatMap_cons]
  exact h.append hs

/-- Lines that follow a line into which a word is put. -/
theorem fillLine {n : Nat} {a w b : String} {ls : List Line} (e : Nat) (calls : List (List Char))
    (h : Stretch (List.replicate (4 * n) ' ' ++ a.toList ++ (b.toList ++ ['\n'])) d e calls ∧
      Between (List.replicate (4 * n) ' ' ++ a.toList) (b.toList ++ ['\n']))
    (hw : IsWord w.toList) (hs : Stretch (ls.flatMap Line.chars) e f calls') :
    Stretch ((⟨n, a ++ w ++ b⟩ :: ls).flatMap Line.chars) d f (calls ++ calls') := by
  have hChars : Line.chars ⟨n, a ++ w ++ b⟩ =
      List.replicate (4 * n) ' ' ++ a.toList ++ (w.toList ++ (b.toList ++ ['\n'])) := by
    simp [Line.chars]
  refine line e calls ?_ hs
  rw [hChars]
  exact fill h hw

end Stretch

/-! ## Declarations -/

/-- The text is made of whole declarations, and these are the functions that they define. -/
structure Declares (s : List Char) (ds : List Definition) : Prop where
  whole : Whole s
  read_eq : run Region.step (.outer []) (tokens s) = (.outer [], ds)

instance (ds : List Definition) : Decidable (Declares s ds) :=
  decidable_of_iff (Whole s ∧ run Region.step (.outer []) (tokens s) = (.outer [], ds))
    ⟨fun ⟨hWhole, hRead⟩ => ⟨hWhole, hRead⟩, fun ⟨hWhole, hRead⟩ => ⟨hWhole, hRead⟩⟩

/-- The text ends no declaration and begins no body. -/
structure Unended (s : List Char) : Prop where
  whole : Whole s
  unended : ∀ t ∈ tokens s, t ≠ .mark '\x7b' ∧ t ≠ .mark ';'

/-- The text is the head of a function of this name. -/
structure Heads (s : List Char) (name : List Char) : Prop extends Unended s where
  name_eq : headName? (tokens s) = some name

instance : Decidable (Unended s) :=
  decidable_of_iff (Whole s ∧ ∀ t ∈ tokens s, t ≠ .mark '\x7b' ∧ t ≠ .mark ';')
    ⟨fun ⟨hWhole, hUnended⟩ => ⟨hWhole, hUnended⟩, fun ⟨hWhole, hUnended⟩ => ⟨hWhole, hUnended⟩⟩

instance (name : List Char) : Decidable (Heads s name) :=
  decidable_of_iff (Unended s ∧ headName? (tokens s) = some name)
    ⟨fun ⟨hUnended, hName⟩ => ⟨hUnended, hName⟩, fun ⟨hUnended, hName⟩ => ⟨hUnended, hName⟩⟩

namespace Unended

theorem nil : Unended [] := ⟨rfl, List.forall_mem_nil _⟩

theorem append (hs : Unended s) (ht : Unended t) : Unended (s ++ t) where
  whole := hs.whole.append ht.whole
  unended := by
    rw [tokens_append hs.whole]
    exact List.forall_mem_append.mpr ⟨hs.unended, ht.unended⟩

theorem flatMap {α : Type} {f : α → List Char} {xs : List α} (h : ∀ x ∈ xs, Unended (f x)) :
    Unended (xs.flatMap f) := by
  induction xs with
  | nil => exact nil
  | cons x xs ih =>
      obtain ⟨hx, hxs⟩ := List.forall_mem_cons.mp h
      rw [List.flatMap_cons]
      exact hx.append (ih hxs)

theorem quoted (hw : IsWord w) (ht : Unended t) : Unended ('"' :: w ++ '"' :: t) := by
  have hRun := run_quoted (hw.not_mem rfl) (hw.not_mem rfl) t
  rw [ht.whole.run_eq] at hRun
  obtain ⟨hWhole, hTokens⟩ := whole_of_run hRun
  refine ⟨hWhole, ?_⟩
  rw [hTokens]
  exact List.forall_mem_cons.mpr ⟨⟨by simp, by simp⟩, ht.unended⟩

end Unended

/-- What is read of the lines of a function. -/
def Definition.ofFunction (name : List Char) (f : Function) : Definition :=
  ⟨name, tokens (f.body.flatMap Line.chars)⟩

namespace Declares

variable {ds es : List Definition}

theorem functions_eq (h : Declares s ds) : functions s = ds := congrArg Prod.snd h.read_eq

theorem nil : Declares [] [] := ⟨rfl, rfl⟩

theorem append (hs : Declares s ds) (ht : Declares t es) : Declares (s ++ t) (ds ++ es) where
  whole := hs.whole.append ht.whole
  read_eq := by
    rw [tokens_append hs.whole]
    exact run_append hs.read_eq ht.read_eq

theorem flatMap {α : Type} {f : α → List Line} {g : α → Definition} {xs : List α}
    (h : ∀ x ∈ xs, Declares ((f x).flatMap Line.chars) [g x]) :
    Declares ((xs.flatMap f).flatMap Line.chars) (xs.map g) := by
  induction xs with
  | nil => exact nil
  | cons x xs ih =>
      obtain ⟨hx, hxs⟩ := List.forall_mem_cons.mp h
      rw [List.flatMap_cons, List.flatMap_append]
      exact hx.append (ih hxs)

/-- A semicolon ends a declaration that defines no function. -/
theorem ended (h : Unended s) : Declares (s ++ ";\n".toList) [] := by
  have hEnd : Whole ";\n".toList ∧ tokens ";\n".toList = [.mark ';'] := by decide
  have hStep : ∀ head, run Region.step (.outer head) [.mark ';'] = (.outer [], []) := fun _ => rfl
  refine ⟨h.whole.append hEnd.1, ?_⟩
  rw [tokens_append h.whole, hEnd.2]
  exact run_append (run_outer h.unended) (hStep _)

/-- A comment declares nothing. -/
theorem comment (h : '/' ∉ s) : Declares ("/*".toList ++ s ++ "*/".toList) [] := by
  have hOpen : run Cursor.step start "/*".toList = (.comment, []) := rfl
  have hRun := run_append hOpen (run_comment h .comment (.inl rfl))
  rw [← List.append_assoc] at hRun
  obtain ⟨hWhole, hTokens⟩ := whole_of_run hRun
  refine ⟨hWhole, ?_⟩
  rw [hTokens]
  rfl

/-- A head and a body in braces define a function. -/
theorem function {name : List Char} {f : Function} {calls : List (List Char)}
    (hHead : Heads (Line.chars ⟨0, f.head⟩) name)
    (hBody : Stretch (f.body.flatMap Line.chars) 0 0 calls) :
    Declares (f.lines.flatMap Line.chars) [.ofFunction name f] := by
  have hOpen : Whole (Line.chars ⟨0, "\x7b"⟩) ∧
      tokens (Line.chars ⟨0, "\x7b"⟩) = [.mark '\x7b'] := by decide
  have hClose : Whole (Line.chars ⟨0, "\x7d"⟩) ∧
      tokens (Line.chars ⟨0, "\x7d"⟩) = [.mark '\x7d'] := by decide
  have hLines : f.lines.flatMap Line.chars = Line.chars ⟨0, f.head⟩ ++ (Line.chars ⟨0, "\x7b"⟩ ++
      (f.body.flatMap Line.chars ++ Line.chars ⟨0, "\x7d"⟩)) := by
    simp [Function.lines]
  have hEnd : ∀ body, run Region.step (.inner (tokens (Line.chars ⟨0, f.head⟩)) body 0)
      [.mark '\x7d'] = (.outer [], [⟨name, body⟩]) := by
    intro body
    have hNext : nextDepth 0 (.mark '\x7d') = none := rfl
    rw [run, Region.step, hNext, hHead.name_eq]
    rfl
  have hBraces := run_append (run_inner hBody.depth)
    (hEnd ([] ++ tokens (f.body.flatMap Line.chars)))
  have hStart : Region.step (.outer ([] ++ tokens (Line.chars ⟨0, f.head⟩))) (.mark '\x7b') =
      (.inner (tokens (Line.chars ⟨0, f.head⟩)) [] 0, []) := rfl
  rw [hLines]
  constructor
  · exact hHead.whole.append (hOpen.1.append (hBody.whole.append hClose.1))
  · rw [tokens_append hHead.whole, tokens_append hOpen.1, tokens_append hBody.whole, hOpen.2,
      hClose.2]
    exact run_append (run_outer hHead.unended) (run_cons hStart hBraces)

-- Neither the comment nor the literal is read as code.
example : (functions
    "/* g(void) */ int f(int n) \x7b puts(\"h();\"); return g(n); \x7d".toList).map
      (fun d => (d.name, callees d.body)) = [("f".toList, ["puts".toList, "g".toList])] := by
  decide +kernel

end Declares

end FaultBench.Lexis
