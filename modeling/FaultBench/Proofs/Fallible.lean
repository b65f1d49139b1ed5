import Mathlib.Logic.Basic

/-!
# Steps that may fail

What comes of steps that may fail, taken one after the other: all of them have to succeed, and of
those that fail the first one counts. Steps may change a state, which is left as it is where one of
them fails.
-/

namespace FaultBench

variable {ε α β : Type}

theorem bind_eq_ok_iff {x : Except ε α} {f : α → Except ε β} {b : β} :
    x >>= f = .ok b ↔ ∃ a, x = .ok a ∧ f a = .ok b := by
  cases x <;> simp [bind, Except.bind]

theorem bind_eq_error_iff {x : Except ε α} {f : α → Except ε β} {e : ε} :
    x >>= f = .error e ↔ x = .error e ∨ ∃ a, x = .ok a ∧ f a = .error e := by
  cases x <;> simp [bind, Except.bind]

theorem mapError_eq_ok_iff {δ : Type} {f : δ → ε} {x : Except δ α} {a : α} :
    x.mapError f = .ok a ↔ x = .ok a := by
  cases x with
  | error d => exact ⟨nofun, nofun⟩
  | ok b => constructor <;> (intro h; cases h; rfl)

theorem mapError_eq_error_iff {δ : Type} {f : δ → ε} {x : Except δ α} {e : ε} :
    x.mapError f = .error e ↔ ∃ d, x = .error d ∧ f d = e := by
  cases x with
  | error d =>
      constructor
      · intro h
        cases h
        exact ⟨d, rfl, rfl⟩
      · rintro ⟨_, hx, rfl⟩
        cases hx
        rfl
  | ok b => exact ⟨nofun, fun ⟨_, hx, _⟩ => nomatch hx⟩

theorem run_bind {σ : Type} (m : ExceptT ε (StateM σ) α) (f : α → ExceptT ε (StateM σ) β) (s : σ) :
    (m >>= f).run.run s =
      match m.run.run s with
      | (.ok a, s') => (f a).run.run s'
      | (.error e, s') => (.error e, s') := by
  rw [ExceptT.run_bind, StateT.run_bind]
  cases hRun : m.run.run s with
  | mk r s' => cases r <;> rfl

theorem run_bind_eq_ok_iff {σ : Type} {m : ExceptT ε (StateM σ) α} {f : α → ExceptT ε (StateM σ) β}
    {s s' : σ} {b : β} : (m >>= f).run.run s = (.ok b, s') ↔
      ∃ a t, m.run.run s = (.ok a, t) ∧ (f a).run.run t = (.ok b, s') := by
  rw [run_bind]
  cases m.run.run s with
  | mk r t =>
      constructor
      · intro h
        cases r with
        | ok a => exact ⟨a, t, rfl, h⟩
        | error e => cases h
      · rintro ⟨a, t, hRun, h⟩
        cases hRun
        exact h

/-- A step that leaves the state as it is. -/
theorem run_pure_eq_ok_iff {σ : Type} {x : Except ε α} {s s' : σ} {a : α} :
    (ExceptT.mk (pure x) : ExceptT ε (StateM σ) α).run.run s = (.ok a, s') ↔ x = .ok a ∧ s' = s := by
  constructor
  · intro h
    cases h
    exact ⟨rfl, rfl⟩
  · rintro ⟨rfl, rfl⟩
    rfl

/-- What follows goes on from the state as it is. -/
theorem run_get_bind {σ : Type} (f : σ → ExceptT ε (StateM σ) β) (s : σ) :
    (get >>= f).run.run s = (f s).run.run s := rfl

theorem mapM_eq_ok_iff {f : α → Except ε β} {xs : List α} {ys : List β} :
    xs.mapM f = .ok ys ↔ xs.map f = ys.map .ok := by
  induction xs generalizing ys with
  | nil => cases ys <;> simp [pure, Except.pure]
  | cons x xs ih =>
      rw [List.mapM_cons, bind_eq_ok_iff]
      simp only [bind_eq_ok_iff, ih, pure, Except.pure, Except.ok.injEq]
      cases ys with
      | nil => simp
      | cons y ys =>
          simp only [List.map_cons, List.cons.injEq]
          constructor
          · rintro ⟨a, ha, as, has, rfl, rfl⟩
            exact ⟨ha, has⟩
          · rintro ⟨hy, hys⟩
            exact ⟨y, hy, ys, hys, rfl, rfl⟩

/-- Steps that read what `g` writes read all of it back. -/
theorem mapM_eq_ok_iff_map {f : α → Except ε β} {g : β → α} (h : ∀ a b, f a = .ok b ↔ g b = a)
    {xs : List α} {ys : List β} : xs.mapM f = .ok ys ↔ ys.map g = xs := by
  rw [mapM_eq_ok_iff]
  induction xs generalizing ys with
  | nil => simp
  | cons x xs ih =>
      cases ys with
      | nil => simp
      | cons y ys => simp only [List.map_cons, List.cons.injEq, h, ih]

/-- The step for `x` fails, and those for all before it succeed. -/
def FirstFails (f : α → Except ε β) (xs : List α) (e : ε) : Prop :=
  ∃ before x after, xs = before ++ x :: after ∧ (∀ y ∈ before, ∃ b, f y = .ok b) ∧ f x = .error e

theorem firstFails_cons {f : α → Except ε β} {x : α} {xs : List α} {e : ε} :
    FirstFails f (x :: xs) e ↔ f x = .error e ∨ (∃ b, f x = .ok b) ∧ FirstFails f xs e := by
  constructor
  · rintro ⟨before, y, after, hSplit, hBefore, hy⟩
    cases before with
    | nil =>
        obtain ⟨rfl, -⟩ := List.cons.inj hSplit
        exact .inl hy
    | cons z before =>
        obtain ⟨rfl, rfl⟩ := List.cons.inj hSplit
        rw [List.forall_mem_cons] at hBefore
        exact .inr ⟨hBefore.1, before, y, after, rfl, hBefore.2, hy⟩
  · rintro (hx | ⟨hx, before, y, after, rfl, hBefore, hy⟩)
    · exact ⟨[], x, xs, rfl, by simp, hx⟩
    · exact ⟨x :: before, y, after, rfl, List.forall_mem_cons.mpr ⟨hx, hBefore⟩, hy⟩

theorem mapM_eq_error_iff {f : α → Except ε β} {xs : List α} {e : ε} :
    xs.mapM f = .error e ↔ FirstFails f xs e := by
  induction xs with
  | nil => simp [FirstFails, pure, Except.pure]
  | cons x xs ih =>
      rw [List.mapM_cons, bind_eq_error_iff, firstFails_cons, ← ih]
      simp [bind_eq_error_iff, pure, Except.pure]

theorem forM_eq_error_iff {f : α → Except ε PUnit} {xs : List α} {e : ε} :
    xs.forM f = .error e ↔ FirstFails f xs e := by
  induction xs with
  | nil => simp [FirstFails, pure, Except.pure]
  | cons x xs ih =>
      have hCons : (x :: xs).forM f = f x >>= fun _ => xs.forM f := rfl
      rw [hCons, bind_eq_error_iff, firstFails_cons, ← ih, exists_and_right]

/-- Steps fail exactly if one of them does. -/
theorem exists_firstFails_iff {f : α → Except ε β} {xs : List α} :
    (∃ e, FirstFails f xs e) ↔ ∃ x ∈ xs, ∃ e, f x = .error e := by
  induction xs with
  | nil => simp [FirstFails]
  | cons x xs ih =>
      simp only [firstFails_cons, exists_or, exists_and_left, ih, List.mem_cons, or_and_right,
        exists_eq_left]
      cases hx : f x with
      | ok b => simp
      | error e => simp

end FaultBench
