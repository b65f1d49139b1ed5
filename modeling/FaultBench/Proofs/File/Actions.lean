import FaultBench.Proofs.File.Trees

/-!
# Runs of actions

Making the directories on the way to a path makes none but those on the way (`Tree.OnWay`), also
where it fails (`changes_ensureDirectories`). Writing a text changes one file or nothing
(`writeText_ok`, `writeText_error`).
-/

namespace FaultBench.File

open FaultBench.Path

/-! ## On the way -/

/-- The location ends in a name of the path, and lies on the way down, if the path never goes up. -/
def Tree.OnWay (workingDirectory : Location) (p : String) (l : Location) : Prop :=
  (∃ n ∈ names p, l.getLast? = some n) ∧
    (".." ∉ names p → l <+: startOf workingDirectory p ++ steps p)

namespace Tree

variable {t t' : Tree} {w l : Location} {p q : String}

theorem onWay_of_target {parent : Location} {n : String} {slash : Bool}
    (h : t.target p = .ok (.name parent n slash)) : OnWay t.workingDirectory p (parent ++ [n]) := by
  obtain ⟨ns, hNames, hPlain, hWalk⟩ := target_eq_name h
  refine ⟨⟨n, by simp [hNames], List.getLast?_concat⟩, fun hUp => ?_⟩
  have hBefore : ".." ∉ ns := fun hMem => hUp (hNames ▸ List.mem_append_left [n] hMem)
  rw [walk_eq_append hBefore hWalk, steps, hNames, List.filter_append, List.append_assoc,
    List.filter_cons_of_pos (by simpa using hPlain.1)]
  exact List.prefix_rfl

theorem OnWay.of_parent (hParent : parent? p = some q) (h : OnWay w q l) : OnWay w p l := by
  obtain ⟨hAbs, hNames, hSteps⟩ := names_parent? hParent
  obtain ⟨⟨n, hn, hLast⟩, hWay⟩ := h
  refine ⟨⟨n, hNames hn, hLast⟩, fun hUp => ?_⟩
  have hPrefix := hWay fun hMem => hUp (hNames hMem)
  rw [startOf, hAbs, hSteps] at hPrefix
  exact hPrefix.trans (List.prefix_append_right_inj _ |>.mpr (List.dropLast_prefix _))

end Tree

/-! ## Actions -/

namespace Action

open FaultBench.File.Tree

variable {t t' : Tree} {p q : String}

theorem run_change (f : Tree → Except IoError Tree) (t : Tree) : (change f).run.run t =
    match f t with
    | .ok t' => (.ok (), t')
    | .error e => (.error e, t) := by
  rw [change, run_bind]
  change (match f t with
    | .ok t' => set t'
    | .error e => throw e : Action Unit).run.run t = _
  cases f t <;> rfl

/-- A text is written to the name that its path leads to. -/
theorem writeText_ok {s : String} (h : (writeText p s).run.run t = (.ok (), t')) :
    ∃ l, t.LeadsTo p l ∧ Changes [(l, s.toUTF8.toList)] (fun _ => False) t t' := by
  rw [writeText, write, run_change] at h
  split at h
  next hWrite =>
    cases h
    exact changes_write hWrite
  next => cases h

/-- A text that cannot be written changes nothing. -/
theorem writeText_error {s : String} {e : IoError}
    (h : (writeText p s).run.run t = (.error e, t')) : t' = t := by
  rw [writeText, write, run_change] at h
  split at h
  · cases h
  · cases h
    rfl

theorem run_ensureDirectory (p : String) (t : Tree) : (ensureDirectory p).run.run t =
    match t.createDirectory p with
    | .ok t' => (.ok (), t')
    | .error e => if t.isDirectory p then (.ok (), t) else (.error e, t) := by
  rw [ensureDirectory, run_bind]
  change (match t.createDirectory p with
    | .ok t' => set t'
    | .error e => if t.isDirectory p then pure () else throw e : Action Unit).run.run t = _
  split
  · rfl
  · split <;> rfl

theorem run_createDirectories (fuel : Nat) (p : String) (t : Tree) :
    (createDirectories (fuel + 1) p).run.run t =
      if p = "" then (.ok (), t)
      else match t.createDirectory p, parent? p with
        | .ok t', _ => (.ok (), t')
        | .error .notFound, some q =>
          (createDirectories fuel q >>= fun _ => ensureDirectory p).run.run t
        | .error e, _ => if t.isDirectory p then (.ok (), t) else (.error e, t) := by
  rw [createDirectories]
  split
  · rfl
  · rw [run_bind]
    change (match t.createDirectory p, parent? p with
      | .ok t', _ => set t'
      | .error .notFound, some q => do
        createDirectories fuel q
        ensureDirectory p
      | .error e, _ => if t.isDirectory p then pure () else throw e : Action Unit).run.run t = _
    split
    · rfl
    · rfl
    · split <;> rfl

theorem changes_of_createDirectory (h : t.createDirectory p = .ok t') :
    Changes [] (OnWay t.workingDirectory p) t t' := by
  obtain ⟨parent, n, slash, hTarget, hChanges⟩ := changes_createDirectory h
  exact hChanges.mono fun l hl => hl ▸ onWay_of_target hTarget

theorem changes_ensureDirectory (p : String) (t : Tree) :
    Changes [] (OnWay t.workingDirectory p) t ((ensureDirectory p).run.run t).2 := by
  rw [run_ensureDirectory]
  split
  next hMade => exact changes_of_createDirectory hMade
  next =>
    split
    · exact .refl t
    · exact .refl t

theorem changes_createDirectories (fuel : Nat) (p : String) (t : Tree) :
    Changes [] (OnWay t.workingDirectory p) t ((createDirectories fuel p).run.run t).2 := by
  induction fuel generalizing p t with
  | zero => exact .refl t
  | succ fuel ih =>
      rw [run_createDirectories]
      split
      · exact .refl t
      · split
        next _ hMade => exact changes_of_createDirectory hMade
        next q _ hParent =>
          have hAbove := (ih q t).mono fun _ hl => OnWay.of_parent hParent hl
          rw [run_bind]
          split
          next t' hRun =>
            rw [hRun] at hAbove
            have hHere := changes_ensureDirectory p t'
            rw [hAbove.workingDirectory] at hHere
            exact hAbove.trans hHere
          next hRun =>
            rw [hRun] at hAbove
            exact hAbove
        next =>
          split
          · exact .refl t
          · exact .refl t

/-- However far it gets, making the directories on the way to a path makes no others. -/
theorem changes_ensureDirectories (p : String) (t : Tree) :
    Changes [] (OnWay t.workingDirectory p) t ((ensureDirectories p).run.run t).2 :=
  changes_createDirectories _ p t

end Action

end FaultBench.File
