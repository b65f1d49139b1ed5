import FaultBench.Proofs.Program.Layout
import FaultBench.Proofs.Program.Ranges
import FaultBench.Corpus.Manifest
import FaultBench.Verdict.Judgement
import Mathlib

/-!
# What a source says of its program

The comment of a source tells the id of the kind, its class and all parameters, also those that the
class does not use, so programs with one source are one program: `eq_of_source`.
-/

namespace FaultBench

namespace Text

theorem int_inj {a b : Int} (h : (toString a).toList = (toString b).toList) : a = b :=
  Int.repr_inj.mp (String.toList_inj.mp h)

theorem nat_inj {a b : Nat} (h : (toString a).toList = (toString b).toList) : a = b :=
  Nat.repr_inj.mp (String.toList_inj.mp h)

theorem bool_inj {a b : Bool} (h : (toString a).toList = (toString b).toList) : a = b := by
  cases a <;> cases b <;> first | rfl | exact absurd h (by decide)

end Text

namespace Synthesis

open Text

variable {k k' : Kind} {v v' : Variant}

/-- A value ends at the blank in front of the next mark. -/
theorem value_inj {mark : String} {x y s t : List Char} (hx : IsWord x) (hy : IsWord y)
    (hMark : ∃ name, mark.toList = ' ' :: name)
    (h : x ++ (mark.toList ++ s) = y ++ (mark.toList ++ t)) : x = y ∧ s = t := by
  obtain ⟨name, hName⟩ := hMark
  rw [hName, List.cons_append, List.cons_append] at h
  obtain ⟨hValue, hRest⟩ := append_cons_inj (hx.not_mem rfl) (hy.not_mem rfl) h
  exact ⟨hValue, List.append_cancel_left hRest⟩

theorem variantNote_inj (h : variantNote v = variantNote v') : v = v' := by
  have hText := congrArg String.toList h
  rw [toList_variantNote, toList_variantNote] at hText
  replace hText := List.append_cancel_left hText
  obtain ⟨hAlloc, hText⟩ := value_inj (.int _) (.int _) ⟨_, rfl⟩ hText
  obtain ⟨hBuffer, hText⟩ := value_inj (.int _) (.int _) ⟨_, rfl⟩ hText
  obtain ⟨hOverflow, hText⟩ := value_inj (.int _) (.int _) ⟨_, rfl⟩ hText
  obtain ⟨hDepth, hText⟩ := value_inj (.nat _) (.nat _) ⟨_, rfl⟩ hText
  obtain ⟨hCount, hText⟩ := value_inj (.nat _) (.nat _) ⟨_, rfl⟩ hText
  obtain ⟨hAccess, hText⟩ :=
    value_inj v.access.isWord_name v'.access.isWord_name ⟨_, rfl⟩ hText
  have hSpin := bool_inj hText
  cases v
  cases v'
  simp only [Variant.mk.injEq]
  exact ⟨int_inj hAlloc, int_inj hBuffer, int_inj hOverflow, nat_inj hDepth, nat_inj hCount,
    Access.name_inj (String.toList_inj.mp hAccess), hSpin⟩

/-- The comment of a source tells all that its program is made of. -/
theorem source_inj (h : (source k v).text = (source k' v').text) :
    k.id = k'.id ∧ k.faultClass = k'.faultClass ∧ v = v' := by
  have hChars := String.ofList_injective h
  rw [Source.chars_eq, Source.chars_eq, remark_source, remark_source] at hChars
  simp only [List.append_assoc, List.cons_append, List.append_cancel_left_eq] at hChars
  obtain ⟨hId, hChars⟩ :=
    append_cons_inj (k.id.isWord_text.not_mem rfl) (k'.id.isWord_text.not_mem rfl) hChars
  replace hChars := List.append_cancel_left hChars
  obtain ⟨hClass, hChars⟩ := append_cons_inj (k.faultClass.isWord_name.not_mem rfl)
    (k'.faultClass.isWord_name.not_mem rfl) hChars
  replace hChars := List.append_cancel_left hChars
  obtain ⟨hNote, -⟩ := append_cons_inj ((isNote_variantNote v).not_mem rfl)
    ((isNote_variantNote v').not_mem rfl) hChars
  exact ⟨KindId.ext_text (String.toList_inj.mp hId),
    FaultClass.name_inj (String.toList_inj.mp hClass), variantNote_inj (String.toList_inj.mp hNote)⟩

end Synthesis

/-! ## Digests -/

/-- A manifest or a report gives the digest for the program. -/
inductive Program.Recorded (p : Program) (digest : String) : Prop
  | manifest {ps : List Program} {i : Nat} {e : ManifestEntry} (program : ps[i]? = some p)
      (entry : (Manifest.ofPrograms ps).programs[i]? = some e) (shown : e.digest = digest)
  | report {verifier : Verifier} {head : Report.Head} {ks : List Kind} {outcomes : Outcomes}
      {aborted : Option String} {i : Nat} {k : Kind} {r : Run} {w : Verdict}
      (kind : ks[i]? = some k) (ran : outcomes.lookup k.id = some (.ok r)) (program : r.program = p)
      (verdict : (verifier.verifySelection head ks outcomes aborted).verdicts[i]? = some w)
      (shown : w.programDigest = some digest)

theorem Verifier.programDigest_judgeRun (v : Verifier) (k : Kind) (r : Run) :
    (v.judgeRun k r).programDigest = some r.program.digest := by
  unfold judgeRun
  dsimp only
  split <;> rfl

theorem Program.Recorded.eq_digest {p : Program} {digest : String} (h : p.Recorded digest) :
    digest = p.digest := by
  cases h with
  | manifest hProgram hEntry hShown =>
      rw [Manifest.ofPrograms, List.getElem?_map, hProgram] at hEntry
      cases hEntry
      exact hShown.symm
  | @report verifier _ _ _ _ _ k r _ hKind hRan hProgram hVerdict hShown =>
      subst hProgram
      rw [Verifier.verifySelection, Report.ofVerdicts, Verifier.verdicts, List.getElem?_map,
        hKind] at hVerdict
      cases hVerdict
      dsimp only at hShown
      rw [hRan, Verifier.judge, verifier.programDigest_judgeRun k r] at hShown
      exact (Option.some.inj hShown).symm

namespace Kind

variable {k k' : Kind} {v v' : Variant} {p p' : Program}

/-- **A source tells its kind, its class and its variant**, and so does the digest of a program in a
manifest or a report, unless two different sources have one digest. -/
theorem eq_of_source (h : k.synthesize v = .ok p) (h' : k'.synthesize v' = .ok p') :
    (p.source = p'.source → k.id = k'.id ∧ k.faultClass = k'.faultClass ∧ v = v') ∧
    ∀ digest, p.Recorded digest → p'.Recorded digest →
      (k.id = k'.id ∧ k.faultClass = k'.faultClass ∧ v = v') ∨
        p.source ≠ p'.source ∧
          Digest.Sha256.ofString p.source = Digest.Sha256.ofString p'.source := by
  obtain ⟨-, rfl⟩ := synthesize_eq_ok_iff.mp h
  obtain ⟨-, rfl⟩ := synthesize_eq_ok_iff.mp h'
  refine ⟨Synthesis.source_inj, fun digest hRecorded hRecorded' => ?_⟩
  by_cases hSource : (Synthesis.source k v).text = (Synthesis.source k' v').text
  · exact .inl (Synthesis.source_inj hSource)
  · exact .inr ⟨hSource, hRecorded.eq_digest.symm.trans hRecorded'.eq_digest⟩

/-- The parameter in which the variants differ is one that the class does not use. -/
theorem eq_of_source_unused : ∃ p p',
    (builtin .nullDeref).synthesize { allocSize := -1 } = .ok p ∧
      (builtin .nullDeref).synthesize { allocSize := 11 } = .ok p' ∧ p.source ≠ p'.source := by
  obtain ⟨p, hp⟩ := (exists_synthesize_iff (k := builtin .nullDeref)
    (v := { allocSize := -1 })).mpr (by decide)
  obtain ⟨p', hp'⟩ := (exists_synthesize_iff (k := builtin .nullDeref)
    (v := { allocSize := 11 })).mpr (by decide)
  refine ⟨p, p', hp, hp', fun hSource => ?_⟩
  obtain ⟨-, -, hVariant⟩ := (eq_of_source hp hp').1 hSource
  exact absurd hVariant (by decide)

end Kind

end FaultBench
