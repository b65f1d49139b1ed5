import FaultBench.Proofs.Bench.Agreement
import FaultBench.Proofs.Catalog.Requests

/-!
# Reports on requests

A report is made of a selection, or of a request whose unknown ids are ignored. Where the request
can be selected, both say the same; else the request is as good as one without its unknown ids, and
nothing is reported if none is left (`reports_on_requests`). A verdict depends on the outcome of its
own kind alone (`Verifier.verdicts_congr`, `Verifier.forall₂_verdicts`).
-/

namespace FaultBench

/-- The reports say the same, whatever run they are of. -/
structure Report.Concurs (a b : Report) : Prop where
  verdicts : a.verdicts = b.verdicts
  summary : a.summary = b.summary
  aborted : a.aborted = b.aborted

/-- The reports are on the same kinds, and say the same of all of them but one. -/
def Report.ConcursBut (id : KindId) (a b : Report) : Prop :=
  List.Forall₂ (fun w w' => w.kind = w'.kind ∧ (w.kind ≠ id → w = w')) a.verdicts b.verdicts

namespace Verifier

variable {v : Verifier} {head head' : Report.Head} {ks : List Kind} {found outcomes : Outcomes}
  {aborted : Option String} {id : KindId}

/-- Outcomes of other kinds than those that are judged have no influence. -/
theorem verdicts_congr (h : ∀ k ∈ ks, found.lookup k.id = outcomes.lookup k.id) :
    v.verdicts ks found = v.verdicts ks outcomes :=
  List.map_congr_left fun k hk => by rw [h k hk]

/-- An outcome has influence on the verdict on its own kind only. -/
theorem forall₂_verdicts (h : ∀ i, i ≠ id → found.lookup i = outcomes.lookup i) :
    List.Forall₂ (fun w w' => w.kind = w'.kind ∧ (w.kind ≠ id → w = w')) (v.verdicts ks found)
      (v.verdicts ks outcomes) := by
  rw [verdicts, verdicts, List.forall₂_map_left_iff, List.forall₂_map_right_iff, List.forall₂_same]
  intro k _
  rw [judge_kind, judge_kind]
  exact ⟨rfl, fun hOther => by rw [h k.id hOther]⟩

theorem concurs_of_verdicts (h : v.verdicts ks found = v.verdicts ks outcomes) :
    (v.verifySelection head ks found aborted).Concurs
      (v.verifySelection head' ks outcomes aborted) where
  verdicts := h
  summary := congrArg Summary.ofVerdicts h
  aborted := rfl

theorem verify_eq (catalog : Catalog) (requested : List KindId) :
    v.verify head catalog requested outcomes =
      v.verifySelection head (catalog.wanted requested) outcomes none := rfl

end Verifier

namespace Registry

open Verifier

variable {r : Registry}

/-- The ids of a request that are registered. -/
def known (r : Registry) (requested : List KindId) : List KindId :=
  requested.filter fun id => (r.position? id).isSome

/-- Ids that are not registered are of no account, if the request names others. -/
theorem Lawful.wanted_known (h : r.Lawful) {requested : List KindId} (hr : r.known requested ≠ []) :
    h.catalog.wanted (r.known requested) = h.catalog.wanted requested := by
  have hRequested : requested ≠ [] := by
    rintro rfl
    exact hr rfl
  refine List.filter_congr fun k hk => ?_
  have hPosition : (r.position? k.id).isSome = true :=
    h.isSome_position?_iff.mpr ⟨k, Array.mem_toList_iff.mp hk, rfl⟩
  have hNamed : (r.known requested).contains k.id = requested.contains k.id := by
    simp [known, hPosition]
  rw [List.isEmpty_eq_false_iff.mpr hr, List.isEmpty_eq_false_iff.mpr hRequested, hNamed]

theorem Lawful.wanted_unknown (h : r.Lawful) {requested : List KindId} (hr : requested ≠ [])
    (hNone : r.known requested = []) : h.catalog.wanted requested = [] := by
  rw [List.eq_nil_iff_forall_not_mem]
  intro k hk
  obtain ⟨hMem, hNamed⟩ := h.selects_wanted.mem_iff k |>.mp hk
  refine List.filter_eq_nil_iff.mp hNone k.id (hNamed.resolve_left hr) ?_
  exact h.isSome_position?_iff.mpr ⟨k, hMem, rfl⟩

/-- **Reports on requests.** On a request that can be selected, the report is the one on the
selection. On any other, it is the one on the ids that are registered, and empty if there are none.
Either report says of a kind what follows from the outcome of that kind and from no other. -/
theorem reports_on_requests (hr : r.Reachable) (v : Verifier) (head head' : Report.Head)
    (outcomes : Outcomes) :
    (∀ requested ks, r.select requested = .ok ks →
      (v.verify head hr.lawful.catalog requested outcomes).Concurs
        (v.verifySelection head' ks outcomes none)) ∧
    (∀ requested, r.known requested ≠ [] →
      (v.verify head hr.lawful.catalog requested outcomes).Concurs
        (v.verify head' hr.lawful.catalog (r.known requested) outcomes)) ∧
    (∀ requested, requested ≠ [] → r.known requested = [] →
      v.verify head hr.lawful.catalog requested outcomes = ⟨head, [], ⟨0, 0, 0, 0⟩, none⟩) ∧
    (∀ requested found, (∀ k ∈ r.kinds, requested = [] ∨ k.id ∈ requested →
        found.lookup k.id = outcomes.lookup k.id) →
      (v.verify head hr.lawful.catalog requested found).Concurs
        (v.verify head' hr.lawful.catalog requested outcomes)) ∧
    (∀ ks aborted found, (∀ k ∈ ks, found.lookup k.id = outcomes.lookup k.id) →
      (v.verifySelection head ks found aborted).Concurs
        (v.verifySelection head' ks outcomes aborted)) ∧
    ∀ id found, (∀ i, i ≠ id → found.lookup i = outcomes.lookup i) →
      (∀ requested, (v.verify head hr.lawful.catalog requested found).ConcursBut id
        (v.verify head' hr.lawful.catalog requested outcomes)) ∧
      ∀ ks aborted, (v.verifySelection head ks found aborted).ConcursBut id
        (v.verifySelection head' ks outcomes aborted) := by
  have h := hr.lawful
  refine ⟨fun requested ks hks => ?_, fun requested hKnown => ?_, fun requested hr hNone => ?_,
    fun requested found hFound => ?_, fun ks aborted found hFound => ?_, fun id found hFound => ?_⟩
  · rw [h.keeps.select_eq, Catalog.select_eq_ok_iff] at hks
    obtain ⟨-, rfl⟩ := hks
    exact Verifier.concurs_of_verdicts rfl
  · rw [Verifier.verify_eq, Verifier.verify_eq, h.wanted_known hKnown]
    exact Verifier.concurs_of_verdicts rfl
  · rw [Verifier.verify_eq, h.wanted_unknown hr hNone]
    rfl
  · refine Verifier.concurs_of_verdicts (Verifier.verdicts_congr fun k hk => ?_)
    obtain ⟨hMem, hNamed⟩ := (h.selects_wanted.mem_iff k).mp hk
    exact hFound k hMem hNamed
  · exact Verifier.concurs_of_verdicts (Verifier.verdicts_congr hFound)
  · exact ⟨fun _ => Verifier.forall₂_verdicts hFound, fun _ _ => Verifier.forall₂_verdicts hFound⟩

/-- Nothing but one kind was run at first, and another one later. -/
def leakOutcomes : Outcomes :=
  [(FaultClass.leak.canonicalId, .error (.cancelled FaultClass.leak.canonicalId))]

def laterOutcomes : Outcomes :=
  (FaultClass.doubleFree.canonicalId, .error (.cancelled FaultClass.doubleFree.canonicalId)) ::
    leakOutcomes

theorem reports_on_requests_partly :
    let head : Report.Head := ⟨.zero, ⟨⟨1970, 1, 1⟩, 0, 0⟩⟩
    let catalog := (Reachable.builtin).lawful.catalog
    let leak := FaultClass.leak.canonicalId
    Registry.builtin.select [leak] = .ok [Kind.builtin .leak] ∧
      (verify {} head catalog [leak] leakOutcomes).Concurs
        (verifySelection {} head [Kind.builtin .leak] leakOutcomes none) ∧
      Registry.builtin.known [lostBlock.id, leak, lostBlock.id] = [leak] ∧
      (verify {} head catalog [lostBlock.id, leak, lostBlock.id] leakOutcomes).Concurs
        (verify {} head catalog [leak] leakOutcomes) ∧
      verify {} head catalog [lostBlock.id] leakOutcomes = ⟨head, [], ⟨0, 0, 0, 0⟩, none⟩ ∧
      (∀ i, i ≠ FaultClass.doubleFree.canonicalId →
        laterOutcomes.lookup i = leakOutcomes.lookup i) ∧
      (verify {} head catalog [leak] laterOutcomes).Concurs
        (verify {} head catalog [leak] leakOutcomes) ∧
      (verify {} head catalog [] laterOutcomes).ConcursBut FaultClass.doubleFree.canonicalId
        (verify {} head catalog [] leakOutcomes) := by
  intro head catalog leak
  have hSelect : Registry.builtin.select [leak] = .ok [Kind.builtin .leak] := by
    rw [Keeps.builtin.select_eq]
    decide
  have hKnown : ∀ requested, Registry.builtin.known requested =
      requested.filter fun id => (Catalog.builtin.position? id).isSome := fun requested => by
    simp only [known, Keeps.builtin.position_eq]
  have hPartly : Registry.builtin.known [lostBlock.id, leak, lostBlock.id] = [leak] := by
    rw [hKnown]
    decide
  have hOther : ∀ i, i ≠ FaultClass.doubleFree.canonicalId →
      laterOutcomes.lookup i = leakOutcomes.lookup i := fun i hi => by
    rw [laterOutcomes, List.lookup_cons, beq_eq_false_iff_ne.mpr hi]
  obtain ⟨hSelection, hRest, hNone, hCongr, -, hBut⟩ :=
    reports_on_requests .builtin {} head head leakOutcomes
  refine ⟨hSelect, hSelection _ _ hSelect, hPartly, ?_, hNone _ (by simp) ?_, hOther, ?_,
    (hBut _ _ hOther).1 []⟩
  · have hConcurs := hRest [lostBlock.id, leak, lostBlock.id] (by rw [hPartly]; simp)
    rwa [hPartly] at hConcurs
  · rw [hKnown]
    decide
  · refine hCongr [leak] laterOutcomes fun k _ hk => ?_
    have hLeak : k.id = leak := by simpa using hk
    rw [hLeak]
    exact hOther leak (by decide)

end Registry

end FaultBench
