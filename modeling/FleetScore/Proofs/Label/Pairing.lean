import FleetScore.Label.Alignment
import FleetScore.Proofs.Order.Groups

/-!
# Pairing decides whether vectors and labels belong together

Vectors and labels are paired by server, through the distinct identifiers of either side.  Listing
identifiers once forgets how often each of them occurred, so a repeated server would go unnoticed if
only the identifiers were compared.  Three things are asked for that reason, and `Matches` names
them: no server is repeated among the vectors, none among the labels, and the servers are the same.

`align_decides` says that these three are what pairing tests.

* If they hold, each vector is paired with the label of its own server, in the order of the vectors
  (`IsPair`).  As no server has two labels, it does not matter in which order the labels are listed.
* If one of them fails, the pairing is refused, and the refusal names the servers that are on one
  side only.  It names none exactly if the servers are the same and one is repeated.

That the number of distinct identifiers tells whether one is repeated is `isDistinct_iff`.  That the
look-up of a label never misses is the third of the three, and that it cannot find a wrong one is
the second (`find?_eq_some_iff`).
-/

namespace FleetScore
namespace Alignment

variable {R : Type}

/-! ## 1.  Identifiers -/

/-- **As many distinct identifiers as identifiers** means that none is repeated. -/
theorem isDistinct_iff {ids : List Int64} : isDistinct ids = true ↔ ids.Nodup := by
  have hnodup := nodup_ascending ids
  rw [isDistinct, beq_iff_eq]
  constructor
  · intro hlength
    have hsubperm : (ascending ids).Subperm ids := hnodup.subperm fun _ hid => mem_ascending.mp hid
    exact (hsubperm.perm_of_length_le hlength.ge).nodup_iff.mp hnodup
  · intro hids
    exact ((List.perm_ext_iff_of_nodup hnodup hids).mpr fun _ => mem_ascending).length_eq

theorem mem_orphans {ids others : List Int64} {id : Int64} :
    id ∈ orphans ids others ↔ id ∈ ids ∧ id ∉ others := by
  rw [orphans, List.mem_filter, mem_ascending, Bool.not_eq_true', List.contains_eq_mem,
    decide_eq_false_iff_not]

theorem pairwise_orphans (ids others : List Int64) : (orphans ids others).Pairwise (· < ·) :=
  (pairwise_ascending ids).filter _

theorem orphans_eq_nil_iff {ids others : List Int64} :
    orphans ids others = [] ↔ ∀ id ∈ ids, id ∈ others := by
  rw [List.eq_nil_iff_forall_not_mem]
  refine forall_congr' fun id => ?_
  rw [mem_orphans]
  tauto

/-- Orphans depend on what the other side has, and not on how it is listed. -/
theorem orphans_congr {ids ids' others others' : List Int64} (hids : ∀ id, id ∈ ids' ↔ id ∈ ids)
    (hothers : ∀ id, id ∈ others' ↔ id ∈ others) : orphans ids' others' = orphans ids others := by
  refine List.Pairwise.eq_of_mem_iff (pairwise_orphans _ _) (pairwise_orphans _ _) fun id => ?_
  rw [mem_orphans, mem_orphans, hids, hothers]

/-! ## 2.  Vectors and labels that belong together -/

/-- The servers of some vectors. -/
def vectorIds (features : List (FeatureVector R)) : List Int64 := features.map FeatureVector.serverId

/-- The servers of some labels. -/
def labelIds (labels : List (Label R)) : List Int64 := labels.map Label.serverId

/-- Whether vectors and labels are of the same servers, with none repeated on either side. -/
structure Matches (features : List (FeatureVector R)) (labels : List (Label R)) : Prop where
  vectors_nodup : (vectorIds features).Nodup
  labels_nodup : (labelIds labels).Nodup
  same : ∀ id, id ∈ vectorIds features ↔ id ∈ labelIds labels

theorem orphans_eq_nil_both_iff {ids others : List Int64} :
    orphans ids others = [] ∧ orphans others ids = [] ↔ ∀ id, id ∈ ids ↔ id ∈ others := by
  rw [orphans_eq_nil_iff, orphans_eq_nil_iff]
  exact ⟨fun h id => ⟨h.1 id, h.2 id⟩, fun h => ⟨fun id => (h id).mp, fun id => (h id).mpr⟩⟩

/-- **What pairing tests** is whether vectors and labels belong together. -/
theorem test_iff_matches (features : List (FeatureVector R)) (labels : List (Label R)) :
    ((orphans (vectorIds features) (labelIds labels)).isEmpty
      && (orphans (labelIds labels) (vectorIds features)).isEmpty
      && isDistinct (vectorIds features) && isDistinct (labelIds labels)) = true ↔
      Matches features labels := by
  rw [Bool.and_eq_true, Bool.and_eq_true, Bool.and_eq_true, isDistinct_iff, isDistinct_iff,
    List.isEmpty_iff, List.isEmpty_iff, and_assoc, orphans_eq_nil_both_iff]
  exact ⟨fun ⟨hsame, hvectors, hlabels⟩ => ⟨hvectors, hlabels, hsame⟩,
    fun h => ⟨h.same, h.vectors_nodup, h.labels_nodup⟩⟩

section

variable {features : List (FeatureVector R)} {labels : List (Label R)}

theorem align_of_matches (h : Matches features labels) :
    align features labels = .ok (pairs features labels) :=
  if_pos ((test_iff_matches features labels).mpr h)

theorem align_of_not_matches (h : ¬ Matches features labels) :
    align features labels = .error (.labelAlignment
      (orphans (vectorIds features) (labelIds labels))
      (orphans (labelIds labels) (vectorIds features))) :=
  if_neg (mt (test_iff_matches features labels).mp h)

theorem Matches.perm (h : Matches features labels) {labels' : List (Label R)}
    (hperm : labels'.Perm labels) : Matches features labels' where
  vectors_nodup := h.vectors_nodup
  labels_nodup := (hperm.map Label.serverId).nodup_iff.mpr h.labels_nodup
  same id := (h.same id).trans (hperm.map Label.serverId).mem_iff.symm

end

/-! ## 3.  The pairs -/

/-- Whether an example is a vector with the label of its server. -/
structure IsPair (labels : List (Label R)) (f : FeatureVector R) (e : Example R) : Prop where
  features : e.features = f
  label : ⟨f.serverId, e.label⟩ ∈ labels

theorem mem_of_find? {labels : List (Label R)} {id : Int64} {l : Label R}
    (h : labels.find? (fun l => decide (l.serverId = id)) = some l) :
    l ∈ labels ∧ l.serverId = id := by
  have hid := List.find?_some h
  exact ⟨List.mem_of_find?_eq_some h, of_decide_eq_true hid⟩

/-- **Where no server has two labels, looking one up finds its label.** -/
theorem find?_eq_some_iff {labels : List (Label R)} (hnodup : (labelIds labels).Nodup) {id : Int64}
    {l : Label R} :
    labels.find? (fun l => decide (l.serverId = id)) = some l ↔ l ∈ labels ∧ l.serverId = id := by
  refine ⟨mem_of_find?, ?_⟩
  rintro ⟨hl, rfl⟩
  rw [← List.head?_filter, filter_key_eq_singleton hnodup hl]
  rfl

theorem find?_eq_of_perm {labels labels' : List (Label R)} (hnodup : (labelIds labels).Nodup)
    (hperm : labels'.Perm labels) (id : Int64) :
    labels'.find? (fun l => decide (l.serverId = id)) =
      labels.find? fun l => decide (l.serverId = id) := by
  have hnodup' : (labelIds labels').Nodup := (hperm.map Label.serverId).nodup_iff.mpr hnodup
  refine Option.ext fun l => ?_
  rw [find?_eq_some_iff hnodup', find?_eq_some_iff hnodup, hperm.mem_iff]

/-- **Each vector is paired with the label of its server**, if every server has a label. -/
theorem forall₂_isPair_pairs {features : List (FeatureVector R)} {labels : List (Label R)}
    (hlabelled : ∀ id ∈ vectorIds features, id ∈ labelIds labels) :
    List.Forall₂ (IsPair labels) features (pairs features labels) := by
  induction features with
  | nil => exact List.Forall₂.nil
  | cons f features ih =>
    obtain ⟨hf, hfeatures⟩ := List.forall_mem_cons.mp hlabelled
    obtain ⟨known, hknown, hserver⟩ := List.mem_map.mp hf
    obtain ⟨l, hfind⟩ : ∃ l, labels.find? (fun l => decide (l.serverId = f.serverId)) = some l := by
      rw [← Option.isSome_iff_exists, List.find?_isSome]
      exact ⟨known, hknown, decide_eq_true hserver⟩
    obtain ⟨hl, hid⟩ := mem_of_find? hfind
    have hpair : IsPair labels f ⟨f, l.score⟩ := ⟨rfl, hid ▸ hl⟩
    have hcons : pairs (f :: features) labels = ⟨f, l.score⟩ :: pairs features labels := by
      rw [pairs, List.filterMap_cons, hfind]
      rfl
    rw [hcons]
    exact List.Forall₂.cons hpair (ih hfeatures)

/-! ## 4.  All of it -/

/-- **Pairing does not depend on how the labels are listed.** -/
theorem align_eq_of_perm (features : List (FeatureVector R)) {labels labels' : List (Label R)}
    (hperm : labels'.Perm labels) : align features labels' = align features labels := by
  by_cases h : Matches features labels
  · rw [align_of_matches h, align_of_matches (h.perm hperm), pairs, pairs]
    simp only [find?_eq_of_perm h.labels_nodup hperm]
  · have hids : ∀ id, id ∈ labelIds labels' ↔ id ∈ labelIds labels :=
      fun _ => (hperm.map Label.serverId).mem_iff
    rw [align_of_not_matches h, align_of_not_matches fun h' => h (h'.perm hperm.symm),
      orphans_congr (fun _ => Iff.rfl) hids, orphans_congr hids fun _ => Iff.rfl]

/-- **Pairing decides whether vectors and labels belong together.**  It succeeds exactly if no
server is repeated among the vectors, none among the labels, and the servers are the same.  Then
the examples are the vectors as they were listed, each with the label of its own server, however
the labels were listed.  Otherwise it names the servers that have a vector only and those that have
a label only, both in ascending order, and names none exactly if nothing is wrong but that a server
is repeated. -/
theorem align_decides (features : List (FeatureVector R)) (labels : List (Label R)) :
    ((∃ examples, align features labels = .ok examples) ↔
        (vectorIds features).Nodup ∧ (labelIds labels).Nodup ∧
          ∀ id, id ∈ vectorIds features ↔ id ∈ labelIds labels) ∧
      (∀ examples, align features labels = .ok examples →
        List.Forall₂ (IsPair labels) features examples) ∧
      (∀ labels', labels'.Perm labels → align features labels' = align features labels) ∧
      ((¬ ∃ examples, align features labels = .ok examples) →
        ∃ vectorsOnly labelsOnly,
          align features labels = .error (.labelAlignment vectorsOnly labelsOnly) ∧
            (∀ id, id ∈ vectorsOnly ↔ id ∈ vectorIds features ∧ id ∉ labelIds labels) ∧
            vectorsOnly.Pairwise (· < ·) ∧
            (∀ id, id ∈ labelsOnly ↔ id ∈ labelIds labels ∧ id ∉ vectorIds features) ∧
            labelsOnly.Pairwise (· < ·) ∧
            (vectorsOnly = [] ∧ labelsOnly = [] ↔
              (∀ id, id ∈ vectorIds features ↔ id ∈ labelIds labels) ∧
                (¬ (vectorIds features).Nodup ∨ ¬ (labelIds labels).Nodup))) := by
  have hok : (∃ examples, align features labels = .ok examples) ↔ Matches features labels := by
    constructor
    · rintro ⟨examples, hexamples⟩
      by_contra h
      rw [align_of_not_matches h] at hexamples
      cases hexamples
    · exact fun h => ⟨_, align_of_matches h⟩
  refine ⟨hok.trans ⟨fun h => ⟨h.1, h.2, h.3⟩, fun h => ⟨h.1, h.2.1, h.2.2⟩⟩, ?_,
    fun labels' hperm => align_eq_of_perm features hperm, fun hnot => ?_⟩
  · intro examples hexamples
    have h : Matches features labels := hok.mp ⟨examples, hexamples⟩
    obtain rfl : pairs features labels = examples :=
      Except.ok.inj ((align_of_matches h).symm.trans hexamples)
    exact forall₂_isPair_pairs fun id => (h.same id).mp
  · rw [hok] at hnot
    refine ⟨_, _, align_of_not_matches hnot, fun _ => mem_orphans, pairwise_orphans _ _,
      fun _ => mem_orphans, pairwise_orphans _ _, ?_⟩
    rw [orphans_eq_nil_both_iff, iff_self_and]
    intro hsame
    by_contra hrepeated
    push Not at hrepeated
    exact hnot ⟨hrepeated.1, hrepeated.2, hsame⟩

end Alignment
end FleetScore
