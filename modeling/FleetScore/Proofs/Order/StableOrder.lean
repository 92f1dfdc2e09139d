import Mathlib

/-!
# Stable orders

Sorting is stable: members that neither comes before the other stay as they were.  Three
consequences of this carry every statement about ordered rows.

* `filter_mergeSort` --- **choosing and sorting commute.**  A piece of a sorted list is the
  sorted piece.  This is where stability is used: without it the two sides would agree up to
  the order of ties only.
* `mergeSort_congr` --- a sorted list depends on the order only as far as the order compares
  its members.
* `mergeSort_eq_of_perm` --- where no two members tie, a sorted list does not depend on the
  order in which its members were given.

The last section reads a sorted list from its ends.  On a list along which a test can only go
from true to false, `takeWhile` and `dropWhile` are filters, so a window that is cut out of a
series between two ends is the filter by the two ends.  Read the other way, a filter by a test
that goes from false to true keeps an end of the list (`filter_isSuffix_filter`).
-/

namespace FleetScore

variable {α : Type}

/-- An order that lists can be sorted by: any two members compare, and comparisons compose. -/
structure Sorts (le : α → α → Bool) : Prop where
  trans : ∀ a b c, le a b = true → le b c = true → le a c = true
  total : ∀ a b, (le a b || le b a) = true

namespace Sorts

variable {le : α → α → Bool}

theorem pairwise (h : Sorts le) (xs : List α) :
    (xs.mergeSort le).Pairwise fun a b => le a b = true :=
  List.pairwise_mergeSort h.trans h.total xs

theorem ofKey (key : α → Int) : Sorts fun a b => decide (key a ≤ key b) where
  trans a b c hab hbc := by
    rw [decide_eq_true_eq] at hab hbc ⊢
    omega
  total a b := by
    rw [Bool.or_eq_true, decide_eq_true_eq, decide_eq_true_eq]
    omega

end Sorts

/-! ## Choosing and sorting -/

/-- A list is cut in one way only into a stretch that passes a test and one that fails it. -/
theorem takeWhile_append_of_split {q : α → Bool} {xs ys : List α} (hxs : ∀ a ∈ xs, q a = true)
    (hys : ∀ a ∈ ys, q a = false) : (xs ++ ys).takeWhile q = xs := by
  rw [List.takeWhile_append_of_pos hxs]
  cases ys with
  | nil => exact List.append_nil xs
  | cons y ys =>
    have hy : ¬ q y = true := by
      rw [hys y List.mem_cons_self]
      exact Bool.false_ne_true
    rw [List.takeWhile_cons_of_neg hy, List.append_nil]

/-- **Choosing and sorting commute.** -/
theorem filter_mergeSort {le : α → α → Bool} (h : Sorts le) (p : α → Bool) (xs : List α) :
    (xs.mergeSort le).filter p = (xs.filter p).mergeSort le := by
  induction xs with
  | nil => rw [List.mergeSort_nil, List.filter_nil, List.mergeSort_nil]
  | cons a xs ih =>
    obtain ⟨l₁, l₂, hsort, hrest, hbefore⟩ := List.mergeSort_cons h.trans h.total a xs
    rw [hrest, List.filter_append] at ih
    by_cases hp : p a = true
    · obtain ⟨m₁, m₂, hsort', hrest', hbefore'⟩ :=
        List.mergeSort_cons h.trans h.total a (xs.filter p)
      rw [List.filter_cons_of_pos hp, hsort, hsort', List.filter_append,
        List.filter_cons_of_pos hp]
      rw [hrest'] at ih
      -- `a` stands before the first member it does not exceed, on both sides
      have hafter : ∀ b ∈ l₂, le a b = true := by
        have hpair := h.pairwise (a :: xs)
        rw [hsort] at hpair
        exact (List.pairwise_cons.mp (List.pairwise_append.mp hpair).2.1).1
      have hafter' : ∀ b ∈ m₂, le a b = true := by
        have hpair := h.pairwise (a :: xs.filter p)
        rw [hsort'] at hpair
        exact (List.pairwise_cons.mp (List.pairwise_append.mp hpair).2.1).1
      have hfirst : l₁.filter p = m₁ := by
        have hl : ((l₁.filter p) ++ (l₂.filter p)).takeWhile (fun b => !le a b) = l₁.filter p := by
          refine takeWhile_append_of_split (fun b hb => ?_) fun b hb => ?_
          · exact hbefore b (List.mem_filter.mp hb).1
          · rw [hafter b (List.mem_filter.mp hb).1]
            rfl
        have hm : (m₁ ++ m₂).takeWhile (fun b => !le a b) = m₁ := by
          refine takeWhile_append_of_split hbefore' fun b hb => ?_
          rw [hafter' b hb]
          rfl
        rw [← hl, ih, hm]
      rw [hfirst] at ih ⊢
      rw [List.append_cancel_left ih]
    · rw [List.filter_cons_of_neg hp, hsort, List.filter_append, List.filter_cons_of_neg hp]
      exact ih

/-- A sorted list depends on the order only as far as it compares the members. -/
theorem mergeSort_congr {le le' : α → α → Bool} {xs : List α}
    (h : ∀ a ∈ xs, ∀ b ∈ xs, le a b = le' a b) : xs.mergeSort le = xs.mergeSort le' := by
  have hmap := List.map_mergeSort (f := fun a : α => a) h
  rwa [List.map_id', List.map_id'] at hmap

/-- Where no two members tie, a sorted list does not depend on how its members were listed. -/
theorem mergeSort_eq_of_perm {le : α → α → Bool} (h : Sorts le) {xs ys : List α}
    (hperm : xs.Perm ys)
    (hties : ∀ a ∈ xs, ∀ b ∈ xs, le a b = true → le b a = true → a = b) :
    xs.mergeSort le = ys.mergeSort le := by
  refine List.Perm.eq_of_pairwise ?_ (h.pairwise xs) (h.pairwise ys) ?_
  · intro a b ha hb hab hba
    exact hties a (List.mem_mergeSort.mp ha) b (hperm.mem_iff.mpr (List.mem_mergeSort.mp hb))
      hab hba
  · exact ((List.mergeSort_perm xs le).trans hperm).trans (List.mergeSort_perm ys le).symm

/-! ## Reading a list along which a test goes from true to false -/

theorem dropWhile_eq_filter {p : α → Bool} {xs : List α}
    (h : xs.Pairwise fun a b => p b = true → p a = true) :
    xs.dropWhile p = xs.filter fun a => !p a := by
  induction xs with
  | nil => rfl
  | cons a xs ih =>
    obtain ⟨ha, hxs⟩ := List.pairwise_cons.mp h
    by_cases hp : p a = true
    · rw [List.dropWhile_cons_of_pos hp, List.filter_cons_of_neg (by simp [hp]), ih hxs]
    · have hall : ∀ b ∈ a :: xs, (!p b) = true := by
        intro b hb
        rcases List.mem_cons.mp hb with rfl | hb
        · simpa using hp
        · simpa using fun hpb => hp (ha b hb hpb)
      rw [List.dropWhile_cons_of_neg hp, List.filter_eq_self.mpr hall]

theorem takeWhile_eq_filter {p : α → Bool} {xs : List α}
    (h : xs.Pairwise fun a b => p b = true → p a = true) : xs.takeWhile p = xs.filter p := by
  induction xs with
  | nil => rfl
  | cons a xs ih =>
    obtain ⟨ha, hxs⟩ := List.pairwise_cons.mp h
    by_cases hp : p a = true
    · rw [List.takeWhile_cons_of_pos hp, List.filter_cons_of_pos hp, ih hxs]
    · have hnone : ∀ b ∈ a :: xs, ¬ p b = true := by
        intro b hb hpb
        rcases List.mem_cons.mp hb with rfl | hb
        · exact hp hpb
        · exact hp (ha b hb hpb)
      rw [List.takeWhile_cons_of_neg hp, List.filter_eq_nil_iff.mpr hnone]

/-- **Of two tests that go from false to true along a list, the stricter one keeps the shorter
end of it.** -/
theorem filter_isSuffix_filter {p q : α → Bool} {xs : List α}
    (h : xs.Pairwise fun a b => p a = true → p b = true) (himp : ∀ a, p a = true → q a = true) :
    xs.filter p <:+ xs.filter q := by
  have hboth : xs.filter p = (xs.filter q).filter p := by
    rw [List.filter_filter]
    refine List.filter_congr fun a _ => ?_
    cases hp : p a with
    | true => rw [himp a hp, Bool.and_self]
    | false => rw [Bool.false_and]
  have hlate : (xs.filter q).Pairwise fun a b => (!p b) = true → (!p a) = true := by
    refine (h.filter q).imp fun {a b} hab hb => ?_
    rw [Bool.not_eq_true', ← Bool.not_eq_true] at hb ⊢
    exact fun ha => hb (hab ha)
  have hdrop := dropWhile_eq_filter hlate
  simp only [Bool.not_not] at hdrop
  rw [hboth, ← hdrop]
  exact List.dropWhile_suffix _

end FleetScore
