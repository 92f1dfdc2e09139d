import FleetScore.Order.Ascending
import Mathlib

/-!
# Groups by a key

`grouped` splits a list by a key and answers the groups in ascending order of their keys.
This file says what that means to somebody who consumes the groups.

## 1.  The keys

`ascending xs` is strictly ascending and has the members of `xs`.  A strictly ascending list
is determined by its members, so these two facts are all there is to know of it: whoever has
another strictly ascending list with the same members has the same list
(`ascending_eq_of_pairwise`).

## 2.  The groups

* `lookup_grouped` --- looking a key up finds the members with that key, in their order;
* `perm_flatMap_filter` --- the groups together are a rearrangement of the list;
* `filter_flatMap_block` --- of a list that was assembled block by block, a test that no block is
  divided by picks out whole blocks;
* `filter_flatMap_key` --- so where each block has a key, a key picks out the blocks that have it;
* `grouped_flatMap` --- so where no two blocks share a key, the groups are exactly the blocks.

## 3.  One answer for each group

A rule that may have no answer is asked once for each group, and the groups together have an
answer exactly if each of them has one (`mapM_eq_some_map`, `mapM_eq_none`).
-/

namespace FleetScore

/-- The 64-bit integers are in a strict order. -/
instance isStrictTotalOrder_int64 : IsStrictTotalOrder Int64 (· < ·) where
  irrefl _ := Int64.lt_irrefl
  trans _ _ _ := Int64.lt_trans
  trichotomous a b hab hba := by
    by_contra hne
    rcases Int64.lt_or_lt_of_ne hne with h | h
    · exact hab h
    · exact hba h

variable {α β κ : Type}

/-! ## 1.  Ascending lists -/

section

variable [DecidableEq κ] [LT κ] [DecidableLT κ]

theorem ascending_cons (a : κ) (xs : List κ) :
    ascending (a :: xs) = insertAscending a (ascending xs) := rfl

variable [IsStrictTotalOrder κ (· < ·)]

theorem pairwise_insertAscending (a : κ) {xs : List κ} (h : xs.Pairwise (· < ·)) :
    (insertAscending a xs).Pairwise (· < ·) := by
  induction xs with
  | nil =>
    rw [insertAscending]
    exact List.pairwise_singleton _ _
  | cons b rest ih =>
    obtain ⟨hb, hrest⟩ := List.pairwise_cons.mp h
    rw [insertAscending]
    split
    · rename_i hab
      refine List.pairwise_cons.mpr ⟨?_, h⟩
      intro c hc
      rcases List.mem_cons.mp hc with rfl | hc
      · exact hab
      · exact trans_of (· < ·) hab (hb c hc)
    · rename_i hab
      split
      · exact h
      · rename_i hne
        have hba : b < a := by
          rcases trichotomous_of (· < ·) a b with h | h | h
          · exact absurd h hab
          · exact absurd h hne
          · exact h
        refine List.pairwise_cons.mpr ⟨?_, ih hrest⟩
        intro c hc
        rcases mem_insertAscending.mp hc with rfl | hc
        · exact hba
        · exact hb c hc

/-- **An ascending list is strictly ascending.** -/
theorem pairwise_ascending (xs : List κ) : (ascending xs).Pairwise (· < ·) := by
  induction xs with
  | nil => exact List.Pairwise.nil
  | cons a xs ih =>
    rw [ascending_cons]
    exact pairwise_insertAscending a ih

theorem nodup_ascending (xs : List κ) : (ascending xs).Nodup :=
  (pairwise_ascending xs).nodup

/-- **A strictly ascending list is the ascending list of its members**, however these are
listed. -/
theorem ascending_eq_of_pairwise {xs ys : List κ} (hy : ys.Pairwise (· < ·))
    (h : ∀ a, a ∈ xs ↔ a ∈ ys) : ascending xs = ys := by
  refine List.Pairwise.eq_of_mem_iff (pairwise_ascending xs) hy fun a => ?_
  rw [mem_ascending]
  exact h a

theorem ascending_congr {xs ys : List κ} (h : ∀ a, a ∈ xs ↔ a ∈ ys) :
    ascending xs = ascending ys := by
  refine ascending_eq_of_pairwise (pairwise_ascending ys) fun a => ?_
  rw [mem_ascending]
  exact h a

end

/-! ## 2.  Groups -/

/-- **The groups together are a rearrangement of the list**, whenever each key that occurs is
named once. -/
theorem perm_flatMap_filter [DecidableEq κ] (key : α → κ) {ks : List κ} (hks : ks.Nodup)
    {xs : List α} (hxs : ∀ x ∈ xs, key x ∈ ks) :
    (ks.flatMap fun k => xs.filter fun x => decide (key x = k)).Perm xs := by
  induction ks generalizing xs with
  | nil =>
    have hnil : xs = [] := List.eq_nil_iff_forall_not_mem.mpr fun x hx => by
      simpa using hxs x hx
    rw [hnil]
    exact List.Perm.nil
  | cons k ks ih =>
    obtain ⟨hk, hks⟩ := List.nodup_cons.mp hks
    -- the members with another key fall apart by the remaining keys
    have hrest : (ks.flatMap fun l => xs.filter fun x => decide (key x = l)) =
        ks.flatMap fun l =>
          (xs.filter fun x => !decide (key x = k)).filter fun x => decide (key x = l) := by
      refine List.flatMap_congr fun l hl => ?_
      rw [List.filter_filter]
      refine List.filter_congr fun x _ => ?_
      by_cases h : key x = l
      · have hne : key x ≠ k := by
          rintro rfl
          rw [h] at hk
          exact hk hl
        rw [decide_eq_true h, decide_eq_false hne]
        rfl
      · rw [decide_eq_false h, Bool.false_and]
    rw [List.flatMap_cons, hrest]
    refine (List.Perm.append_left _ (ih hks ?_)).trans (List.filter_append_perm _ xs)
    intro x hx
    obtain ⟨hx, hne⟩ := List.mem_filter.mp hx
    rcases List.mem_cons.mp (hxs x hx) with h | h
    · simp [h] at hne
    · exact h

/-- A test picks whole blocks out of a list of blocks, if the members of a block pass it all
together or not at all. -/
theorem filter_flatMap_block {p : β → Bool} {q : α → Bool} {block : α → List β} {qs : List α}
    (h : ∀ a ∈ qs, ∀ x ∈ block a, p x = q a) :
    (qs.flatMap block).filter p = (qs.filter q).flatMap block := by
  induction qs with
  | nil => rfl
  | cons a qs ih =>
    have ha := h a List.mem_cons_self
    rw [List.flatMap_cons, List.filter_append, ih fun b hb => h b (List.mem_cons_of_mem a hb)]
    by_cases hq : q a = true
    · rw [List.filter_eq_self.mpr fun x hx => (ha x hx).trans hq, List.filter_cons_of_pos hq,
        List.flatMap_cons]
    · have hnone : (block a).filter p = [] :=
        List.filter_eq_nil_iff.mpr fun x hx hp => hq ((ha x hx).symm.trans hp)
      rw [hnone, List.nil_append, List.filter_cons_of_neg hq]

theorem filter_flatMap_key [DecidableEq κ] {key : β → κ} {keyOf : α → κ} {block : α → List β}
    {qs : List α} (hkey : ∀ q ∈ qs, ∀ x ∈ block q, key x = keyOf q) (k : κ) :
    ((qs.flatMap block).filter fun x => decide (key x = k)) =
      (qs.filter fun q => decide (keyOf q = k)).flatMap block := by
  refine filter_flatMap_block fun q hq x hx => ?_
  rw [hkey q hq x hx]

theorem filter_key_eq_singleton [DecidableEq κ] {keyOf : α → κ} {qs : List α}
    (hnodup : (qs.map keyOf).Nodup) {q : α} (hq : q ∈ qs) :
    (qs.filter fun p => decide (keyOf p = keyOf q)) = [q] := by
  induction qs with
  | nil => exact absurd hq List.not_mem_nil
  | cons p qs ih =>
    rw [List.map_cons, List.nodup_cons] at hnodup
    rcases List.mem_cons.mp hq with rfl | hq
    · have hnone : (qs.filter fun p => decide (keyOf p = keyOf q)) = [] := by
        refine List.filter_eq_nil_iff.mpr fun p hp hk => hnodup.1 ?_
        exact List.mem_map.mpr ⟨p, hp, of_decide_eq_true hk⟩
      rw [List.filter_cons_of_pos (by simp), hnone]
    · have hne : ¬ keyOf p = keyOf q := fun h => hnodup.1 (h ▸ List.mem_map_of_mem hq)
      rw [List.filter_cons_of_neg (by simpa using hne), ih hnodup.2 hq]

section

variable [DecidableEq κ] [LT κ] [DecidableLT κ]

/-- **Looking a key up finds the members with that key**, in the order of the list. -/
theorem lookup_grouped (key : α → κ) (xs : List α) (k : κ) :
    ((grouped key xs).lookup k).getD [] = xs.filter fun x => decide (key x = k) := by
  have hlookup : ∀ ks : List κ,
      ((ks.map fun l => (l, xs.filter fun x => decide (key x = l))).lookup k).getD [] =
        if k ∈ ks then xs.filter fun x => decide (key x = k) else [] := by
    intro ks
    induction ks with
    | nil => rfl
    | cons l ks ih =>
      rw [List.map_cons, List.lookup_cons]
      by_cases h : k = l
      · subst h
        simp
      · have hbeq : (k == l) = false := beq_eq_false_iff_ne.mpr h
        simp only [hbeq, ih, List.mem_cons, h, false_or]
  rw [grouped, hlookup]
  split
  · rfl
  · rename_i h
    rw [mem_ascending] at h
    refine (List.filter_eq_nil_iff.mpr fun x hx hk => ?_).symm
    exact h (List.mem_map.mpr ⟨x, hx, of_decide_eq_true hk⟩)

variable [IsStrictTotalOrder κ (· < ·)]

theorem grouped_eq_singleton {key : α → κ} {xs : List α} {k : κ} (hne : xs ≠ [])
    (hkey : ∀ x ∈ xs, key x = k) : grouped key xs = [(k, xs)] := by
  have hkeys : ascending (xs.map key) = [k] := by
    refine ascending_eq_of_pairwise (List.pairwise_singleton _ _) fun a => ?_
    rw [List.mem_map, List.mem_singleton]
    constructor
    · rintro ⟨x, hx, rfl⟩
      exact hkey x hx
    · rintro rfl
      obtain ⟨x, hx⟩ := List.exists_mem_of_ne_nil xs hne
      exact ⟨x, hx, hkey x hx⟩
  have hgroup : (xs.filter fun x => decide (key x = k)) = xs :=
    List.filter_eq_self.mpr fun x hx => decide_eq_true (hkey x hx)
  rw [grouped, hkeys, List.map_singleton, hgroup]

/-- **A list assembled block by block falls apart into its blocks.**  Each of `qs` contributes
one block, all of whose members have its key, and no two of `qs` share a key.  Then the groups
are the blocks that are not empty, in whatever order `rs` brings those of `qs` into ascending
order of their keys. -/
theorem grouped_flatMap {key : β → κ} {keyOf : α → κ} {block : α → List β} {qs rs : List α}
    (hkey : ∀ q ∈ qs, ∀ x ∈ block q, key x = keyOf q)
    (hperm : rs.Perm (qs.filter fun q => !(block q).isEmpty))
    (hlt : (rs.map keyOf).Pairwise (· < ·)) (hnodup : (qs.map keyOf).Nodup) :
    grouped key (qs.flatMap block) = rs.map fun q => (keyOf q, block q) := by
  have hmem : ∀ q, q ∈ rs ↔ q ∈ qs ∧ block q ≠ [] := by
    intro q
    rw [hperm.mem_iff, List.mem_filter]
    simp
  have hkeys : ascending ((qs.flatMap block).map key) = rs.map keyOf := by
    refine ascending_eq_of_pairwise hlt fun k => ?_
    rw [List.mem_map, List.mem_map]
    constructor
    · rintro ⟨x, hx, rfl⟩
      obtain ⟨q, hq, hxq⟩ := List.mem_flatMap.mp hx
      exact ⟨q, (hmem q).mpr ⟨hq, List.ne_nil_of_mem hxq⟩, (hkey q hq x hxq).symm⟩
    · rintro ⟨q, hq, rfl⟩
      obtain ⟨hq, hne⟩ := (hmem q).mp hq
      obtain ⟨x, hx⟩ := List.exists_mem_of_ne_nil _ hne
      exact ⟨x, List.mem_flatMap.mpr ⟨q, hq, hx⟩, hkey q hq x hx⟩
  rw [grouped, hkeys, List.map_map]
  refine List.map_congr_left fun q hq => Prod.ext rfl ?_
  show ((qs.flatMap block).filter fun x => decide (key x = keyOf q)) = block q
  rw [filter_flatMap_key hkey, filter_key_eq_singleton hnodup ((hmem q).mp hq).1,
    List.flatMap_singleton]

end

/-! ## 3.  One answer for each -/

theorem mapM_eq_some_map {f : α → Option β} {g : α → β} {xs : List α}
    (h : ∀ x ∈ xs, f x = some (g x)) : xs.mapM f = some (xs.map g) := by
  induction xs with
  | nil => rfl
  | cons x xs ih =>
    rw [List.mapM_cons, h x List.mem_cons_self, ih fun y hy => h y (List.mem_cons_of_mem x hy)]
    rfl

/-- **A list has an answer only where every member has one.** -/
theorem mapM_eq_none {f : α → Option β} {xs : List α} {x : α} (hx : x ∈ xs) (h : f x = none) :
    xs.mapM f = none := by
  induction xs with
  | nil => exact absurd hx List.not_mem_nil
  | cons y xs ih =>
    rw [List.mapM_cons]
    rcases List.mem_cons.mp hx with rfl | hx
    · rw [h]
      rfl
    · rw [ih hx]
      cases f y with
      | none => rfl
      | some _ => rfl

end FleetScore
