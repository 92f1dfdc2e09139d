import Mathlib
import FleetScore.Proofs.Numeric.Doubles
import FleetScore.Proofs.Numeric.Exact

/-!
# Percentiles are interpolated order statistics

A percentile sorts its values, goes to a position that need not be whole, and answers a value on the
line between the two neighbours.  This file says what the answer is without sorting.

## 1.  Order statistics

`IsOrderStatistic xs k v` says by counting that `v` is the value at position `k`: no more than `k`
members are less, and more than `k` are not greater.  Lists can be compared by the same counts.  If
one list has no more members up to any threshold than the other, its order statistics are not below
those of the other, and this is the only fact about them that is ever needed
(`IsOrderStatistic.le`).  That they are unique, that they grow with the position and that they grow
with the members are three cases of it.

## 2.  The line between two of them

In exact arithmetic a percentile is `a + (b - a) · t`, where `a` and `b` are the order statistics at
the whole numbers below and above the position, and `t` is what is left of the position
(`exists_percentile`).  It grows with the position because the line does, and because one line ends
where the next begins.

## 3.  Doubles

On doubles the sorted list is a function of the numbers in it, to the bit, so a percentile is not
changed by what is not a number nor by the order of the list.
-/

namespace FleetScore
namespace Statistics

/-! ## 1.  Order statistics -/

section

variable {α : Type} [LinearOrder α]

/-- Whether a value is the one at a position, counted from zero, of the ascending list: no more
members are less than it than there are positions before, and those that are not greater reach
beyond the position. -/
structure IsOrderStatistic (xs : List α) (k : ℕ) (v : α) : Prop where
  mem : v ∈ xs
  countP_lt : xs.countP (fun x => decide (x < v)) ≤ k
  lt_countP : k < xs.countP fun x => decide (x ≤ v)

/-- **Order statistics are compared by counting.**  Where one list has no more members up to any
threshold, and a position is not before that in the other, the value is not less. -/
theorem IsOrderStatistic.le {xs ys : List α} {j k : ℕ} {v w : α} (hv : IsOrderStatistic xs j v)
    (hw : IsOrderStatistic ys k w)
    (hcount : ∀ t, ys.countP (fun y => decide (y ≤ t)) ≤ xs.countP fun x => decide (x ≤ t))
    (hjk : j ≤ k) : v ≤ w := by
  by_contra hwv
  rw [not_le] at hwv
  have hmono : xs.countP (fun x => decide (x ≤ w)) ≤ xs.countP fun x => decide (x < v) := by
    refine List.countP_mono_left fun x _ hx => decide_eq_true ?_
    exact (of_decide_eq_true hx).trans_lt hwv
  have hfew := hv.countP_lt
  have hmany := hw.lt_countP
  have hless := hcount w
  omega

theorem IsOrderStatistic.unique {xs : List α} {k : ℕ} {v w : α} (hv : IsOrderStatistic xs k v)
    (hw : IsOrderStatistic xs k w) : v = w :=
  le_antisymm (hv.le hw (fun _ => le_rfl) le_rfl) (hw.le hv (fun _ => le_rfl) le_rfl)

theorem IsOrderStatistic.perm {xs ys : List α} {k : ℕ} {v : α} (h : IsOrderStatistic xs k v)
    (hperm : ys.Perm xs) : IsOrderStatistic ys k v where
  mem := hperm.mem_iff.mpr h.mem
  countP_lt := by rw [hperm.countP_eq]; exact h.countP_lt
  lt_countP := by rw [hperm.countP_eq]; exact h.lt_countP

/-- **In an ascending list, the value at a position is the one that stands there.** -/
theorem isOrderStatistic_getElem {xs : List α} (hsorted : xs.Pairwise (· ≤ ·)) {k : ℕ}
    (hk : k < xs.length) : IsOrderStatistic xs k xs[k] := by
  suffices hcounts : xs.countP (fun x => decide (x < xs[k])) ≤ k ∧
      k < xs.countP (fun x => decide (x ≤ xs[k])) from
    ⟨List.getElem_mem hk, hcounts.1, hcounts.2⟩
  induction xs generalizing k with
  | nil => exact absurd hk (Nat.not_lt_zero k)
  | cons x xs ih =>
    obtain ⟨hx, hsorted⟩ := List.pairwise_cons.mp hsorted
    cases k with
    | zero =>
      have hnone : (x :: xs).countP (fun y => decide (y < x)) = 0 := by
        refine List.countP_eq_zero.mpr fun y hy => ?_
        rw [decide_eq_true_eq, not_lt]
        rcases List.mem_cons.mp hy with rfl | hy
        · exact le_rfl
        · exact hx y hy
      rw [List.getElem_cons_zero]
      exact ⟨hnone.le, List.countP_pos_iff.mpr ⟨x, List.mem_cons_self, decide_eq_true le_rfl⟩⟩
    | succ k =>
      have hk : k < xs.length := Nat.lt_of_succ_lt_succ hk
      obtain ⟨hfew, hmany⟩ := ih hsorted hk
      have hfirst : x ≤ xs[k] := hx _ (List.getElem_mem hk)
      rw [List.getElem_cons_succ, List.countP_cons, List.countP_cons, if_pos (decide_eq_true hfirst)]
      refine ⟨Nat.add_le_add hfew ?_, Nat.succ_lt_succ hmany⟩
      split
      · exact le_rfl
      · exact Nat.zero_le 1

theorem IsOrderStatistic.isLeast {xs : List α} {v : α} (h : IsOrderStatistic xs 0 v) :
    IsLeast {x | x ∈ xs} v := by
  refine ⟨h.mem, fun x hx => ?_⟩
  have hnone := List.countP_eq_zero.mp (Nat.le_zero.mp h.countP_lt) x hx
  rwa [decide_eq_true_eq, not_lt] at hnone

theorem IsOrderStatistic.isGreatest {xs : List α} {v : α}
    (h : IsOrderStatistic xs (xs.length - 1) v) : IsGreatest {x | x ∈ xs} v := by
  refine ⟨h.mem, fun x hx => ?_⟩
  have hall : xs.countP (fun x => decide (x ≤ v)) = xs.length := by
    have hlength := List.countP_le_length (p := fun x => decide (x ≤ v)) (l := xs)
    have hmany := h.lt_countP
    omega
  exact of_decide_eq_true (List.countP_eq_length.mp hall x hx)

/-- Raising members leaves no more of them up to any threshold. -/
theorem countP_le_of_forall₂ {xs ys : List α} (h : List.Forall₂ (· ≤ ·) xs ys) (t : α) :
    ys.countP (fun y => decide (y ≤ t)) ≤ xs.countP fun x => decide (x ≤ t) := by
  induction h with
  | nil => exact le_rfl
  | @cons x y xs ys hxy _ ih =>
    rw [List.countP_cons, List.countP_cons]
    refine Nat.add_le_add ih ?_
    simp only [decide_eq_true_eq]
    split
    · rename_i hy
      rw [if_pos (hxy.trans hy)]
    · exact Nat.zero_le _

end

/-! ## 2.  The line between two of them -/

section

variable {K : Type} [Field K] [LinearOrder K] [FloorSemiring K] [HasRoot K]

theorem sorted_perm (xs : List (Exact K)) : (sorted xs).Perm xs := by
  have hall : xs.filter (fun x => !Scalar.isNaN x) = xs := List.filter_eq_self.mpr fun _ _ => rfl
  rw [sorted, hall]
  exact List.mergeSort_perm _ _

theorem pairwise_sorted (xs : List (Exact K)) : (sorted xs).Pairwise (· ≤ ·) := by
  have hsorts : Sorts (Scalar.totalLe : Exact K → Exact K → Bool) := {
    trans := fun a b c hab hbc =>
      decide_eq_true ((of_decide_eq_true hab).trans (of_decide_eq_true hbc))
    total := fun a b => by
      rw [Bool.or_eq_true]
      exact (le_total a b).imp decide_eq_true decide_eq_true }
  exact (hsorts.pairwise _).imp of_decide_eq_true

theorem percentile_nil (p : Exact K) : percentile [] p = none := by
  rw [percentile, sorted, List.filter_nil, List.mergeSort_nil]
  rfl

end

section

variable {K : Type} [Field K] [LinearOrder K]

/-- The position of a percentile among so many order statistics. -/
def position (n : ℕ) (p : Exact K) : Exact K :=
  max 0.0 (min p 100.0) / 100.0 * ((n - 1 : ℕ) : Exact K)

variable [IsStrictOrderedRing K]

/-- The literals are numbers. -/
theorem position_eq (n : ℕ) (p : Exact K) :
    position n p = max 0 (min p 100) / 100 * ((n - 1 : ℕ) : Exact K) := by
  norm_num [position]

theorem position_of_le_zero (n : ℕ) {p : Exact K} (h : p ≤ 0) : position n p = 0 := by
  rw [position_eq, max_eq_left ((min_le_left p 100).trans h), zero_div, zero_mul]

theorem position_nonneg (n : ℕ) (p : Exact K) : 0 ≤ position n p := by
  rw [position_eq]
  positivity

theorem position_le (n : ℕ) (p : Exact K) : position n p ≤ ((n - 1 : ℕ) : Exact K) := by
  have hpart : max 0 (min p 100) / 100 ≤ (1 : Exact K) := by
    rw [div_le_one (by norm_num)]
    exact max_le (by norm_num) (min_le_right _ _)
  rw [position_eq]
  exact mul_le_of_le_one_left (Nat.cast_nonneg _) hpart

theorem position_mono (n : ℕ) {p q : Exact K} (h : p ≤ q) : position n p ≤ position n q := by
  rw [position_eq, position_eq]
  gcongr

theorem position_of_hundred_le (n : ℕ) {p : Exact K} (h : 100 ≤ p) :
    position n p = ((n - 1 : ℕ) : Exact K) := by
  rw [position_eq, min_eq_right h, max_eq_right (by norm_num), div_self (by norm_num), one_mul]

/-- Of at least two order statistics, each has a percentile whose position is its own. -/
theorem position_eq_natCast {n k : ℕ} (hn : 2 ≤ n) (hk : k < n) :
    position n (100 * (k : Exact K) / ((n - 1 : ℕ) : Exact K)) = (k : Exact K) := by
  have hpos : (0 : Exact K) < ((n - 1 : ℕ) : Exact K) := Nat.cast_pos.mpr (by omega)
  have hle : (k : Exact K) ≤ ((n - 1 : ℕ) : Exact K) := Nat.cast_le.mpr (by omega)
  have hhigh : 100 * (k : Exact K) / ((n - 1 : ℕ) : Exact K) ≤ 100 := by
    rw [div_le_iff₀ hpos]
    gcongr
  have hlow : 0 ≤ 100 * (k : Exact K) / ((n - 1 : ℕ) : Exact K) := by positivity
  rw [position_eq, min_eq_left hhigh, max_eq_right hlow]
  field_simp

theorem line_mem {a b t : Exact K} (hab : a ≤ b) (ht : 0 ≤ t ∧ t ≤ 1) :
    a ≤ a + (b - a) * t ∧ a + (b - a) * t ≤ b := by
  have hlow := mul_nonneg (sub_nonneg.mpr hab) ht.1
  have hhigh := mul_le_of_le_one_right (sub_nonneg.mpr hab) ht.2
  constructor <;> linarith

/-- A line between greater values is not below at any place further on. -/
theorem line_mono {a b c d t u : Exact K} (hac : a ≤ c) (hbd : b ≤ d) (hcd : c ≤ d) (htu : t ≤ u)
    (ht : 0 ≤ t ∧ t ≤ 1) : a + (b - a) * t ≤ c + (d - c) * u := by
  have hfirst := mul_nonneg (sub_nonneg.mpr hac) (sub_nonneg.mpr ht.2)
  have hsecond := mul_nonneg (sub_nonneg.mpr hbd) ht.1
  have hfurther := mul_nonneg (sub_nonneg.mpr hcd) (sub_nonneg.mpr htu)
  linear_combination hfirst + hsecond + hfurther

variable [FloorSemiring K]

theorem fraction_mem (n : ℕ) (p : Exact K) :
    0 ≤ position n p - ⌊position n p⌋₊ ∧ position n p - ⌊position n p⌋₊ ≤ 1 := by
  have hlow := Nat.floor_le (position_nonneg n p)
  have hhigh := Nat.lt_floor_add_one (position n p)
  constructor <;> linarith

/-- Where the position is whole, the percentile is the order statistic there. -/
theorem isOrderStatistic_of_position {xs : List (Exact K)} {k : ℕ} {a b p : Exact K}
    (hposition : position xs.length p = (k : Exact K))
    (ha : IsOrderStatistic xs ⌊position xs.length p⌋₊ a) :
    IsOrderStatistic xs k
      (a + (b - a) * (position xs.length p - ⌊position xs.length p⌋₊)) := by
  rw [hposition, Nat.floor_natCast] at ha ⊢
  rwa [sub_self, mul_zero, add_zero]

/-- What a percentile of some values is: a value on the line between the order statistics below
and above its position, an order statistic where its position is whole, and the least or the
greatest value at the ends. -/
structure IsPercentile (xs : List (Exact K)) (p v : Exact K) : Prop where
  neighbours : ∃ a b, IsOrderStatistic xs ⌊position xs.length p⌋₊ a ∧
    IsOrderStatistic xs ⌈position xs.length p⌉₊ b ∧ a ≤ v ∧ v ≤ b ∧
    v = a + (b - a) * (position xs.length p - ⌊position xs.length p⌋₊)
  least_le : ∀ x, IsLeast {x | x ∈ xs} x → x ≤ v
  le_greatest : ∀ x, IsGreatest {x | x ∈ xs} x → v ≤ x
  isLeast : p ≤ 0 → IsLeast {x | x ∈ xs} v
  isGreatest : 100 ≤ p → IsGreatest {x | x ∈ xs} v
  isOrderStatistic : 2 ≤ xs.length → ∀ k < xs.length,
    p = 100 * (k : Exact K) / ((xs.length - 1 : ℕ) : Exact K) → IsOrderStatistic xs k v

variable [HasRoot K]

theorem rank_eq_position (n : ℕ) (p : Exact K) : rank n p = position n p := by
  have hzero : (0.0 : Exact K) = 0 := by norm_num
  have hhundred : (100.0 : Exact K) = 100 := by norm_num
  have hclamp : Scalar.clamp p 0.0 100.0 = max 0 (min p 100) := by
    show (if decide (p < 0.0) then (0.0 : Exact K) else if decide (100.0 < p) then 100.0 else p) = _
    rw [hzero, hhundred]
    simp only [decide_eq_true_eq]
    split
    · rename_i hlow
      rw [min_eq_left (hlow.le.trans (by norm_num)), max_eq_left hlow.le]
    · split
      · rename_i hhigh
        rw [min_eq_right hhigh.le, max_eq_right (by norm_num)]
      · rename_i hlow hhigh
        rw [min_eq_left (not_lt.mp hhigh), max_eq_right (not_lt.mp hlow)]
  rw [rank, hclamp, hhundred, position_eq]
  rfl

/-- **A percentile is on the line between two order statistics.** -/
theorem exists_percentile {xs : List (Exact K)} (hne : xs ≠ []) (p : Exact K) :
    ∃ a b, IsOrderStatistic xs ⌊position xs.length p⌋₊ a ∧
      IsOrderStatistic xs ⌈position xs.length p⌉₊ b ∧
      percentile xs p =
        some (a + (b - a) * (position xs.length p - ⌊position xs.length p⌋₊)) := by
  have hperm := sorted_perm xs
  have hlength : (sorted xs).length = xs.length := hperm.length_eq
  have hceil : ⌈position xs.length p⌉₊ ≤ xs.length - 1 := Nat.ceil_le.mpr (position_le _ _)
  have hfloor := Nat.floor_le_ceil (position xs.length p)
  have hpos : 0 < xs.length := List.length_pos_iff.mpr hne
  have hlow : ⌊position xs.length p⌋₊ < (sorted xs).length := by omega
  have hhigh : ⌈position xs.length p⌉₊ < (sorted xs).length := by omega
  refine ⟨(sorted xs)[⌊position xs.length p⌋₊], (sorted xs)[⌈position xs.length p⌉₊],
    (isOrderStatistic_getElem (pairwise_sorted xs) hlow).perm hperm.symm,
    (isOrderStatistic_getElem (pairwise_sorted xs) hhigh).perm hperm.symm, ?_⟩
  rw [percentile, hlength, rank_eq_position, interpolate]
  show (do
    let below ← (sorted xs)[⌊position xs.length p⌋₊]?
    let above ← (sorted xs)[⌈position xs.length p⌉₊]?
    some (below + (above - below) * (position xs.length p - ⌊position xs.length p⌋₊))) = _
  rw [List.getElem?_eq_getElem hlow, List.getElem?_eq_getElem hhigh]
  rfl

/-- **A percentile never decreases** when it is taken further on or of greater values. -/
theorem percentile_le_percentile {xs ys : List (Exact K)} (hraised : List.Forall₂ (· ≤ ·) xs ys)
    {p q v w : Exact K} (hpq : p ≤ q) (hv : percentile xs p = some v)
    (hw : percentile ys q = some w) : v ≤ w := by
  have hlength : ys.length = xs.length := hraised.length_eq.symm
  have hne : xs ≠ [] := by
    rintro rfl
    rw [percentile_nil] at hv
    cases hv
  have hne' : ys ≠ [] := fun hnil => hne (List.forall₂_nil_right_iff.mp (hnil ▸ hraised))
  obtain ⟨a, b, ha, hb, hline⟩ := exists_percentile hne p
  obtain ⟨c, d, hc, hd, hline'⟩ := exists_percentile hne' q
  obtain rfl := Option.some.inj (hv.symm.trans hline)
  obtain rfl := Option.some.inj (hw.symm.trans hline')
  have hcount := countP_le_of_forall₂ hraised
  have hposition : position xs.length p ≤ position ys.length q :=
    hlength ▸ position_mono xs.length hpq
  have hab : a ≤ b := ha.le hb (fun _ => le_rfl) (Nat.floor_le_ceil _)
  have hcd : c ≤ d := hc.le hd (fun _ => le_rfl) (Nat.floor_le_ceil _)
  have hfraction := fraction_mem xs.length p
  have hfraction' := fraction_mem ys.length q
  by_cases hapart : ⌈position xs.length p⌉₊ ≤ ⌊position ys.length q⌋₊
  · -- the first line ends before the second begins
    calc a + (b - a) * _ ≤ b := (line_mem hab hfraction).2
      _ ≤ c := hb.le hc hcount hapart
      _ ≤ c + (d - c) * _ := (line_mem hcd hfraction').1
  · -- both lines are between the same two positions
    have hfloor := Nat.floor_le_floor hposition
    have hceil := Nat.ceil_le_ceil hposition
    have hnext := Nat.ceil_le_floor_add_one (position xs.length p)
    have hsame : ⌊position xs.length p⌋₊ = ⌊position ys.length q⌋₊ := by omega
    have hbd : b ≤ d := hb.le hd hcount hceil
    refine line_mono (ha.le hc hcount hfloor) hbd hcd ?_ hfraction
    rw [hsame]
    exact sub_le_sub_right hposition _

/-- **What is computed is the percentile.** -/
theorem exists_isPercentile {xs : List (Exact K)} (hne : xs ≠ []) (p : Exact K) :
    ∃ v, percentile xs p = some v ∧ IsPercentile xs p v := by
  obtain ⟨a, b, ha, hb, hline⟩ := exists_percentile hne p
  have hab : a ≤ b := ha.le hb (fun _ => le_rfl) (Nat.floor_le_ceil _)
  obtain ⟨hlow, hhigh⟩ := line_mem hab (fraction_mem xs.length p)
  refine ⟨_, hline, ?_⟩
  exact {
    neighbours := ⟨a, b, ha, hb, hlow, hhigh, rfl⟩
    least_le := fun x hx => (hx.2 ha.mem).trans hlow
    le_greatest := fun x hx => hhigh.trans (hx.2 hb.mem)
    isLeast := fun hp => by
      have hposition := position_of_le_zero xs.length hp
      rw [← Nat.cast_zero] at hposition
      exact (isOrderStatistic_of_position hposition ha).isLeast
    isGreatest := fun hp =>
      (isOrderStatistic_of_position (position_of_hundred_le xs.length hp) ha).isGreatest
    isOrderStatistic := fun hlength k hk hp =>
      isOrderStatistic_of_position (hp ▸ position_eq_natCast hlength hk) ha }

end

/-! ## 3.  Doubles -/

/-- **What is not a number leaves no trace in a percentile**, and neither does the order of the
list. -/
theorem percentile_eq_of_perm_append {xs ys skipped : List Float}
    (hskipped : ∀ x ∈ skipped, Scalar.isNaN x = true) (hperm : ys.Perm (xs ++ skipped)) (p : Float) :
    percentile ys p = percentile xs p := by
  have hnone : skipped.filter (fun x => !Scalar.isNaN x) = [] :=
    List.filter_eq_nil_iff.mpr fun x hx => by simp [hskipped x hx]
  have hsorted : sorted (xs ++ skipped) = sorted xs := by
    rw [sorted, List.filter_append, hnone, List.append_nil, sorted]
  rw [Binary64.percentile_eq_of_perm hperm, percentile, hsorted, percentile]

/-! ## 4.  All of it -/

/-- **A percentile is an interpolated order statistic.**

* In exact arithmetic, values that are not none have every percentile.  It is on the line between
  the order statistics at the whole numbers below and above its position, so it is between the
  least and the greatest value, is the one at zero and the other at one hundred, and is an order
  statistic wherever its position is whole.
* It never decreases when the percentile is raised, when values are raised, or both.
* On doubles it is the same double, or absent likewise, if the values are reordered and what is not
  a number is inserted anywhere. -/
theorem percentile_interpolates (K : Type) [Field K] [LinearOrder K] [IsStrictOrderedRing K]
    [FloorSemiring K] [HasRoot K] :
    (∀ xs : List (Exact K), xs ≠ [] → ∀ p, ∃ v, percentile xs p = some v ∧ IsPercentile xs p v) ∧
      (∀ xs ys : List (Exact K), List.Forall₂ (· ≤ ·) xs ys → ∀ p q, p ≤ q →
        ∀ v w, percentile xs p = some v → percentile ys q = some w → v ≤ w) ∧
      ∀ xs ys skipped : List Float, (∀ x ∈ skipped, Scalar.isNaN x = true) →
        ys.Perm (xs ++ skipped) → ∀ p, percentile ys p = percentile xs p :=
  ⟨fun _ hne p => exists_isPercentile hne p,
    fun _ _ hraised _ _ hpq _ _ hv hw => percentile_le_percentile hraised hpq hv hw,
    fun _ _ _ hskipped hperm p => percentile_eq_of_perm_append hskipped hperm p⟩

/-- Three response times, out of order. -/
def threeTimes : List (Exact ℚ) := [290, 110, 210]

/-- Nine tenths of the way from the second to the third is 282, and a fourth that is not a number
does not count. -/
theorem percentile_interpolates_threeTimes :
    percentile threeTimes 95 = some 282 ∧
      ∀ p : Float, percentile [290, 0.0 / 0.0, 110, 210] p = percentile [110, 210, 290] p := by
  obtain ⟨hexact, -, hdoubles⟩ := percentile_interpolates ℚ
  obtain ⟨v, hv, hpercentile⟩ := hexact threeTimes (List.cons_ne_nil _ _) 95
  obtain ⟨a, b, ha, hb, -, -, hline⟩ := hpercentile.neighbours
  have hposition : position threeTimes.length (95 : Exact ℚ) = 19 / 10 := by
    rw [position_eq, min_eq_left (by norm_num), max_eq_right (by norm_num)]
    norm_num [threeTimes]
  have hfloor : ⌊(19 / 10 : Exact ℚ)⌋₊ = 1 := by
    rw [Nat.floor_eq_iff (by norm_num)]
    norm_num
  have hceil : ⌈(19 / 10 : Exact ℚ)⌉₊ = 2 := by
    rw [Nat.ceil_eq_iff (by norm_num)]
    norm_num
  rw [hposition, hfloor] at ha
  rw [hposition, hceil] at hb
  have hsecond : IsOrderStatistic threeTimes 1 210 := ⟨by decide, by decide, by decide⟩
  have hthird : IsOrderStatistic threeTimes 2 290 := ⟨by decide, by decide, by decide⟩
  obtain rfl := ha.unique hsecond
  obtain rfl := hb.unique hthird
  have hvalue : v = 282 := by
    rw [hline, hposition, hfloor]
    norm_num
  refine ⟨hvalue ▸ hv, fun p => hdoubles [110, 210, 290] _ [0.0 / 0.0] ?_ ?_ p⟩
  · intro x hx
    rw [List.mem_singleton.mp hx]
    decide
  · decide

end Statistics
end FleetScore
