import FleetScore.Proofs.Numeric.Comparison
import FleetScore.Proofs.Numeric.Nonnegative
import FleetScore.Proofs.Training.Halves

/-!
# The best model of a course

Fitting takes one step after another, and the models it goes through make up a *course* that does
not depend on what fitting remembers: `course p d m k` is the model after `k` steps.  Everything
that fitting leaves behind can be read off the course and its losses.

* While all losses are finite, what is remembered after `k` steps is the model numbered by
  `bestIndex`, which moves to a new model only if that is strictly better (`descend_kept`).
* At the first loss that is not finite, fitting stops with the model that has it
  (`descend_diverged`).

Both hold in any arithmetic.  On doubles a strict comparison picks a least loss, and of several
equal ones the first, provided that the loss of the first model is a number
(`isFirstLeast_bestIndex`): comparing doubles is comparing their levels, and a later loss that is
finite is a number anyway.  The loss of the first model may well be infinite.  The main result is
`fit_outcome`.
-/

namespace FleetScore
namespace Regressor

/-! ## 1.  The course of fitting -/

section

variable {R : Type} [Scalar R] (p : Descent R) (d : Data R) (m : Regressor R)

/-- The model after some steps. -/
def course : Nat → Regressor R
  | 0 => m
  | k + 1 => (course k).step p d.x d.y

/-- The loss after some steps. -/
def lossAfter (k : Nat) : R := d.loss (course p d m k)

/-- The losses after the first, the second and so on, up to some step. -/
def epochLosses (k : Nat) : List R := (List.range k).map fun i => lossAfter p d m (i + 1)

theorem epochLosses_succ (k : Nat) :
    epochLosses p d m (k + 1) = epochLosses p d m k ++ [lossAfter p d m (k + 1)] := by
  rw [epochLosses, List.range_succ, List.map_append]
  rfl

/-- The number of the loss that a search with strict comparisons has picked among the first. -/
def bestIndex (loss : Nat → R) : Nat → Nat
  | 0 => 0
  | k + 1 => if Scalar.less (loss (k + 1)) (loss (bestIndex loss k)) then k + 1
      else bestIndex loss k

/-- What is remembered after some steps. -/
def remembered (k : Nat) : Checkpoint R :=
  ⟨course p d m (bestIndex (lossAfter p d m) k),
    lossAfter p d m (bestIndex (lossAfter p d m) k)⟩

theorem remembered_succ (k : Nat) :
    remembered p d m (k + 1) =
      if Scalar.less (lossAfter p d m (k + 1)) (remembered p d m k).loss then
        ⟨course p d m (k + 1), lossAfter p d m (k + 1)⟩
      else remembered p d m k :=
  apply_ite (fun j => Checkpoint.mk (course p d m j) (lossAfter p d m j)) _ _ _

variable {p d m}

theorem descend_succ {k : Nat} (hfinite : Scalar.isFinite (lossAfter p d m (k + 1)) = true)
    (remaining : Nat) :
    descend p d (remaining + 1) (k + 1) (course p d m k) (remembered p d m k)
        (epochLosses p d m k).reverse =
      descend p d remaining (k + 2) (course p d m (k + 1)) (remembered p d m (k + 1))
        (epochLosses p d m (k + 1)).reverse := by
  have hloss : d.loss ((course p d m k).step p d.x d.y) = lossAfter p d m (k + 1) := rfl
  rw [descend]
  dsimp only
  rw [hloss, if_pos hfinite, remembered_succ, epochLosses_succ, List.reverse_append]
  rfl

/-- **A course without a divergence** ends with what was remembered. -/
theorem descend_kept {remaining k : Nat}
    (hfinite : ∀ i, k < i → i ≤ k + remaining → Scalar.isFinite (lossAfter p d m i) = true) :
    descend p d remaining (k + 1) (course p d m k) (remembered p d m k)
        (epochLosses p d m k).reverse =
      ⟨(remembered p d m (k + remaining)).model, epochLosses p d m (k + remaining),
        .ok (remembered p d m (k + remaining)).loss⟩ := by
  induction remaining generalizing k with
  | zero =>
    rw [descend, List.reverse_reverse]
    rfl
  | succ remaining ih =>
    have hnext : k + (remaining + 1) = k + 1 + remaining := by omega
    rw [descend_succ (hfinite (k + 1) (by omega) (by omega)), hnext]
    exact ih fun i hi hi' => hfinite i (by omega) (by omega)

/-- **A course stops at its first divergence**, with the model that has it. -/
theorem descend_diverged {remaining k n : Nat} (hn : n < remaining)
    (hfinite : ∀ i, k < i → i ≤ k + n → Scalar.isFinite (lossAfter p d m i) = true)
    (hinfinite : Scalar.isFinite (lossAfter p d m (k + n + 1)) = false) :
    descend p d remaining (k + 1) (course p d m k) (remembered p d m k)
        (epochLosses p d m k).reverse =
      ⟨course p d m (k + n + 1), epochLosses p d m (k + n), .error (.diverged (k + n + 1))⟩ := by
  induction n generalizing k remaining with
  | zero =>
    obtain ⟨remaining, rfl⟩ : ∃ r, remaining = r + 1 := ⟨remaining - 1, by omega⟩
    have hloss : d.loss ((course p d m k).step p d.x d.y) = lossAfter p d m (k + 1) := rfl
    rw [Nat.add_zero] at hinfinite
    rw [descend]
    dsimp only
    rw [hloss, hinfinite, List.reverse_reverse]
    rfl
  | succ n ih =>
    obtain ⟨remaining, rfl⟩ : ∃ r, remaining = r + 1 := ⟨remaining - 1, by omega⟩
    have hnext : k + (n + 1) = k + 1 + n := by omega
    rw [hnext] at hfinite hinfinite ⊢
    rw [descend_succ (hfinite (k + 1) (by omega) (by omega))]
    exact ih (by omega) (fun i hi hi' => hfinite i (by omega) hi') hinfinite

/-! ## 2.  How fitting ends -/

/-- Whether there is nothing to learn from, or some rows are without their targets or some targets
without their rows. -/
def Data.IsMisshapen (d : Data R) : Prop :=
  d.x = [] ∨ d.x.length ≠ d.y.length ∨ d.xValidation.length ≠ d.yValidation.length

omit [Scalar R] in
theorem Data.isMisshapen_iff : d.IsMisshapen ↔ d.isWellShaped = false := by
  rw [IsMisshapen, isWellShaped]
  by_cases hx : d.x = [] <;> simp [hx, imp_iff_not_or]

/-- Whether a step is the first of those up to `last` that leads to a loss that is not finite. -/
structure IsFirstDivergence (loss : Nat → R) (last k : Nat) : Prop where
  pos : 0 < k
  le_last : k ≤ last
  not_isFinite : Scalar.isFinite (loss k) = false
  isFinite : ∀ i, 0 < i → i < k → Scalar.isFinite (loss i) = true

theorem exists_isFirstDivergence {loss : Nat → R} {last : Nat}
    (h : ∃ k, 0 < k ∧ k ≤ last ∧ Scalar.isFinite (loss k) = false) :
    ∃ k, IsFirstDivergence loss last k := by
  classical
  obtain ⟨hpos, hle, hinfinite⟩ := Nat.find_spec h
  refine ⟨Nat.find h, hpos, hle, hinfinite, fun i hi hlt => ?_⟩
  have hnot := Nat.find_min h hlt
  rw [← Bool.not_eq_false]
  exact fun hi' => hnot ⟨hi, by omega, hi'⟩

theorem fit_of_isMisshapen (h : d.IsMisshapen) :
    m.fit p d = ⟨m, [],
      .error (.shapes d.x.length d.y.length d.xValidation.length d.yValidation.length)⟩ := by
  rw [fit, Data.isMisshapen_iff.1 h]
  rfl

theorem fit_eq_descend (h : ¬ d.IsMisshapen) :
    m.fit p d = descend p d p.epochs (0 + 1) (course p d m 0) (remembered p d m 0)
      (epochLosses p d m 0).reverse := by
  rw [Data.isMisshapen_iff, Bool.not_eq_false] at h
  rw [fit, if_pos h]
  rfl

theorem isMisshapen_of_fit {a b v w : Nat} (h : (m.fit p d).result = .error (.shapes a b v w)) :
    d.IsMisshapen := by
  by_contra hshape
  rw [Data.isMisshapen_iff, Bool.not_eq_false] at hshape
  obtain ⟨n, hn⟩ := fit_error hshape h
  cases hn

/-- **Fitting stops at the first divergence.** -/
theorem fit_of_isFirstDivergence (hshape : ¬ d.IsMisshapen) {k : Nat}
    (h : IsFirstDivergence (lossAfter p d m) p.epochs k) :
    m.fit p d = ⟨course p d m k, epochLosses p d m (k - 1), .error (.diverged k)⟩ := by
  obtain ⟨hpos, hle, hinfinite, hfinite⟩ := h
  obtain ⟨n, rfl⟩ : ∃ n, k = 0 + n + 1 := ⟨k - 1, by omega⟩
  rw [fit_eq_descend hshape, descend_diverged (by omega) (fun i hi hi' => hfinite i hi (by omega))
    hinfinite]
  rfl

/-- **Fitting without a divergence** ends with what was remembered. -/
theorem fit_of_isFinite (hshape : ¬ d.IsMisshapen)
    (hfinite : ∀ k, 0 < k → k ≤ p.epochs → Scalar.isFinite (lossAfter p d m k) = true) :
    m.fit p d = ⟨(remembered p d m p.epochs).model, epochLosses p d m p.epochs,
      .ok (remembered p d m p.epochs).loss⟩ := by
  rw [fit_eq_descend hshape, descend_kept fun i hi hi' => hfinite i hi (by omega), Nat.zero_add]

end

/-! ## 3.  The least loss -/

/-- Whether a loss is a least one of those up to `last`, and the first that is. -/
structure IsFirstLeast (loss : Nat → Float) (last j : Nat) : Prop where
  le_last : j ≤ last
  atMost : ∀ k, k ≤ last → Scalar.atMost (loss j) (loss k) = true
  less : ∀ k, k < j → Scalar.less (loss j) (loss k) = true

/-- **A search with strict comparisons finds the first least loss**, if all of them are numbers. -/
theorem isFirstLeast_bestIndex {loss : Nat → Float} {last : Nat}
    (hnumber : ∀ k, k ≤ last → Scalar.isNaN (loss k) = false) :
    IsFirstLeast loss last (bestIndex loss last) := by
  induction last with
  | zero =>
    refine ⟨le_rfl, fun k hk => ?_, fun k hk => absurd hk (Nat.not_lt_zero k)⟩
    obtain rfl : k = 0 := Nat.le_zero.mp hk
    exact Binary64.atMost_iff.2 ⟨hnumber 0 le_rfl, hnumber 0 le_rfl, le_rfl⟩
  | succ last ih =>
    obtain ⟨hle, hatMost, hless⟩ := ih fun k hk => hnumber k (by omega)
    have hnew := hnumber (last + 1) le_rfl
    have hold := hnumber (bestIndex loss last) (by omega)
    rw [bestIndex]
    split
    · -- The new loss is below the least one so far, and so below all of them.
      rename_i hbetter
      have hbelow : ∀ k, k ≤ last → Scalar.less (loss (last + 1)) (loss k) = true := by
        intro k hk
        obtain ⟨-, hnumber', hleast⟩ := Binary64.atMost_iff.1 (hatMost k hk)
        obtain ⟨-, -, hlt⟩ := Binary64.less_iff.1 hbetter
        exact Binary64.less_iff.2 ⟨hnew, hnumber', hlt.trans_le hleast⟩
      refine ⟨le_rfl, fun k hk => ?_, fun k hk => hbelow k (by omega)⟩
      obtain hk | rfl := Nat.le_succ_iff.1 hk
      · obtain ⟨-, hnumber', hlt⟩ := Binary64.less_iff.1 (hbelow k hk)
        exact Binary64.atMost_iff.2 ⟨hnew, hnumber', hlt.le⟩
      · exact Binary64.atMost_iff.2 ⟨hnew, hnew, le_rfl⟩
    · rename_i hworse
      refine ⟨by omega, fun k hk => ?_, hless⟩
      obtain hk | rfl := Nat.le_succ_iff.1 hk
      · exact hatMost k hk
      · refine Binary64.atMost_iff.2 ⟨hold, hnew, not_lt.1 fun hlt => hworse ?_⟩
        exact Binary64.less_iff.2 ⟨hnew, hold, hlt⟩

/-! ## 4.  What fitting leaves behind -/

section

variable (p : Descent Float) (d : Data Float) (m : Regressor Float)

/-- **What fitting leaves behind.**  A model and data determine a course of models and their losses.

* Fitting complains about the shapes if and only if they are wrong, and then leaves the model as it
  is.
* If they are right and one of the losses is not finite, fitting stops at the first such loss.  It
  has completed the epochs before, and the model is the one with that loss.
* Otherwise, if the loss of the first model is a number, the model is the one with the least loss
  of the course, and of several such models the earliest; its loss is returned. -/
theorem fit_outcome :
    ((∃ a b v w, (m.fit p d).result = .error (.shapes a b v w)) ↔ d.IsMisshapen) ∧
    (d.IsMisshapen → (m.fit p d).model = m ∧ (m.fit p d).losses = []) ∧
    (¬ d.IsMisshapen →
      (∃ k, 0 < k ∧ k ≤ p.epochs ∧ Scalar.isFinite (lossAfter p d m k) = false) →
      ∃ k, IsFirstDivergence (lossAfter p d m) p.epochs k ∧
        m.fit p d = ⟨course p d m k, epochLosses p d m (k - 1), .error (.diverged k)⟩) ∧
    (¬ d.IsMisshapen →
      (∀ k, 0 < k → k ≤ p.epochs → Scalar.isFinite (lossAfter p d m k) = true) →
      Scalar.isNaN (lossAfter p d m 0) = false →
      ∃ j, IsFirstLeast (lossAfter p d m) p.epochs j ∧
        m.fit p d =
          ⟨course p d m j, epochLosses p d m p.epochs, .ok (d.loss (course p d m j))⟩) := by
  refine ⟨⟨?_, ?_⟩, ?_, ?_, ?_⟩
  · rintro ⟨a, b, v, w, h⟩
    exact isMisshapen_of_fit h
  · intro hshape
    rw [fit_of_isMisshapen hshape]
    exact ⟨_, _, _, _, rfl⟩
  · intro hshape
    rw [fit_of_isMisshapen hshape]
    exact ⟨rfl, rfl⟩
  · intro hshape hdiverges
    obtain ⟨k, hk⟩ := exists_isFirstDivergence hdiverges
    exact ⟨k, hk, fit_of_isFirstDivergence hshape hk⟩
  · intro hshape hfinite hnumber
    have hnumbers : ∀ k, k ≤ p.epochs → Scalar.isNaN (lossAfter p d m k) = false := by
      intro k hk
      obtain rfl | hpos := Nat.eq_zero_or_pos k
      · exact hnumber
      · exact Binary64.isNaN_of_isFinite (hfinite k hpos hk)
    exact ⟨bestIndex (lossAfter p d m) p.epochs, isFirstLeast_bestIndex hnumbers,
      fit_of_isFinite hshape hfinite⟩

end

/-! ### Three fittings -/

/-- One row to learn from and the same row, with a greater target, to validate on. -/
def sampleData : Data Float where
  x := [#v[1, 0, 0, 0, 0, 0]]
  y := [1]
  xValidation := [#v[1, 0, 0, 0, 0, 0]]
  yValidation := [2]

/-- Steps so long that the second model is the best one. -/
def sampleDescent : Descent Float := ⟨3, 0.6, 0.01⟩

/-- Steps so long that the losses do not stay finite. -/
def divergingDescent : Descent Float := ⟨3, 1e100, 0.01⟩

theorem not_isMisshapen_sampleData : ¬ sampleData.IsMisshapen := by
  rintro (h | h | h)
  · cases h
  · exact h rfl
  · exact h rfl

/-- Without targets to validate on, fitting complains and leaves the model.  With steps that are
much too long it diverges in the second epoch, after one that was completed.  With steps that are
somewhat too long it goes through three epochs and returns to the model after the first. -/
theorem fit_outcome_sampleData :
    (∃ a b v w, (zero.fit sampleDescent { sampleData with yValidation := [] }).result =
      .error (.shapes a b v w)) ∧
    zero.fit divergingDescent sampleData =
      ⟨course divergingDescent sampleData zero 2, epochLosses divergingDescent sampleData zero 1,
        .error (.diverged 2)⟩ ∧
    zero.fit sampleDescent sampleData =
      ⟨course sampleDescent sampleData zero 1, epochLosses sampleDescent sampleData zero 3,
        .ok (sampleData.loss (course sampleDescent sampleData zero 1))⟩ := by
  refine ⟨?_, ?_, ?_⟩
  · exact (fit_outcome _ _ _).1.2 (.inr (.inr (by decide)))
  · have hone : Scalar.isFinite (lossAfter divergingDescent sampleData zero 1) = true := by
      decide +kernel
    have htwo : Scalar.isFinite (lossAfter divergingDescent sampleData zero 2) = false := by
      decide +kernel
    obtain ⟨k, hk, hfit⟩ := (fit_outcome divergingDescent sampleData zero).2.2.1
      not_isMisshapen_sampleData ⟨2, by decide, by decide, htwo⟩
    obtain rfl : k = 2 := by
      have hpos := hk.pos
      have hle : k ≤ 2 := not_lt.1 fun hlt => by simpa [htwo] using hk.isFinite 2 (by decide) hlt
      have hne : k ≠ 1 := by
        rintro rfl
        simpa [hone] using hk.not_isFinite
      omega
    exact hfit
  · have hfinite : ∀ k, 0 < k → k ≤ sampleDescent.epochs →
        Scalar.isFinite (lossAfter sampleDescent sampleData zero k) = true := by
      intro k hpos hle
      obtain rfl | rfl | rfl : k = 1 ∨ k = 2 ∨ k = 3 := by
        have hepochs : sampleDescent.epochs = 3 := rfl
        omega
      all_goals decide +kernel
    obtain ⟨j, hj, hfit⟩ := (fit_outcome sampleDescent sampleData zero).2.2.2
      not_isMisshapen_sampleData hfinite (by decide +kernel)
    obtain rfl : j = 1 := by
      have hle : j ≤ 3 := hj.le_last
      have hleast := hj.atMost 1 (by decide)
      obtain rfl | rfl | rfl | rfl : j = 0 ∨ j = 1 ∨ j = 2 ∨ j = 3 := by omega
      · exact absurd hleast (by decide +kernel)
      · rfl
      · exact absurd hleast (by decide +kernel)
      · exact absurd hleast (by decide +kernel)
    exact hfit

end Regressor
end FleetScore
