import FleetScore.Training.Train

/-!
# Training on paired examples

A training set is three lists that belong together by position, and nothing in its type says so.
Sets that come from paired examples are such sets, and this file follows them into training.

* `at?_ofExamples` --- choosing positions of such a set chooses examples, so what is chosen is
  such a set again;
* `split?_ofExamples` --- both halves of a split are such sets, of examples that were there, and
  there is something to learn from: the first example is never held back;
* `descend_error` --- fitting well-shaped data fails in one way only, by diverging;
* `train?_ofExamples` --- so does training on paired examples.
-/

namespace FleetScore

variable {R : Type}

/-! ## 1.  Splitting -/

namespace TrainingSet

/-- Reading a column of a list at some of its positions reads the column of what is there. -/
theorem mapM_getElem? {α β : Type} (f : α → β) (xs : List α) {positions : List Nat}
    (hpositions : ∀ i ∈ positions, i < xs.length) :
    (positions.mapM fun i => (xs.map f)[i]?) =
      some ((positions.filterMap fun i => xs[i]?).map f) := by
  induction positions with
  | nil => rfl
  | cons i positions ih =>
    have hi : i < xs.length := hpositions i List.mem_cons_self
    have hread : xs[i]? = some xs[i] := List.getElem?_eq_getElem hi
    rw [List.mapM_cons, ih fun j hj => hpositions j (List.mem_cons_of_mem i hj),
      List.getElem?_map, List.filterMap_cons, hread]
    rfl

/-- The examples at the positions that pass a test. -/
def pick (examples : List (Example R)) (p : Nat → Bool) : List (Example R) :=
  ((List.range examples.length).filter p).filterMap fun i => examples[i]?

theorem pick_subset (examples : List (Example R)) (p : Nat → Bool) :
    pick examples p ⊆ examples := by
  intro e he
  obtain ⟨i, -, hi⟩ := List.mem_filterMap.mp he
  exact List.mem_of_getElem? hi

theorem not_isHeldBack_zero {every : Nat} (hevery : 2 ≤ every) : isHeldBack every 0 = false := by
  have hone : (0 + 1) % every = 1 := Nat.mod_eq_of_lt hevery
  rw [isHeldBack, hone]
  rfl

theorem pick_not_isHeldBack_ne_nil {examples : List (Example R)} (hne : examples ≠ [])
    {every : Nat} (hevery : 2 ≤ every) :
    pick examples (fun i => !isHeldBack every i) ≠ [] := by
  have hpos : 0 < examples.length := List.length_pos_iff.mpr hne
  refine List.ne_nil_of_mem (a := examples[0]) (List.mem_filterMap.mpr ⟨0, ?_, ?_⟩)
  · rw [List.mem_filter, List.mem_range, not_isHeldBack_zero hevery]
    exact ⟨hpos, rfl⟩
  · exact List.getElem?_eq_getElem hpos

variable [Scalar R]

/-- **The examples at some positions** are paired examples again. -/
theorem at?_pick (examples : List (Example R)) (p : Nat → Bool) :
    (ofExamples examples).at? ((List.range examples.length).filter p) =
      some (ofExamples (pick examples p)) := by
  have hpositions : ∀ i ∈ (List.range examples.length).filter p, i < examples.length :=
    fun i hi => List.mem_range.mp (List.mem_filter.mp hi).1
  rw [at?, ofExamples, mapM_getElem? _ _ hpositions, mapM_getElem? _ _ hpositions,
    mapM_getElem? _ _ hpositions]
  rfl

/-- **Paired examples can be split**, into halves of paired examples of which the first is not
empty. -/
theorem split?_ofExamples {examples : List (Example R)} (hne : examples ≠ []) (every : Nat) :
    ∃ learned validated, (ofExamples examples).split? every =
        some ⟨ofExamples learned, ofExamples validated⟩ ∧
      learned ≠ [] ∧ learned ⊆ examples ∧ validated ⊆ examples := by
  have hsize : (ofExamples examples).size = examples.length := List.length_map _
  rw [split?, hsize]
  by_cases hsmall : examples.length < 2 ∨ every < 2
  · rw [if_pos hsmall]
    exact ⟨examples, examples, rfl, hne, List.Subset.refl _, List.Subset.refl _⟩
  · have hlearned : pick examples (fun i => !isHeldBack every i) ≠ [] :=
      pick_not_isHeldBack_ne_nil hne (by omega)
    rw [if_neg hsmall]
    dsimp only
    rw [at?_pick, at?_pick]
    by_cases hnone : (ofExamples (pick examples fun i => isHeldBack every i)).isEmpty = true
    · refine ⟨_, pick examples fun i => !isHeldBack every i, ?_, hlearned, pick_subset _ _,
        pick_subset _ _⟩
      simp only [Option.bind_eq_bind, Option.bind_some, hnone, if_true]
    · refine ⟨_, pick examples fun i => isHeldBack every i, ?_, hlearned, pick_subset _ _,
        pick_subset _ _⟩
      simp only [Option.bind_eq_bind, Option.bind_some, hnone]
      rfl

end TrainingSet

variable [Scalar R]

/-! ## 2.  Fitting -/

namespace Regressor

/-- **Taking steps fails by diverging only.** -/
theorem descend_error (p : Descent R) (d : Data R) {fault : TrainingFault} {remaining epoch : Nat}
    {model : Regressor R} {best : Checkpoint R} {losses : List R}
    (h : (descend p d remaining epoch model best losses).result = .error fault) :
    ∃ n, fault = .diverged n := by
  induction remaining generalizing epoch model best losses with
  | zero =>
    rw [descend] at h
    cases h
  | succ remaining ih =>
    rw [descend] at h
    dsimp only at h
    split at h
    · exact ih h
    · exact ⟨epoch, (Except.error.inj h).symm⟩

theorem fit_error {p : Descent R} {d : Data R} (hshape : d.isWellShaped = true)
    {m : Regressor R} {fault : TrainingFault} (h : (m.fit p d).result = .error fault) :
    ∃ n, fault = .diverged n := by
  rw [fit, if_pos hshape] at h
  exact descend_error p d h

end Regressor

/-! ## 3.  Training -/

namespace Training

theorem isWellShaped_standardised (scaler : Scaler R) {learned : List (Example R)}
    (hne : learned ≠ []) (validated : List (Example R)) :
    (standardised scaler ⟨.ofExamples learned, .ofExamples validated⟩).isWellShaped = true := by
  simp [Regressor.Data.isWellShaped, standardised, TrainingSet.ofExamples, hne]

theorem trainHalves_error {config : Config R} {halves : TrainingSet.Halves R}
    (hshape : (standardised (Scaler.fit halves.train.x) halves).isWellShaped = true)
    {fault : TrainingFault} (h : trainHalves config halves = .error fault) :
    ∃ epoch, fault = .diverged epoch := by
  rw [trainHalves] at h
  split at h
  · rename_i fault' hfault
    obtain rfl : fault' = fault := Except.error.inj h
    exact Regressor.fit_error hshape hfault
  · cases h

/-- **Training on paired examples** has an answer, and fails by diverging only. -/
theorem train?_ofExamples (config : Config R) {examples : List (Example R)}
    (hne : examples ≠ []) :
    ∃ result, train? config (.ofExamples examples) = some result ∧
      ∀ fault, result = .error fault → ∃ epoch, fault = .diverged epoch := by
  obtain ⟨learned, validated, hsplit, hlearned, -, -⟩ :=
    TrainingSet.split?_ofExamples hne config.validationEvery
  refine ⟨trainHalves config ⟨.ofExamples learned, .ofExamples validated⟩, ?_, ?_⟩
  · rw [train?, hsplit]
    rfl
  · intro fault h
    exact trainHalves_error (isWellShaped_standardised _ hlearned validated) h

end Training
end FleetScore
