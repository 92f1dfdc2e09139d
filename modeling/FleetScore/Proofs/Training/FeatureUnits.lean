import FleetScore.Proofs.Numeric.Exact
import FleetScore.Proofs.Training.BestCheckpoint
import FleetScore.Proofs.Training.Fitting
import FleetScore.Proofs.Training.Standardised

/-!
# The unit of a feature does not matter

A response time may be given in seconds or in milliseconds, and a temperature in degrees of either
kind.  The scaler is there so that a model does not notice, and in exact real arithmetic it does
not: a model that is trained on a feature in another unit is the same model, with the same loss and
the same evaluation, and predicts the same for rows in that unit (`train?_rescaled`).

Two runs of the whole training are compared, and they are compared where they first agree.

* A change of all rows goes through the split (`split?_mapRows`): which examples are held back is
  asked of positions only.
* If a changed row, standardised by the scaler of the changed rows, is what the row was before, then
  all that follows is computed from the same numbers (`endsAlike_trainHalves`).  The scaler must be
  that of the half that is learned from, for the rows of both halves and for those that are
  predicted.
* An affine change of one feature is such a change, as the average and the deviation of its column
  follow it (`transform_rescaled`).  The scale follows only if it is the deviation on both sides: a
  deviation that is too small to be divided by is replaced by one, which has no unit.
-/

namespace FleetScore

/-! ## 1.  Changes of all rows -/

namespace TrainingSet

variable {R : Type}

/-- A set with its rows changed. -/
def mapRows (f : FeatureRow R → FeatureRow R) (s : TrainingSet R) : TrainingSet R :=
  { s with x := s.x.map f }

/-- Both halves with their rows changed. -/
def Halves.mapRows (f : FeatureRow R → FeatureRow R) (h : Halves R) : Halves R :=
  ⟨h.train.mapRows f, h.validation.mapRows f⟩

variable (f : FeatureRow R → FeatureRow R) (s : TrainingSet R)

theorem mapM_map_getElem? {α β : Type} (g : α → β) (xs : List α) (positions : List Nat) :
    (positions.mapM fun i => (xs.map g)[i]?) =
      (positions.mapM fun i => xs[i]?).map (List.map g) := by
  induction positions with
  | nil => rfl
  | cons i positions ih =>
    rw [List.mapM_cons, List.mapM_cons, ih, List.getElem?_map]
    cases xs[i]? with
    | none => rfl
    | some x => cases positions.mapM fun i => xs[i]? <;> rfl

theorem at?_mapRows (positions : List Nat) :
    (s.mapRows f).at? positions = (s.at? positions).map (mapRows f) := by
  rw [at?, at?, mapRows, mapM_map_getElem?]
  cases positions.mapM fun i => s.serverIds[i]? with
  | none => rfl
  | some serverIds =>
    cases positions.mapM fun i => s.x[i]? with
    | none => rfl
    | some x => cases positions.mapM fun i => s.y[i]? <;> rfl

/-- **A change of the rows goes through the split.** -/
theorem split?_mapRows (every : Nat) :
    (s.mapRows f).split? every = (s.split? every).map (Halves.mapRows f) := by
  have hsize : (s.mapRows f).size = s.size := List.length_map _
  rw [split?, split?, hsize]
  split
  · rfl
  · dsimp only
    rw [at?_mapRows, at?_mapRows]
    cases s.at? ((List.range s.size).filter fun i => !isHeldBack every i) with
    | none => rfl
    | some train =>
      cases s.at? ((List.range s.size).filter fun i => isHeldBack every i) with
      | none => rfl
      | some validation =>
        have hempty : (validation.mapRows f).isEmpty = validation.isEmpty := List.isEmpty_map
        have hhalf : (if validation.isEmpty then train.mapRows f else validation.mapRows f) =
            (if validation.isEmpty then train else validation).mapRows f :=
          (apply_ite (mapRows f) _ _ _).symm
        show some (Halves.mk _ (if (validation.mapRows f).isEmpty then _ else _)) = _
        rw [hempty, hhalf]
        rfl

end TrainingSet

/-! ## 2.  Trainings that see the same -/

namespace Training

variable {R : Type} [Scalar R]

/-- Whether two trained models are one model with one report, up to a change of the rows that they
read. -/
structure Trained.SameUnder (f : FeatureRow R → FeatureRow R) (t t' : Trained R) : Prop where
  model : t'.model = t.model
  evaluation : t'.evaluation = t.evaluation
  validationLoss : t'.validationLoss = t.validationLoss
  trainSamples : t'.trainSamples = t.trainSamples
  validationSamples : t'.validationSamples = t.validationSamples
  predictRaw : ∀ row, t'.predictRaw (f row) = t.predictRaw row

/-- Whether two trainings end alike: with one fault, or with one model up to a change of rows. -/
inductive EndsAlike (f : FeatureRow R → FeatureRow R) :
    Except TrainingFault (Trained R) → Except TrainingFault (Trained R) → Prop
  | fails (fault : TrainingFault) : EndsAlike f (.error fault) (.error fault)
  | succeeds {t t' : Trained R} (h : t.SameUnder f t') : EndsAlike f (.ok t) (.ok t')

variable {f : FeatureRow R → FeatureRow R} {halves : TrainingSet.Halves R}

theorem standardised_mapRows
    (hsame : ∀ row, (Scaler.fit (halves.train.x.map f)).transform (f row) =
      (Scaler.fit halves.train.x).transform row) :
    standardised (Scaler.fit (halves.train.x.map f)) (halves.mapRows f) =
      standardised (Scaler.fit halves.train.x) halves := by
  have hrows : ∀ rows : List (FeatureRow R),
      (rows.map f).map (Scaler.fit (halves.train.x.map f)).transform =
        rows.map (Scaler.fit halves.train.x).transform := by
    intro rows
    rw [List.map_map]
    exact List.map_congr_left fun row _ => hsame row
  simp only [standardised, TrainingSet.Halves.mapRows, TrainingSet.mapRows, hrows]

/-- **Trainings on the same standardised rows end alike.** -/
theorem endsAlike_trainHalves (config : Config R)
    (hsame : ∀ row, (Scaler.fit (halves.train.x.map f)).transform (f row) =
      (Scaler.fit halves.train.x).transform row) :
    EndsAlike f (trainHalves config halves) (trainHalves config (halves.mapRows f)) := by
  have hdata := standardised_mapRows hsame
  have htrain : (halves.mapRows f).train.x = halves.train.x.map f := rfl
  rw [trainHalves, trainHalves, htrain, hdata]
  cases hresult : (Regressor.zero.fit config.descent
      (standardised (Scaler.fit halves.train.x) halves)).result with
  | error fault => exact .fails fault
  | ok loss =>
    exact .succeeds {
      model := rfl
      evaluation := rfl
      validationLoss := rfl
      trainSamples := List.length_map _
      validationSamples := List.length_map _
      predictRaw := fun row => congrArg (Regressor.zero.fit config.descent
        (standardised (Scaler.fit halves.train.x) halves)).model.predict (hsame row) }

end Training

/-! ## 3.  A feature in another unit -/

namespace FeatureRow

variable {R : Type} [Scalar R]

/-- A row with one feature in another unit. -/
def rescaled (j : Fin 6) (a c : R) (row : FeatureRow R) : FeatureRow R :=
  Vector.ofFn fun i => if i = j then a * row.get j + c else row.get i

theorem rescaled_get_self (j : Fin 6) (a c : R) (row : FeatureRow R) :
    (rescaled j a c row).get j = a * row.get j + c := by
  simp [rescaled, Vector.get_eq_getElem]

theorem rescaled_get_of_ne {i j : Fin 6} (hij : i ≠ j) (a c : R) (row : FeatureRow R) :
    (rescaled j a c row).get i = row.get i := by
  simp [rescaled, Vector.get_eq_getElem, hij]

end FeatureRow

namespace Scaler

variable {rows : List (FeatureRow (Exact ℝ))} {j : Fin 6} {a c : Exact ℝ}

theorem column_rescaled_self (rows : List (FeatureRow (Exact ℝ))) (j : Fin 6) (a c : Exact ℝ) :
    column (rows.map (FeatureRow.rescaled j a c)) j = (column rows j).map fun v => a * v + c := by
  rw [column, column, List.map_map, List.map_map]
  exact List.map_congr_left fun row _ => FeatureRow.rescaled_get_self j a c row

theorem column_rescaled_of_ne (rows : List (FeatureRow (Exact ℝ))) {i j : Fin 6} (hij : i ≠ j)
    (a c : Exact ℝ) : column (rows.map (FeatureRow.rescaled j a c)) i = column rows i := by
  rw [column, column, List.map_map]
  exact List.map_congr_left fun row _ => FeatureRow.rescaled_get_of_ne hij a c row

theorem ne_nil_of_lt_deviation {xs : List (Exact ℝ)} (h : threshold < Exact.deviation xs) :
    xs ≠ [] := by
  rintro rfl
  have hnone : Exact.deviation [] = 0 := by
    rw [Exact.deviation, List.map_nil, List.sum_nil, zero_div]
    exact Real.sqrt_zero
  have hpositive : (0 : Exact ℝ) < threshold := by norm_num [threshold]
  exact lt_asymm hpositive (hnone ▸ h)

/-- **A feature in another unit is standardised to the same number**, if its deviation is above the
threshold in either. -/
theorem transform_rescaled (ha : 0 < a) (hbefore : threshold < Exact.deviation (column rows j))
    (hafter : threshold <
      Exact.deviation (column (rows.map (FeatureRow.rescaled j a c)) j))
    (row : FeatureRow (Exact ℝ)) :
    (fit (rows.map (FeatureRow.rescaled j a c))).transform (FeatureRow.rescaled j a c row) =
      (fit rows).transform row := by
  have hcolumn := ne_nil_of_lt_deviation hbefore
  have hne : rows ≠ [] := List.map_eq_nil_iff.not.1 hcolumn
  have hne' : rows.map (FeatureRow.rescaled j a c) ≠ [] := List.map_eq_nil_iff.not.2 hne
  refine Vector.ext fun i hi => ?_
  have hget := transform_fit_get hne row ⟨i, hi⟩
  have hget' := transform_fit_get hne' (FeatureRow.rescaled j a c row) ⟨i, hi⟩
  refine hget'.trans (Eq.trans ?_ hget.symm)
  obtain rfl | hij := eq_or_ne (⟨i, hi⟩ : Fin 6) j
  · -- The start of the unit cancels in the distance, and the unit in the quotient.
    have hdistance : ∀ v μ : Exact ℝ, a * v + c - (a * μ + c) = a * (v - μ) := by
      intro v μ
      ring
    rw [columnMoments_eq, columnMoments_eq]
    dsimp only
    rw [scaleOf_of_lt hbefore, scaleOf_of_lt hafter, column_rescaled_self,
      Exact.average_affine hcolumn, Exact.deviation_affine hcolumn ha,
      FeatureRow.rescaled_get_self, hdistance, mul_div_mul_left _ _ ha.ne']
  · rw [column_rescaled_of_ne rows hij, FeatureRow.rescaled_get_of_ne hij]

end Scaler

namespace Training

/-- **Training does not depend on the unit of a feature.**  In exact real arithmetic, if every
value of one feature is replaced by `a` times the value plus `c`, and the standard deviation of the
feature over the half that is learned from is above the threshold before and after, then training
ends alike: with the same fault, or with the same weights, bias, evaluation and loss, and the second
model predicts for rows in the new unit what the first one predicts for the rows as they were. -/
theorem train?_rescaled {s : TrainingSet (Exact ℝ)} {config : Config (Exact ℝ)}
    {halves : TrainingSet.Halves (Exact ℝ)} (hsplit : s.split? config.validationEvery = some halves)
    {j : Fin 6} {a c : Exact ℝ} (ha : 0 < a)
    (hbefore : Scaler.threshold < Exact.deviation (Scaler.column halves.train.x j))
    (hafter : Scaler.threshold <
      Exact.deviation (Scaler.column (halves.train.x.map (FeatureRow.rescaled j a c)) j)) :
    ∃ result result', train? config s = some result ∧
      train? config (s.mapRows (FeatureRow.rescaled j a c)) = some result' ∧
      EndsAlike (FeatureRow.rescaled j a c) result result' := by
  refine ⟨trainHalves config halves,
    trainHalves config (halves.mapRows (FeatureRow.rescaled j a c)), ?_, ?_,
    endsAlike_trainHalves config (Scaler.transform_rescaled ha hbefore hafter)⟩
  · rw [train?, hsplit]
    rfl
  · rw [train?, TrainingSet.split?_mapRows, hsplit]
    rfl

/-! ### A load in another unit -/

/-- Three servers, of which the last one is held back. -/
noncomputable def loadSet : TrainingSet (Exact ℝ) where
  serverIds := [1, 2, 3]
  x := [#v[0.0, 20.0, 1.0, 0.0, 100.0, 5.0], #v[2.0, 20.0, 1.0, 0.0, 100.0, 5.0],
    #v[1.0, 99.0, 1.0, 0.0, 100.0, 5.0]]
  y := [10.0, 30.0, 20.0]

/-- Four epochs with every third example held back. -/
noncomputable def loadConfig : Config (Exact ℝ) := ⟨⟨4, 0.1, 0.01⟩, 3⟩

/-- What is learned from, and what is validated on. -/
noncomputable def loadHalves : TrainingSet.Halves (Exact ℝ) where
  train := ⟨[1, 2], loadSet.x.take 2, loadSet.y.take 2⟩
  validation := ⟨[3], loadSet.x.drop 2, loadSet.y.drop 2⟩

/-- In exact arithmetic nothing diverges. -/
theorem exists_trainHalves {halves : TrainingSet.Halves (Exact ℝ)} (config : Config (Exact ℝ))
    (hshape : ¬ (standardised (Scaler.fit halves.train.x) halves).IsMisshapen) :
    ∃ t, trainHalves config halves = .ok t := by
  rw [trainHalves, Regressor.fit_of_isFinite hshape fun _ _ _ => rfl]
  exact ⟨_, rfl⟩

theorem deviation_loadHalves : Exact.deviation (Scaler.column loadHalves.train.x 0) = 1 := by
  have hcolumn : Scaler.column loadHalves.train.x 0 = [0, 2] := by
    change [(0.0 : Exact ℝ), 2.0] = [0, 2]
    norm_num
  have haverage : Exact.average [0, 2] = 1 := by norm_num [Exact.average]
  have hvariance : (([0, 2] : List (Exact ℝ)).map fun v => (v - 1) ^ 2).sum /
      ((2 : ℕ) : Exact ℝ) = 1 := by
    norm_num
  rw [hcolumn, Exact.deviation, haverage]
  exact (congrArg Real.sqrt hvariance).trans Real.sqrt_one

/-- In thousandths, and with a zero that is five of them lower, the first feature is another number
in every row.  The two trainings succeed with one model. -/
theorem train?_rescaled_loadSet :
    ∃ t t', train? loadConfig loadSet = some (.ok t) ∧
      train? loadConfig (loadSet.mapRows (FeatureRow.rescaled 0 1000 5)) = some (.ok t') ∧
      t.SameUnder (FeatureRow.rescaled 0 1000 5) t' := by
  have hsplit : loadSet.split? loadConfig.validationEvery = some loadHalves := rfl
  have hcolumn : Scaler.column loadHalves.train.x 0 ≠ [] := List.cons_ne_nil _ _
  have hbefore : Scaler.threshold < Exact.deviation (Scaler.column loadHalves.train.x 0) := by
    rw [deviation_loadHalves, Scaler.threshold]
    norm_num
  have hafter : Scaler.threshold < Exact.deviation
      (Scaler.column (loadHalves.train.x.map (FeatureRow.rescaled 0 1000 5)) 0) := by
    rw [Scaler.column_rescaled_self, Exact.deviation_affine hcolumn (by norm_num),
      deviation_loadHalves, Scaler.threshold]
    norm_num
  have hshape : ¬ (standardised (Scaler.fit loadHalves.train.x) loadHalves).IsMisshapen := by
    rintro (h | h | h)
    · cases h
    · exact h rfl
    · exact h rfl
  obtain ⟨t, ht⟩ := exists_trainHalves loadConfig hshape
  have htrain : train? loadConfig loadSet = some (.ok t) := by
    rw [train?, hsplit, ← ht]
    rfl
  obtain ⟨result, result', hresult, hresult', halike⟩ :=
    train?_rescaled hsplit (by norm_num) hbefore hafter
  obtain rfl : result = .ok t := Option.some.inj (hresult.symm.trans htrain)
  cases halike with
  | succeeds h => exact ⟨t, _, htrain, hresult', h⟩

end Training
end FleetScore
