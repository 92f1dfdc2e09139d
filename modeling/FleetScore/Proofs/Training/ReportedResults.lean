import FleetScore.Proofs.Training.Fitting
import FleetScore.Proofs.Training.Halves

/-!
# What training reports is what the model does

A trained model comes with a report: its loss, its evaluation and the sizes of the halves.  The
report is put together from several places.  The loss is noted while the epochs go on, the model is
put back to its best state after them, and the evaluation is computed last, by other rules.

`Trained.Reports` says what one wants to read in the report: the loss and the evaluation are those
of the model that is returned, on the half that was held back, the scaler knows the other half only,
and the root mean square of the evaluation is the root of the loss.  The main result,
`train?_reports`, is that the report of every training that succeeds can be read in this way.  It
holds in any arithmetic, because both rules add the same terms in the same order.

The loss and the evaluation have different answers for no data at all.  The difference cannot be
seen: where there is something to learn from, there is something to validate on
(`validation_ne_nil`).
-/

namespace FleetScore

variable {R : Type}

/-! ## 1.  Sets that can be split -/

namespace TrainingSet

/-- Whether every row of a set has its server and its label. -/
structure IsAligned (s : TrainingSet R) : Prop where
  serverIds : s.serverIds.length = s.size
  y : s.y.length = s.size

theorem exists_at? {s : TrainingSet R} (h : s.IsAligned) {positions : List Nat}
    (hpositions : ∀ i ∈ positions, i < s.size) : ∃ t, s.at? positions = some t := by
  have hread : ∀ {α : Type} (xs : List α), xs.length = s.size →
      ∃ ys, (positions.mapM fun i => xs[i]?) = some ys := by
    intro α xs hlength
    have hwithin : ∀ i ∈ positions, i < xs.length := by
      intro i hi
      rw [hlength]
      exact hpositions i hi
    have hmap := mapM_getElem? id xs hwithin
    rw [List.map_id] at hmap
    exact ⟨_, hmap⟩
  obtain ⟨serverIds, hserverIds⟩ := hread s.serverIds h.serverIds
  obtain ⟨x, hx⟩ := hread s.x rfl
  obtain ⟨y, hy⟩ := hread s.y h.y
  exact ⟨⟨serverIds, x, y⟩, by rw [at?, hserverIds, hx, hy]; rfl⟩

/-- **An aligned set can be split.** -/
theorem exists_split? {s : TrainingSet R} (h : s.IsAligned) (every : Nat) :
    ∃ halves, s.split? every = some halves := by
  have hpositions : ∀ p : Nat → Bool, ∀ i ∈ (List.range s.size).filter p, i < s.size := by
    intro p i hi
    exact List.mem_range.mp (List.mem_filter.mp hi).1
  rw [split?]
  split
  · exact ⟨_, rfl⟩
  · obtain ⟨train, htrain⟩ := exists_at? h (hpositions fun i => !isHeldBack every i)
    obtain ⟨validation, hvalidation⟩ := exists_at? h (hpositions fun i => isHeldBack every i)
    dsimp only
    rw [htrain, hvalidation]
    exact ⟨_, rfl⟩

/-- **Where there is something to learn from, there is something to validate on.** -/
theorem validation_ne_nil {s : TrainingSet R} {every : Nat} {halves : Halves R}
    (h : s.split? every = some halves) (htrain : halves.train.x ≠ []) :
    halves.validation.x ≠ [] := by
  rw [split?] at h
  split at h
  · obtain rfl := Option.some.inj h
    exact htrain
  · obtain ⟨train, -, h⟩ := Option.bind_eq_some_iff.mp h
    obtain ⟨validation, -, h⟩ := Option.bind_eq_some_iff.mp h
    obtain rfl := Option.some.inj h
    dsimp only at htrain ⊢
    split
    · exact htrain
    · rename_i hempty
      intro hnil
      rw [isEmpty, hnil] at hempty
      exact hempty rfl

end TrainingSet

/-! ## 2.  Reports -/

namespace Training

variable [Scalar R]

/-- Whether a trained model reports what it does on two halves: the scaler is that of the half
that was learned from, and the loss and the evaluation are those of the model on the other half,
none of which was left out. -/
structure Trained.Reports (t : Trained R) (halves : TrainingSet.Halves R) : Prop where
  scaler : t.scaler = Scaler.fit halves.train.x
  loss : t.validationLoss =
    t.model.meanSquaredError (halves.validation.x.map t.scaler.transform) halves.validation.y
  evaluation : t.evaluation =
    Evaluation.compute (halves.validation.x.map t.predictRaw) halves.validation.y
  trainSamples : t.trainSamples = halves.train.size
  validationSamples : t.validationSamples = halves.validation.size
  samples : t.evaluation.samples = t.validationSamples
  rmse : t.evaluation.rmse = Scalar.sqrt t.validationLoss

/-- **An evaluation of a model** counts all rows, and its root mean square is the root of the
loss. -/
theorem evaluation_of_loss (m : Regressor R) {x : List (FeatureRow R)} {y : List R} (hx : x ≠ [])
    (hshape : x.length = y.length) :
    (Evaluation.compute (x.map m.predict) y).samples = x.length ∧
      (Evaluation.compute (x.map m.predict) y).rmse = Scalar.sqrt (m.meanSquaredError x y) := by
  have hlength := m.length_errors hshape
  have hne : ¬ (Evaluation.errors (x.map m.predict) y).isEmpty = true := by
    intro hempty
    rw [List.isEmpty_iff_length_eq_zero, hlength] at hempty
    exact hx (List.length_eq_zero_iff.mp hempty)
  rw [Evaluation.compute, Evaluation.ofErrors, if_neg hne, ← m.average_square_errors hx hshape]
  exact ⟨hlength, rfl⟩

/-- **A training that succeeds on two halves reports what the model does**, if there is something
to validate on wherever there is something to learn from. -/
theorem reports_of_trainHalves {config : Config R} {halves : TrainingSet.Halves R} {t : Trained R}
    (hvalidation : halves.train.x ≠ [] → halves.validation.x ≠ [])
    (h : trainHalves config halves = .ok t) : t.Reports halves := by
  rw [trainHalves] at h
  split at h
  · cases h
  · rename_i loss hfit
    obtain rfl := Except.ok.inj h
    obtain ⟨-, hshape⟩ := Regressor.shape_of_fit_ok hfit
    have hx := xValidation_ne_nil hvalidation hfit
    have hloss := Regressor.loss_of_fit_ok hfit
    obtain ⟨hsamples, hrmse⟩ := evaluation_of_loss
      ((Regressor.zero : Regressor R).fit config.descent
        (standardised (Scaler.fit halves.train.x) halves)).model hx hshape
    exact {
      scaler := rfl
      loss := hloss
      evaluation := congrArg (Evaluation.compute · halves.validation.y) (List.map_map ..)
      trainSamples := rfl
      validationSamples := rfl
      samples := hsamples.trans (List.length_map _)
      rmse := hrmse.trans (congrArg Scalar.sqrt hloss.symm) }

/-- **What training reports is what the returned model does.**  A set of rows with their servers
and labels can be split, and a training on it that succeeds reports, for the two halves, the scaler
of the first, and the loss, the evaluation and the sizes that the returned model has on them.  On
doubles all of it is to the bit, and what is not a number is reported as such. -/
theorem train?_reports {s : TrainingSet R} (haligned : s.IsAligned) (config : Config R) :
    ∃ halves, s.split? config.validationEvery = some halves ∧
      ∀ t, train? config s = some (.ok t) → t.Reports halves := by
  obtain ⟨halves, hsplit⟩ := TrainingSet.exists_split? haligned config.validationEvery
  refine ⟨halves, hsplit, ?_⟩
  intro t ht
  rw [train?, hsplit] at ht
  exact reports_of_trainHalves (TrainingSet.validation_ne_nil hsplit) (Option.some.inj ht)

/-! ## 3.  A training that overshoots -/

/-- Four servers, of which every second one is held back. -/
def sampleSet : TrainingSet Float where
  serverIds := [1, 2, 3, 4]
  x := [#v[10, 20, 1, 0, 100, 5], #v[20, 20, 2, 0.5, 200, 5], #v[30, 20, 3, 0, 50, 5],
    #v[25, 20, 4, 1, 75, 5]]
  y := [70, 90, 40, 65]

/-- Steps so long that the loss falls in the first epoch only. -/
def sampleConfig : Config Float := ⟨⟨3, 0.4, 0.01⟩, 2⟩

theorem exists_sampleTraining : ∃ t, train? sampleConfig sampleSet = some (.ok t) := by
  have hok : (train? sampleConfig sampleSet).any Except.isOk = true := by decide +kernel
  obtain ⟨result, htrain, hresult⟩ := (Option.any_eq_true _ _).1 hok
  cases result with
  | error fault => cases hresult
  | ok t => exact ⟨t, htrain⟩

/-- The sample is trained on, and the second and the fourth server are what is reported on. -/
theorem train?_reports_sampleSet :
    sampleSet.IsAligned ∧ ∃ t halves, train? sampleConfig sampleSet = some (.ok t) ∧
      sampleSet.split? sampleConfig.validationEvery = some halves ∧
      halves.validation.serverIds = [2, 4] ∧ t.Reports halves := by
  have haligned : sampleSet.IsAligned := ⟨rfl, rfl⟩
  obtain ⟨t, ht⟩ := exists_sampleTraining
  obtain ⟨halves, hsplit, hreports⟩ := train?_reports haligned sampleConfig
  have hservers : (sampleSet.split? sampleConfig.validationEvery).map (·.validation.serverIds) =
      some [2, 4] := rfl
  rw [hsplit] at hservers
  exact ⟨haligned, t, halves, ht, hsplit, Option.some.inj hservers, hreports t ht⟩

end Training
end FleetScore
