import FleetScore.Proofs.Training.Losses
import FleetScore.Proofs.Training.ReportedResults

/-!
# Whatever the data, the model is finite

No weight is ever looked at while a model is fitted.  An epoch may leave weights that are infinite
or not a number: the data may hold such values, a step may be too long for doubles, or its length
may itself not be a number.  What is looked at is the loss, and a finite loss vouches for the model
(`Losses`).

So the model that fitting leaves behind is finite for one of two reasons.  Either it is remembered
from an epoch with a finite loss, and there was something to validate on.  Or it is the model that
fitting started from: no epoch was taken, or the loss of none of them was less than that of the
start.  This second loss vouches for nothing; it may well be an infinity or not a number.

* `fit_isFinite` --- fitting leaves a finite model behind if it started from one;
* `train?_isFinite` --- training starts from zeros and always has something to validate on, so
  a training that succeeds returns finite weights and a finite bias.

Both hold of any doubles in the data and in the configuration, and for any number of epochs.
-/

namespace FleetScore

/-! ## 1.  Fitting -/

namespace Regressor

theorem isFinite_zero : (zero : Regressor Float).IsFinite where
  length := List.length_replicate
  weights w hw := by
    obtain rfl : w = 0.0 := List.eq_of_mem_replicate hw
    decide
  bias := by decide

/-- **Fitting leaves a finite model behind**, if it starts from one and there is something to
validate on. -/
theorem fit_isFinite {p : Descent Float} {d : Data Float} {m : Regressor Float} (hm : m.IsFinite)
    (hx : d.xValidation ≠ []) {loss : Float} (h : (m.fit p d).result = .ok loss) :
    (m.fit p d).model.IsFinite := by
  obtain ⟨-, hshape⟩ := shape_of_fit_ok h
  -- Of a model on the way only the number of weights is known, until its loss is seen.
  have hvouched : ∀ m : Regressor Float, m.weights.length = 6 →
      Scalar.isFinite (d.loss m) = true → m.IsFinite :=
    fun m hlength hloss => (isFinite_of_loss hlength hx hshape hloss).model
  have hwell := isWellShaped_of_fit_ok h
  rw [fit, if_pos hwell] at h ⊢
  exact descend_ok (Q := fun m => m.weights.length = 6) (P := fun c => c.model.IsFinite)
    (fun _ => length_step p d.x d.y) hvouched hm.length hm h

end Regressor

/-! ## 2.  Training -/

namespace Training

/-- Training on two halves returns a finite model, if there is something to validate on wherever
there is something to learn from. -/
theorem isFinite_of_trainHalves {config : Config Float} {halves : TrainingSet.Halves Float}
    (hvalidation : halves.train.x ≠ [] → halves.validation.x ≠ []) {t : Trained Float}
    (h : trainHalves config halves = .ok t) : t.model.IsFinite := by
  obtain ⟨-, hmodel, hresult⟩ := fit_of_trainHalves h
  rw [← hmodel]
  exact Regressor.fit_isFinite Regressor.isFinite_zero (xValidation_ne_nil hvalidation hresult)
    hresult

/-- **Training never returns a poisoned model.**  On a set of rows with their servers and labels,
whatever doubles it holds and whatever the configuration, training has an answer, and if it succeeds
all six weights and the bias are finite. -/
theorem train?_isFinite {s : TrainingSet Float} (haligned : s.IsAligned) (config : Config Float) :
    ∃ result, train? config s = some result ∧ ∀ t, result = .ok t → t.model.IsFinite := by
  obtain ⟨halves, hsplit⟩ := TrainingSet.exists_split? haligned config.validationEvery
  refine ⟨trainHalves config halves, ?_, ?_⟩
  · rw [train?, hsplit]
    rfl
  · intro t ht
    exact isFinite_of_trainHalves (TrainingSet.validation_ne_nil hsplit) ht

/-! ### Two trainings that succeed on odd data -/

/-- Three servers whose first feature is so large that its deviation overflows. -/
def hugeSet : TrainingSet Float where
  serverIds := [1, 2, 3]
  x := [#v[1e200, 20, 1, 0, 100, 5], #v[-1e200, 20, 2, 0.5, 200, 5], #v[1e300, 20, 3, 0, 50, 5]]
  y := [70, 90, 40]

/-- Two servers with a feature that is not a number and a label that is infinite. -/
def poisonedSet : TrainingSet Float where
  serverIds := [1, 2]
  x := [#v[0.0 / 0.0, 20, 1, 0, 100, 5], #v[10, 20, 2, 0.5, 200, 5]]
  y := [70, 1.0 / 0.0]

/-- The deviation of the first set is infinite, and yet steps are taken and the model is finite.
The loss of the second is not a number from the start, and without an epoch nobody asks; the model
is finite too. -/
theorem train?_isFinite_hugeSet :
    (hugeSet.IsAligned ∧ ∃ t, train? ⟨⟨5, 0.1, 0.01⟩, 3⟩ hugeSet = some (.ok t) ∧
      t.scaler.scale[0]?.map Scalar.isFinite = some false ∧ t.model.IsFinite) ∧
    (poisonedSet.IsAligned ∧ ∃ t, train? ⟨⟨0, 0.1, 0.01⟩, 5⟩ poisonedSet = some (.ok t) ∧
      Scalar.isFinite t.validationLoss = false ∧ t.model.IsFinite) := by
  constructor
  · have haligned : hugeSet.IsAligned := ⟨rfl, rfl⟩
    obtain ⟨t, ht, hscale⟩ := exists_of_any ⟨⟨5, 0.1, 0.01⟩, 3⟩ hugeSet
      (fun t => t.scaler.scale[0]?.map Scalar.isFinite = some false) (by decide +kernel)
    obtain ⟨result, hresult, hfinite⟩ := train?_isFinite haligned ⟨⟨5, 0.1, 0.01⟩, 3⟩
    rw [ht] at hresult
    exact ⟨haligned, t, ht, hscale, hfinite t (Option.some.inj hresult).symm⟩
  · have haligned : poisonedSet.IsAligned := ⟨rfl, rfl⟩
    obtain ⟨t, ht, hloss⟩ := exists_of_any ⟨⟨0, 0.1, 0.01⟩, 5⟩ poisonedSet
      (fun t => Scalar.isFinite t.validationLoss = false) (by decide +kernel)
    obtain ⟨result, hresult, hfinite⟩ := train?_isFinite haligned ⟨⟨0, 0.1, 0.01⟩, 5⟩
    rw [ht] at hresult
    exact ⟨haligned, t, ht, hloss, hfinite t (Option.some.inj hresult).symm⟩

end Training
end FleetScore
