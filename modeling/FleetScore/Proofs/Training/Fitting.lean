import FleetScore.Training.Train

/-!
# What fitting keeps

The rules of training are written over any type of scalars, and so is what this file says of them.

* A loss and a root mean square are computed by different rules, and over different lists: the one
  over rows and targets, the other over errors.  They add the same terms in the same order
  (`average_square_errors`).
* Whatever holds of the model that fitting starts from, and of every later model with a finite loss,
  holds of the model that it leaves behind (`descend_ok`).  The models in between are known only as
  far as a step keeps it.
* A model is left behind with its own loss (`loss_of_fit_ok`).  The loss is computed while the model
  goes on changing, and the model is put back in the end; what ties the two together is that they
  are remembered together.
* Training returns what fitting leaves behind: from zeros, on standardised halves
  (`fit_of_trainHalves`).
-/

namespace FleetScore
namespace Regressor

variable {R : Type} [Scalar R]

/-! ## 1.  Losses -/

/-- The squared errors of a model. -/
def squares (m : Regressor R) (x : List (FeatureRow R)) (y : List R) : List R :=
  (x.zip y).map fun d => Scalar.square (m.predict d.1 - d.2)

theorem meanSquaredError_eq (m : Regressor R) {x : List (FeatureRow R)} (hx : x ≠ [])
    (y : List R) :
    m.meanSquaredError x y = Scalar.sum (m.squares x y) / Scalar.ofNat x.length := by
  rw [meanSquaredError, if_neg (by simpa using hx), squares, List.map_zip_eq_zipWith]
  rfl

theorem errors_eq (m : Regressor R) (x : List (FeatureRow R)) (y : List R) :
    Evaluation.errors (x.map m.predict) y = (x.zip y).map fun d => m.predict d.1 - d.2 := by
  rw [Evaluation.errors, List.zipWith_map_left, List.map_zip_eq_zipWith]
  rfl

theorem length_errors (m : Regressor R) {x : List (FeatureRow R)} {y : List R}
    (hshape : x.length = y.length) :
    (Evaluation.errors (x.map m.predict) y).length = x.length := by
  rw [errors_eq, List.length_map, List.length_zip, ← hshape, Nat.min_self]

/-- **The average of the squared errors is the loss.** -/
theorem average_square_errors (m : Regressor R) {x : List (FeatureRow R)} {y : List R}
    (hx : x ≠ []) (hshape : x.length = y.length) :
    Evaluation.average (fun e => e * e) (Evaluation.errors (x.map m.predict) y) =
      m.meanSquaredError x y := by
  rw [Evaluation.average, length_errors m hshape, errors_eq, List.map_map, meanSquaredError_eq m hx]
  rfl

/-! ## 2.  Steps -/

omit [Scalar R] in
theorem getElem?_toList (row : FeatureRow R) (i : Fin 6) :
    row.toList[i.val]? = some (row.get i) := by
  simp [Vector.get]

theorem length_stepWeights (p : Descent R) (ws gs : List R) :
    (stepWeights p ws gs).length = ws.length := by
  induction ws generalizing gs with
  | nil => cases gs <;> rfl
  | cons w ws ih =>
    cases gs with
    | nil => rfl
    | cons g gs => exact congrArg Nat.succ (ih gs)

theorem length_step (p : Descent R) (x : List (FeatureRow R)) (y : List R) {m : Regressor R}
    {n : Nat} (h : m.weights.length = n) : (m.step p x y).weights.length = n :=
  (length_stepWeights _ _ _).trans h

/-- **A step moves a weight by its own slope and its own decay.** -/
theorem getElem?_stepWeights (p : Descent R) {ws gs : List R} {i : Nat} {w g : R}
    (hw : ws[i]? = some w) (hg : gs[i]? = some g) :
    (stepWeights p ws gs)[i]? = some (w - p.learningRate * (g + p.weightDecay * w)) := by
  induction ws generalizing gs i with
  | nil => cases hw
  | cons w' ws ih =>
    cases gs with
    | nil => cases hg
    | cons g' gs =>
      rw [stepWeights]
      cases i with
      | zero =>
        obtain rfl := Option.some.inj hw
        obtain rfl := Option.some.inj hg
        rfl
      | succ i => exact ih hw hg

section

variable {p : Descent R} {d : Data R}

/-- **What holds of the first checkpoint and of every model with a finite loss holds of the model
that is left behind.**  Of the models themselves only what a step keeps may be used. -/
theorem descend_ok {Q : Regressor R → Prop} {P : Checkpoint R → Prop}
    (hQ : ∀ m, Q m → Q (m.step p d.x d.y))
    (hP : ∀ m, Q m → Scalar.isFinite (d.loss m) = true → P ⟨m, d.loss m⟩)
    {remaining epoch : Nat} {model : Regressor R} {best : Checkpoint R} {losses : List R}
    (hmodel : Q model) (hbest : P best) {loss : R}
    (h : (descend p d remaining epoch model best losses).result = .ok loss) :
    P ⟨(descend p d remaining epoch model best losses).model, loss⟩ := by
  induction remaining generalizing epoch model best losses with
  | zero =>
    rw [descend] at h ⊢
    obtain rfl : best.loss = loss := Except.ok.inj h
    exact hbest
  | succ remaining ih =>
    rw [descend] at h ⊢
    dsimp only at h ⊢
    split at h
    · rename_i hfinite
      rw [if_pos hfinite]
      have hnext := hQ model hmodel
      refine ih hnext ?_ h
      split
      · exact hP _ hnext hfinite
      · exact hbest
    · cases h

theorem isWellShaped_of_fit_ok {m : Regressor R} {loss : R} (h : (m.fit p d).result = .ok loss) :
    d.isWellShaped = true := by
  rw [fit] at h
  split at h
  · assumption
  · cases h

theorem shape_of_fit_ok {m : Regressor R} {loss : R} (h : (m.fit p d).result = .ok loss) :
    d.x ≠ [] ∧ d.xValidation.length = d.yValidation.length := by
  have hwell := isWellShaped_of_fit_ok h
  simp only [Data.isWellShaped, Bool.and_eq_true, Bool.not_eq_true', beq_iff_eq] at hwell
  obtain ⟨⟨hx, -⟩, hvalidation⟩ := hwell
  exact ⟨by simpa using hx, hvalidation⟩

/-- **A model is left behind with its own loss.** -/
theorem loss_of_fit_ok {m : Regressor R} {loss : R} (h : (m.fit p d).result = .ok loss) :
    loss = d.loss (m.fit p d).model := by
  have hwell := isWellShaped_of_fit_ok h
  rw [fit, if_pos hwell] at h ⊢
  exact descend_ok (Q := fun _ => True) (P := fun c => c.loss = d.loss c.model)
    (fun _ _ => trivial) (fun _ _ _ => rfl) trivial rfl h

end

end Regressor

/-! ## 3.  Training -/

namespace Training

variable {R : Type} [Scalar R] {config : Config R} {halves : TrainingSet.Halves R}

/-- **What a training that succeeds has done**: zeros were fitted to the halves, standardised by the
scaler of the first, and the model that was left behind is returned with the scaler and the loss. -/
theorem fit_of_trainHalves {t : Trained R} (h : trainHalves config halves = .ok t) :
    t.scaler = Scaler.fit halves.train.x ∧
      (Regressor.zero.fit config.descent (standardised t.scaler halves)).model = t.model ∧
      (Regressor.zero.fit config.descent (standardised t.scaler halves)).result =
        .ok t.validationLoss := by
  rw [trainHalves] at h
  split at h
  · cases h
  · rename_i loss hfit
    obtain rfl := Except.ok.inj h
    exact ⟨rfl, rfl, hfit⟩

/-- A model that was fitted to halves was validated on something, if there is something to validate
on wherever there is something to learn from. -/
theorem xValidation_ne_nil (hvalidation : halves.train.x ≠ [] → halves.validation.x ≠ [])
    {scaler : Scaler R} {m : Regressor R} {loss : R}
    (h : (m.fit config.descent (standardised scaler halves)).result = .ok loss) :
    (standardised scaler halves).xValidation ≠ [] := by
  obtain ⟨htrain, -⟩ := Regressor.shape_of_fit_ok h
  have hne := hvalidation (by simpa [standardised] using htrain)
  simpa [standardised] using hne

/-- A training succeeds with what passes a test, if evaluating it says so. -/
theorem exists_of_any (config : Config R) (s : TrainingSet R) (P : Trained R → Prop)
    [DecidablePred P]
    (h : ((train? config s).any fun result => result.toOption.any fun t => P t) = true) :
    ∃ t, train? config s = some (.ok t) ∧ P t := by
  obtain ⟨result, htrain, hresult⟩ := (Option.any_eq_true _ _).1 h
  cases result with
  | error fault => cases hresult
  | ok t => exact ⟨t, htrain, of_decide_eq_true hresult⟩

end Training
end FleetScore
