import FleetScore.Proofs.Artifact.Loading
import FleetScore.Proofs.Pipeline.Courses
import Mathlib.Data.Fintype.Card

/-!
# What a successful run leaves can be loaded, as far as its loss can tell

Training fails if a loss is not finite, and no other number is looked at.  The finite loss vouches
for almost everything that is written: for the weights and the bias, for the means of the scaler,
and for the evaluation but for one number, whatever doubles were read and whatever the parameters of
training are.  Two things it cannot vouch for.  A scale that is infinite makes its feature zero in
every row, and the loss does not notice.  And the deviation of the errors squares distances from
their mean, which may be twice as large as the errors themselves.

So the manifest of a successful run can always be loaded, its scaler exactly if the scales are
finite, and its model exactly if the deviation of the errors is (`Pipeline.loads_of_run?_ok`).  The
exceptions are real: one server with a very large reading is enough (`loads_lopsidedLaunch`).

The sums that must not overflow run over servers, and there are no more servers than words of 64
bits (`length_serversOf_le`).
-/

namespace FleetScore

open Aggregation

/-! ## 1.  Runs that succeed -/

/-- There are no more different servers than words of 64 bits. -/
theorem length_serversOf_le {R : Type} [Scalar R] (rows : List (Row R)) :
    (serversOf rows).length ≤ 2 ^ 64 := by
  have hnodup : (serversOf rows).Nodup :=
    (pairwise_ascending _).imp fun hlt => Int64.ne_of_lt hlt
  have hinjective : Function.Injective fun id : Int64 => id.toBitVec.toFin :=
    fun a b h => Int64.toBitVec_inj.1 (BitVec.toFin_inj.1 h)
  have hcard := (hnodup.map hinjective).length_le_card
  rwa [List.length_map, Fintype.card_fin] at hcard

namespace Pipeline

variable {p : Pipeline}

theorem train?_ok {rows : List (Row Float)} {t : Training.Trained Float}
    (h : p.train? (computed rows) = some (.ok t)) :
    Training.train? p.training (.ofExamples (examplesOf rows)) = some (.ok t) := by
  rw [train?, align_computed] at h
  obtain ⟨result, htrain, hresult⟩ := Option.map_eq_some_iff.1 h
  cases result with
  | error fault => cases hresult
  | ok trained =>
    obtain rfl : trained = t := Except.ok.inj hresult
    exact htrain

/-- **A run that succeeds with a dataset has trained and exported.** -/
theorem run?_ok {clock : Clock} {s : ProcessState} {o : RunOutcome} {report : RunReport} {n : ℕ}
    (hrun : p.run? clock s = some o) (hresult : o.result = .ok report)
    (hdataset : report.dataset = .populated n) :
    ∃ rows t, rows ≠ [] ∧ report.trained = some t ∧
      Training.train? p.training (.ofExamples (examplesOf rows)) = some (.ok t) ∧
      (∃ summary, (p.exporter.run t clock.exported s.files).result = .ok summary) ∧
      o.state.files = (p.exporter.run t clock.exported s.files).files := by
  obtain ⟨e, hcourse, rfl⟩ := run?_course hrun
  cases hcourse with
  | unavailable _ | diverged _ _ | blocked _ _ _ | obstructed _ _ _ => cases hresult
  | empty _ =>
    obtain rfl := Except.ok.inj hresult
    cases hdataset
  | @exported rows _ t summary _ hrows htrain hexport =>
    obtain rfl := Except.ok.inj hresult
    refine ⟨rows, t, hrows.ne_nil, rfl, train?_ok htrain, ⟨summary, ?_⟩, ?_⟩
    · rw [hexport]
    · rw [hexport]
      rfl

section

variable {now : Instant} {s : ProcessState} {rows : List (Row Float)} {t : Training.Trained Float}
  {summary : ExportSummary}

theorem process?_of_trained (log : RunLog) (hfits : Fits rows)
    (htrain : Training.train? p.training (.ofExamples (examplesOf rows)) = some (.ok t))
    (hexport : (p.exporter.run t now s.files).result = .ok summary) :
    ∃ o report, p.process? log now rows s = some o ∧ o.result = .ok report ∧
      report.dataset = .populated rows.length ∧ report.trained = some t := by
  have hcompute : compute? rows = some (computed rows) := compute?_eq_some_iff.mpr ⟨hfits, rfl⟩
  have hmodel : p.train? (computed rows) = some (.ok t) := by
    rw [train?, align_computed]
    show (Training.train? _ _).map _ = _
    rw [htrain]
    rfl
  have hresult : ∀ before state, state.files = s.files →
      (p.exportModel log now before t state).result =
        .ok { before with trained := some t, exported := some summary } := by
    intro before state hfiles
    rw [exportModel, hfiles]
    simp only [hexport]
  rw [process?, hcompute, Option.bind_eq_bind, Option.bind_some, hmodel]
  exact ⟨_, _, rfl, hresult _ _ rfl, rfl, rfl⟩

/-- **Conversely, a run that has rows, can train and can export succeeds with a dataset.** -/
theorem run?_of_trained {clock : Clock} {events : List Event}
    (hfetch : p.source.fetch = (.ok rows, events)) (hne : rows ≠ []) (hfits : Fits rows)
    (htrain : Training.train? p.training (.ofExamples (examplesOf rows)) = some (.ok t))
    (hexport : (p.exporter.run t clock.exported s.files).result = .ok summary) :
    ∃ o report, p.run? clock s = some o ∧ o.result = .ok report ∧
      report.dataset = .populated rows.length ∧ report.trained = some t := by
  have hnonempty : ¬ rows.isEmpty = true := by simpa using hne
  have hexecute : ∃ o report, p.execute? ⟨runId clock.started⟩ clock.exported s = some o ∧
      o.result = .ok report ∧ report.dataset = .populated rows.length ∧
      report.trained = some t := by
    obtain ⟨o, report, hprocess, hreport⟩ := process?_of_trained
      (s := ⟨s.files, s.metrics.setRows rows.length (rows.countP fun row => !row.hasMetrics)⟩)
      ⟨runId clock.started⟩ hfits htrain hexport
    rw [execute?, hfetch]
    dsimp only
    rw [if_neg hnonempty, hprocess]
    exact ⟨_, report, rfl, hreport⟩
  obtain ⟨o, report, hexecute, hreport⟩ := hexecute
  rw [run?]
  dsimp only
  rw [hexecute]
  exact ⟨_, report, rfl, hreport⟩

end

/-! ## 2.  What they leave -/

/-- **What a successful run leaves can be loaded, but for what its loss does not show.**  The model,
the means and the evaluation are finite, the deviation of the errors aside; the manifest loads, the
scaler loads exactly if its scales are finite, and the model exactly if the deviation is and the
number of samples fits a word. -/
theorem loads_of_run?_ok {clock : Clock} {s : ProcessState} {o : RunOutcome} {report : RunReport}
    {n : ℕ} (hrun : p.run? clock s = some o) (hresult : o.result = .ok report)
    (hdataset : report.dataset = .populated n) (hepochs : p.training.descent.epochs ≠ 0) :
    ∃ t, report.trained = some t ∧ t.IsVouched ∧
      (FeatureManifest.load o.state.files
        (p.exporter.dir.child Exporter.manifestFile)).isOk = true ∧
      ((Artifact.loadScaler o.state.files (p.exporter.dir.child Exporter.scalerFile)).isOk = true ↔
        ∀ x ∈ t.scaler.scale, Scalar.isFinite x = true) ∧
      ((Artifact.loadModel o.state.files (p.exporter.dir.child Exporter.modelFile)).isOk = true ↔
        t.evaluation.samples < 2 ^ 64 ∧ Scalar.isFinite t.evaluation.stdError = true) := by
  obtain ⟨rows, t, hne, htrained, htrain, ⟨summary, hexported⟩, hfiles⟩ :=
    run?_ok hrun hresult hdataset
  have hsize : (examplesOf rows).length ≤ 2 ^ 64 := by
    rw [examplesOf, List.length_map]
    exact length_serversOf_le rows
  have hvouched := Training.isVouched_train? hepochs (examplesOf_ne_nil hne) hsize htrain
  obtain ⟨hmanifest, hscaler, hmodel⟩ := Exporter.loads_of_run_ok hexported
  rw [hfiles]
  refine ⟨t, htrained, hvouched, hmanifest, hscaler.trans ?_, hmodel.trans ?_⟩
  · exact and_iff_right hvouched.means
  · constructor
    · rintro ⟨-, -, hsamples, -, hstd⟩
      exact ⟨hsamples, hstd⟩
    · rintro ⟨hsamples, hstd⟩
      exact ⟨hvouched.model.weights, hvouched.model.bias, hsamples, hvouched.evaluation, hstd⟩

end Pipeline

/-! ## 3.  A run whose scaler cannot be loaded -/

/-- Two servers with one request and one snapshot each, the first under some load of its memory. -/
def lopsidedStore (load : Float) : MemoryStore Float where
  settings := .standard
  requests := [
    ⟨1, 7, Exporter.sampleInstant, 100, .success⟩, ⟨2, 8, Exporter.sampleInstant, 300, .success⟩]
  snapshots := [⟨7, Exporter.sampleInstant, 20, load, 1⟩, ⟨8, Exporter.sampleInstant, 60, 0, 1⟩]
  servers := [⟨7, 10, none⟩, ⟨8, 20, none⟩]
  now := Exporter.sampleInstant
  unavailable := none

/-- The rows of that store. -/
def lopsidedRows (load : Float) : List (Row Float) := [
  ⟨1, 7, Exporter.sampleInstant, 100, .success, 10, none, some Exporter.sampleInstant, some 20,
    some load, some 1⟩,
  ⟨2, 8, Exporter.sampleInstant, 300, .success, 20, none, some Exporter.sampleInstant, some 60,
    some 0, some 1⟩]

theorem rows_lopsidedStore (load : Float) : (lopsidedStore load).joined.rows = lopsidedRows load := by
  cbv

theorem serversOf_lopsidedRows (load : Float) : serversOf (lopsidedRows load) = [7, 8] := by
  cbv

theorem fits_lopsidedRows (load : Float) : Fits (lopsidedRows load) := by
  have hseven : totalConnections (ofServer 7 (lopsidedRows load)) = 1 := by cbv
  have height : totalConnections (ofServer 8 (lopsidedRows load)) = 1 := by cbv
  unfold Fits
  rw [serversOf_lopsidedRows]
  intro id hid
  obtain rfl | rfl := List.mem_pair.mp hid
  · rw [hseven]
    decide
  · rw [height]
    decide

/-- A run on that store.  The square of half the load is beyond all doubles. -/
def lopsidedLaunch : Launch where
  pipeline := ⟨.memory (lopsidedStore 1e200), ⟨⟨1, 0.01, 0.01⟩, 5⟩, ⟨⟨"out"⟩, none⟩⟩
  clock := ⟨Exporter.sampleInstant, Exporter.sampleInstant, Span.ofSeconds 1⟩
  metrics := ⟨.empty, 0, 0, 0, 0, 0, 0, 0.0⟩

/-- Whether a training has succeeded with a scale that is not finite, but with a finite deviation of
the errors of not too many samples. -/
def isLopsided (result : Except TrainingFault (Training.Trained Float)) : Bool :=
  match result with
  | .error _ => false
  | .ok t =>
      !(t.scaler.scale.all fun x => (Scalar.isFinite x : Bool)) &&
        decide (t.evaluation.samples < 2 ^ 64) && Scalar.isFinite t.evaluation.stdError

theorem exists_lopsided :
    ∃ t, Training.train? lopsidedLaunch.pipeline.training
        (.ofExamples (examplesOf (lopsidedRows 1e200))) = some (.ok t) ∧
      ¬ (∀ x ∈ t.scaler.scale, Scalar.isFinite x = true) ∧
      t.evaluation.samples < 2 ^ 64 ∧ Scalar.isFinite t.evaluation.stdError = true := by
  have htrain : (Training.train? lopsidedLaunch.pipeline.training
      (.ofExamples (examplesOf (lopsidedRows 1e200)))).any isLopsided = true := by
    rw [examplesOf, serversOf_lopsidedRows]
    decide +kernel
  obtain ⟨result, htrain, hlopsided⟩ := (Option.any_eq_true _ _).1 htrain
  cases result with
  | error fault => cases hlopsided
  | ok t =>
    simp only [isLopsided, Bool.and_eq_true, decide_eq_true_eq] at hlopsided
    obtain ⟨⟨hscale, hsamples⟩, hstd⟩ := hlopsided
    refine ⟨t, htrain, fun hall => ?_, hsamples, hstd⟩
    rw [List.all_eq_true.2 hall] at hscale
    cases hscale

theorem exports_lopsidedLaunch (t : Training.Trained Float) :
    ∃ summary, (lopsidedLaunch.pipeline.exporter.run t lopsidedLaunch.clock.exported
      Exporter.sampleFiles).result = .ok summary := by
  have hfinished : (lopsidedLaunch.pipeline.exporter.run t lopsidedLaunch.clock.exported
      Exporter.sampleFiles).result.isOk = true := by rfl
  cases hresult : (lopsidedLaunch.pipeline.exporter.run t lopsidedLaunch.clock.exported
      Exporter.sampleFiles).result with
  | error failure =>
    rw [hresult] at hfinished
    cases hfinished
  | ok summary => exact ⟨summary, rfl⟩

/-- The run succeeds, and its manifest and its model can be loaded, but its scaler cannot. -/
theorem loads_lopsidedLaunch :
    ∃ o report t, lopsidedLaunch.outcome? Exporter.sampleFiles = some o ∧ o.result = .ok report ∧
      report.dataset = .populated 2 ∧ lopsidedLaunch.pipeline.training.descent.epochs ≠ 0 ∧
      report.trained = some t ∧ t.IsVouched ∧
      (FeatureManifest.load o.state.files
        (lopsidedLaunch.pipeline.exporter.dir.child Exporter.manifestFile)).isOk = true ∧
      (Artifact.loadScaler o.state.files
        (lopsidedLaunch.pipeline.exporter.dir.child Exporter.scalerFile)).isOk = false ∧
      (Artifact.loadModel o.state.files
        (lopsidedLaunch.pipeline.exporter.dir.child Exporter.modelFile)).isOk = true := by
  obtain ⟨t, htrain, hscale, hsamples, hstd⟩ := exists_lopsided
  obtain ⟨summary, hexport⟩ := exports_lopsidedLaunch t
  have hfetch : lopsidedLaunch.pipeline.source.fetch =
      (.ok (lopsidedRows 1e200), [(lopsidedStore 1e200).joined.event]) := by
    rw [← rows_lopsidedStore]
    rfl
  obtain ⟨o, report, hrun, hresult, hdataset, htrained⟩ := Pipeline.run?_of_trained
    (s := ⟨Exporter.sampleFiles, lopsidedLaunch.metrics⟩) hfetch (List.cons_ne_nil _ _)
    (fits_lopsidedRows 1e200) htrain hexport
  obtain ⟨t', htrained', hvouched, hmanifest, hscaler, hmodel⟩ :=
    Pipeline.loads_of_run?_ok hrun hresult hdataset (by decide)
  obtain rfl : t = t' := Option.some.inj (htrained.symm.trans htrained')
  refine ⟨o, report, t, hrun, hresult, hdataset, by decide, htrained, hvouched, hmanifest, ?_,
    hmodel.2 ⟨hsamples, hstd⟩⟩
  rw [Bool.eq_false_iff]
  exact fun hloads => hscale (hscaler.1 hloads)

end FleetScore
