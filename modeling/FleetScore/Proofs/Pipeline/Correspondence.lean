import FleetScore.Proofs.Artifact.ParityChecks
import FleetScore.Proofs.Pipeline.RawEvents
import FleetScore.Proofs.Training.Halves

/-!
# Vectors, labels and servers belong together

On the way from rows to a trained model the servers pass through five lists: the vectors, the
labels, the paired examples, and the three columns of a training set.  Whoever drops, repeats or
moves a server in one of them trains on wrong labels, and nothing would show it.

`compute?_correspondence` says that this cannot happen.  Vectors and labels name the servers that
have rows, each once, in ascending order.  So pairing them never fails (`align_computed`), every
position holds one server in all five lists, and what a list holds there was computed from the
rows of that server alone.

Two failures of a run are there for the case that this goes wrong: `Failure.IsMixUp` names them.
No run ends in one of them, because a run pairs what it has computed, and trains on what it has
paired (`process?_computed`, `run?_fetched`).
-/

namespace FleetScore

open Aggregation

/-! ## 1.  Pairing -/

namespace Alignment

variable {R : Type}

theorem orphans_self (ids : List Int64) : orphans ids ids = [] := by
  refine List.filter_eq_nil_iff.mpr fun id hid => ?_
  rw [mem_ascending] at hid
  simpa using hid

theorem isDistinct_of_pairwise {ids : List Int64} (hlt : ids.Pairwise (· < ·)) :
    isDistinct ids = true := by
  rw [isDistinct, ascending_eq_of_pairwise hlt fun _ => Iff.rfl]
  exact beq_self_eq_true _

theorem find?_label {ids : List Int64} {score : Int64 → R} {id : Int64} (hid : id ∈ ids) :
    (ids.map fun i => (⟨i, score i⟩ : Label R)).find? (fun l => decide (l.serverId = id)) =
      some ⟨id, score id⟩ := by
  induction ids with
  | nil => exact absurd hid List.not_mem_nil
  | cons i ids ih =>
    rw [List.map_cons]
    by_cases h : i = id
    · subst h
      exact List.find?_cons_of_pos (by simp)
    · rw [List.find?_cons_of_neg (by simpa using h)]
      exact ih (List.mem_of_ne_of_mem (Ne.symm h) hid)

/-- **Vectors and labels of the same servers can be paired**, each vector with the label of its
server. -/
theorem align_map {ids : List Int64} (hlt : ids.Pairwise (· < ·))
    {vector : Int64 → FeatureVector R} (hvector : ∀ id, (vector id).serverId = id)
    (score : Int64 → R) :
    align (ids.map vector) (ids.map fun id => ⟨id, score id⟩) =
      .ok (ids.map fun id => ⟨vector id, score id⟩) := by
  have hfeatures : (ids.map vector).map FeatureVector.serverId = ids := by
    rw [List.map_map]
    exact List.map_id'' hvector ids
  have hlabels : (ids.map fun id => (⟨id, score id⟩ : Label R)).map Label.serverId = ids := by
    rw [List.map_map]
    exact List.map_id _
  have hpairs : pairs (ids.map vector) (ids.map fun id => ⟨id, score id⟩) =
      ids.map fun id => ⟨vector id, score id⟩ := by
    rw [pairs, List.filterMap_map]
    refine (List.filterMap_congr fun id hid => ?_).trans
      (congrFun List.filterMap_eq_map ids)
    rw [Function.comp_apply, hvector, find?_label hid]
    rfl
  rw [align, hfeatures, hlabels, orphans_self, isDistinct_of_pairwise hlt, hpairs]
  rfl

end Alignment

section

variable {R : Type} [Scalar R]

/-- The examples that are paired from what is computed from rows. -/
def examplesOf (rows : List (Row R)) : List (Example R) :=
  (serversOf rows).map fun id =>
    ⟨(reduced id (ofServer id rows)).vector, Label.scoreGroup (ofServer id rows)⟩

/-- **What is computed can be paired.** -/
theorem align_computed (rows : List (Row R)) :
    Alignment.align (computed rows).aggregation.vectors (computed rows).labels =
      .ok (examplesOf rows) :=
  Alignment.align_map (pairwise_ascending _) (fun _ => rfl) _

theorem examplesOf_ne_nil {rows : List (Row R)} (hne : rows ≠ []) : examplesOf rows ≠ [] := by
  obtain ⟨row, hrow⟩ := List.exists_mem_of_ne_nil _ hne
  have hid : row.serverId ∈ serversOf rows := mem_serversOf.mpr ⟨row, hrow, rfl⟩
  exact List.ne_nil_of_mem (List.mem_map.mpr ⟨_, hid, rfl⟩)

/-- The server, the vector and the score that all lists hold at a position. -/
structure Position (c : Computed R) (examples : List (Example R)) (i : Nat) (id : Int64)
    (vector : FeatureVector R) (score : R) : Prop where
  vectors : c.aggregation.vectors[i]? = some vector
  labels : c.labels[i]? = some ⟨id, score⟩
  pairs : examples[i]? = some ⟨vector, score⟩
  serverIds : (TrainingSet.ofExamples examples).serverIds[i]? = some id
  x : (TrainingSet.ofExamples examples).x[i]? = some vector.toRow
  y : (TrainingSet.ofExamples examples).y[i]? = some score

/-- **All lists hold the same server at a position**, with what was computed from its rows. -/
theorem position_computed {rows : List (Row R)} {i : Nat} {id : Int64}
    (hid : (serversOf rows)[i]? = some id) :
    Position (computed rows) (examplesOf rows) i id (reduced id (ofServer id rows)).vector
      (Label.scoreGroup (ofServer id rows)) := by
  constructor <;>
    simp only [computed, examplesOf, TrainingSet.ofExamples, List.getElem?_map, List.map_map,
      hid, Option.map_some] <;> rfl

end

/-! ## 2.  The failures that stand for a mix-up -/

/-- Whether a failure says that vectors and labels are not of the same servers, or that rows and
targets of a training set do not belong together. -/
def Failure.IsMixUp : Failure → Prop
  | .labelAlignment _ _ => True
  | .training (.shapes _ _ _ _) => True
  | _ => False

namespace Exporter

theorem run_not_isMixUp {e : Exporter} {t : Training.Trained Float} {now : Instant}
    {files : FileTree} {failure : Failure} (h : (e.run t now files).result = .error failure) :
    ¬ failure.IsMixUp := by
  obtain ⟨d, -, hrun⟩ | ⟨-, ⟨path, fault, -, hrun⟩ | ⟨-, hrun⟩⟩ := e.run_cases t now files
  · rw [hrun] at h
    rw [← Except.error.inj h]
    exact id
  · rw [hrun] at h
    rw [← Except.error.inj h]
    exact id
  · rw [hrun] at h
    cases h

end Exporter

namespace Pipeline

theorem exportModel_not_isMixUp {p : Pipeline} {log : RunLog} {now : Instant}
    {report : RunReport} {t : Training.Trained Float} {s : ProcessState} {failure : Failure}
    (h : (p.exportModel log now report t s).result = .error failure) : ¬ failure.IsMixUp := by
  rw [exportModel] at h
  dsimp only at h
  split at h
  · cases h
  · rw [← Except.error.inj h]
    exact id
  · rename_i failure' _ hresult
    obtain rfl : failure' = failure := Except.error.inj h
    exact Exporter.run_not_isMixUp hresult

/-- **Training on what is computed from rows** has an answer, and fails by diverging only. -/
theorem train?_computed (p : Pipeline) {rows : List (Row Float)} (hne : rows ≠ []) :
    ∃ result, p.train? (computed rows) = some result ∧
      ∀ failure, result = .error failure → ∃ epoch, failure = .training (.diverged epoch) := by
  obtain ⟨result, htrain, hdiverged⟩ :=
    Training.train?_ofExamples p.training (examplesOf_ne_nil hne)
  refine ⟨result.mapError Failure.training, ?_, ?_⟩
  · rw [train?, align_computed]
    show (Training.train? _ _).map _ = _
    rw [htrain]
    rfl
  · intro failure h
    cases result with
    | error fault =>
      obtain ⟨epoch, rfl⟩ := hdiverged fault rfl
      exact ⟨epoch, (Except.error.inj h).symm⟩
    | ok trained => cases h

/-- **Processing rows** has an outcome, and does not fail as a mix-up. -/
theorem process?_computed (p : Pipeline) (log : RunLog) (now : Instant) {rows : List (Row Float)}
    (hne : rows ≠ []) (hfits : Fits rows) (s : ProcessState) :
    ∃ outcome, p.process? log now rows s = some outcome ∧
      ∀ failure, outcome.result = .error failure → ¬ failure.IsMixUp := by
  obtain ⟨result, htrain, hdiverged⟩ := p.train?_computed hne
  have hcompute : compute? rows = some (computed rows) := by
    rw [compute?_eq, if_pos hfits]
  rw [process?, hcompute, Option.bind_eq_bind, Option.bind_some, htrain]
  cases result with
  | error failure =>
    refine ⟨_, rfl, ?_⟩
    intro failure' h
    obtain ⟨epoch, rfl⟩ := hdiverged failure rfl
    rw [← Except.error.inj h]
    exact id
  | ok trained =>
    refine ⟨_, rfl, ?_⟩
    intro failure h
    exact exportModel_not_isMixUp h

/-- **The run of a source with rows** has an outcome if their connections fit. -/
theorem run?_fetched (p : Pipeline) {rows : List (Row Float)} {events : List Event}
    (hfetch : p.source.fetch = (.ok rows, events)) (hfits : Fits rows) (clock : Clock)
    (s : ProcessState) :
    ∃ outcome, p.run? clock s = some outcome ∧
      ∀ failure, outcome.result = .error failure → ¬ failure.IsMixUp := by
  have hexecute : ∃ outcome, p.execute? ⟨runId clock.started⟩ clock.exported s = some outcome ∧
      ∀ failure, outcome.result = .error failure → ¬ failure.IsMixUp := by
    rw [execute?, hfetch]
    dsimp only
    split
    · exact ⟨_, rfl, fun failure h => by cases h⟩
    · rename_i hne
      obtain ⟨outcome, hprocess, hsound⟩ := p.process?_computed ⟨runId clock.started⟩
        clock.exported (by simpa using hne) hfits
        ⟨s.files, s.metrics.setRows rows.length (rows.countP fun row => !row.hasMetrics)⟩
      rw [hprocess]
      exact ⟨_, rfl, hsound⟩
  obtain ⟨outcome, hexecute, hsound⟩ := hexecute
  rw [run?]
  dsimp only
  rw [hexecute]
  exact ⟨_, rfl, hsound⟩

end Pipeline

/-! ## 3.  The correspondence -/

/-- **Features and labels can always be paired, and are never mixed up between servers.**  The
vectors are those of the servers that have rows, strictly ascending, and the labels are of the
same servers in the same order.  So pairing them succeeds, and every position holds one server
in the vectors, the labels, the examples and the three columns of the training set, with the
vector and the score that the rows of this server have by themselves.  Whoever processes the
rows, and whoever runs a pipeline on a source of them, with whatever configuration, does not fail
as a mix-up. -/
theorem compute?_correspondence {rows : List (Row Float)} {c : Computed Float}
    (hc : compute? rows = some c) :
    (c.aggregation.vectors.map FeatureVector.serverId).Pairwise (· < ·) ∧
      (∀ id, id ∈ c.aggregation.vectors.map FeatureVector.serverId ↔
        ∃ row ∈ rows, row.serverId = id) ∧
      c.labels.map Label.serverId = c.aggregation.vectors.map FeatureVector.serverId ∧
      (∃ examples, Alignment.align c.aggregation.vectors c.labels = .ok examples ∧
        examples.length = c.aggregation.vectors.length ∧
        (TrainingSet.ofExamples examples).serverIds.length = examples.length ∧
        (TrainingSet.ofExamples examples).x.length = examples.length ∧
        (TrainingSet.ofExamples examples).y.length = examples.length ∧
        ∀ i id, (c.aggregation.vectors.map FeatureVector.serverId)[i]? = some id →
          ∃ alone : Reduced Float, vector? id (ofServer id rows) = some alone ∧
            alone.vector.serverId = id ∧
            Position c examples i id alone.vector (Label.scoreGroup (ofServer id rows))) ∧
      (rows ≠ [] → ∀ (p : Pipeline) (log : RunLog) (now : Instant) (s : ProcessState),
        ∃ outcome, p.process? log now rows s = some outcome ∧
          ∀ failure, outcome.result = .error failure → ¬ failure.IsMixUp) ∧
      ∀ (p : Pipeline) (events : List Event), p.source.fetch = (.ok rows, events) →
        ∀ (clock : Clock) (s : ProcessState), ∃ outcome, p.run? clock s = some outcome ∧
          ∀ failure, outcome.result = .error failure → ¬ failure.IsMixUp := by
  obtain ⟨hfits, rfl⟩ := compute?_eq_some_iff.mp hc
  rw [map_serverId_vectors, map_serverId_labels]
  refine ⟨pairwise_ascending _, fun id => mem_serversOf, rfl, ?_, ?_, ?_⟩
  · refine ⟨examplesOf rows, align_computed rows, ?_, List.length_map _, List.length_map _,
      List.length_map _, ?_⟩
    · rw [examplesOf, computed, List.length_map, List.length_map]
    · intro i id hid
      refine ⟨reduced id (ofServer id rows), ?_, rfl, position_computed hid⟩
      rw [vector?_eq, if_pos (hfits id (List.mem_of_getElem? hid))]
  · intro hne p log now s
    exact p.process?_computed log now hne hfits s
  · intro p events hfetch clock s
    exact p.run?_fetched hfetch hfits clock s

/-- A pipeline on the sample store. -/
def samplePipeline : Pipeline where
  source := .memory MemoryStore.sampleStore
  training := .standard
  exporter := ⟨⟨"artifacts"⟩, none⟩

/-- The two servers of the sample come out in ascending order, their training set is complete,
and every run has an outcome that is no mix-up. -/
theorem compute?_correspondence_samplePipeline :
    ∃ rows events c, samplePipeline.source.fetch = (.ok rows, events) ∧ rows ≠ [] ∧
      compute? rows = some c ∧
      (c.aggregation.vectors.map FeatureVector.serverId).Pairwise (· < ·) ∧
      (∀ id, id ∈ c.aggregation.vectors.map FeatureVector.serverId ↔ id = 7 ∨ id = 8) ∧
      (∃ examples, Alignment.align c.aggregation.vectors c.labels = .ok examples) ∧
      (∀ log now s, ∃ outcome, samplePipeline.process? log now rows s = some outcome ∧
        ∀ failure, outcome.result = .error failure → ¬ failure.IsMixUp) ∧
      ∀ clock s, ∃ outcome, samplePipeline.run? clock s = some outcome ∧
        ∀ failure, outcome.result = .error failure → ¬ failure.IsMixUp := by
  have hids : serversOf MemoryStore.sampleStore.joined.rows = [7, 8] :=
    (MemoryStore.serversOf_joined _).trans MemoryStore.sampleStore_observed
  have hne : MemoryStore.sampleStore.joined.rows ≠ [] := by
    intro hnil
    rw [hnil] at hids
    cases hids
  have hc : compute? MemoryStore.sampleStore.joined.rows =
      some (computed MemoryStore.sampleStore.joined.rows) :=
    compute?_eq_some_iff.mpr ⟨MemoryStore.fits_joined MemoryStore.sampleStore_fits, rfl⟩
  obtain ⟨hlt, hservers, -, ⟨examples, halign, -⟩, hprocess, hrun⟩ := compute?_correspondence hc
  refine ⟨_, _, _, rfl, hne, hc, hlt, fun id => ?_, ⟨examples, halign⟩,
    hprocess hne samplePipeline, hrun samplePipeline _ rfl⟩
  rw [hservers, ← mem_serversOf, hids, List.mem_pair]

end FleetScore
