import FleetScore.Proofs.Pipeline.ArtifactHistory
import FleetScore.Proofs.Pipeline.Courses

/-!
# What the metrics of a process say of its runs

The runs of a process share its metrics.  Each of the six courses of a run changes another part of
them, at another point of the run.  Seen from outside it is simple: the metrics are a summary of the
runs so far, and nothing else.

* Counters count.  Every run is one duration, every outcome of a certain kind is one failure, and a
  run that had rows adds its servers without connections, whether or not it went on to fail.
* Gauges remember.  Three of them are those of the latest run that fetched, and the error is that of
  the latest run that trained.  `latest` reads such a value off a list of runs.

`Turn.accounts` says what one run does to the metrics, by its course.  `tally_of_history?` adds this
up over several runs that start with any metrics, by induction on the runs; and
`history?_accounts` is what this makes of runs that start with none.

## Servers without connections

Guards are counted where the error rate is computed, and a server without connections is seen in its
vector.  These agree because the connections fit 64 bits: a sum of them that is not zero is no zero
in the vector, either (`Aggregation.guarded_reduced`).
-/

namespace FleetScore

open Aggregation

/-! ## 1.  Servers without connections -/

namespace Aggregation

variable {R : Type} [Scalar R]

/-- **Guards are servers without connections.** -/
theorem divisionGuards_computed {rows : List (Row R)} (hfits : Fits rows) :
    (computed rows).aggregation.divisionGuards =
      (computed rows).aggregation.vectors.countP fun v => decide (v.activeConns = 0) := by
  show ((serversOf rows).filter fun id =>
      (reduced id (ofServer id rows) : Reduced R).guarded).length =
    ((serversOf rows).map fun id => (reduced id (ofServer id rows) : Reduced R).vector).countP _
  rw [List.countP_map, List.countP_eq_length_filter]
  congr 1
  refine List.filter_congr fun id hid => ?_
  exact guarded_reduced (hfits id hid)

end Aggregation

/-! ## 2.  One run -/

/-- A run of a process: the pipeline, the readings of its clock, and the files it finds. -/
structure Turn where
  pipeline : Pipeline
  clock : Clock
  files : FileTree

/-- Whether a result says that training and serving do not use the same features. -/
def isMismatch : Except Failure RunReport → Bool
  | .error (.featureSetMismatch _) => true
  | _ => false

namespace Turn

/-- The outcome of a run that starts with some metrics, if it has one. -/
def outcome? (t : Turn) (m : Metrics) : Option RunOutcome := t.pipeline.run? t.clock ⟨t.files, m⟩

/-- The rows that are fetched, if the source can be read. -/
def fetched? (t : Turn) : Option (List (Row Float)) := t.pipeline.source.fetch.1.toOption

/-- The vectors of the servers that are described. -/
def vectors (t : Turn) : List (FeatureVector Float) :=
  ((t.fetched?.bind compute?).map fun c => c.aggregation.vectors).getD []

/-- The number of servers without connections. -/
def idleServers (t : Turn) : Nat := t.vectors.countP fun v => decide (v.activeConns = 0)

/-- The rows, the rows without metrics and the servers of a run that fetches. -/
def gauges? (t : Turn) : Option (Nat × Nat × Nat) :=
  t.fetched?.map fun rows => (rows.length, nullRows rows, t.vectors.length)

/-- The error of the model of a run that has rows and trains on them. -/
def error? (t : Turn) : Option Float := do
  let rows ← t.fetched?
  let c ← compute? rows
  let result ← if rows.isEmpty then none else t.pipeline.train? c
  result.toOption.map fun trained => trained.evaluation.mae

/-- What a run does to the metrics of its process.  It replaces three gauges if it fetches, and
the error if it trains. -/
structure Accounts (t : Turn) (m : Metrics) (o : RunOutcome) : Prop where
  runs : o.state.metrics.runDuration.count = m.runDuration.count + 1
  storeErrors : o.state.metrics.storeErrors =
    m.storeErrors + (Pipeline.isUnavailable o.result).toNat
  parityFailures : o.state.metrics.parityFailures = m.parityFailures + (isMismatch o.result).toNat
  divisionGuards : o.state.metrics.divisionGuards = m.divisionGuards + t.idleServers
  gauges : (o.state.metrics.rowsFetched, o.state.metrics.nullMetricRows,
    o.state.metrics.serversFeatured) =
      t.gauges?.getD (m.rowsFetched, m.nullMetricRows, m.serversFeatured)
  validationMae : o.state.metrics.validationMae = t.error?.getD m.validationMae

section

variable {t : Turn} {rows : List (Row Float)} {events : List Event}

theorem fetched?_of_fetch (hfetch : t.pipeline.source.fetch = (.ok rows, events)) :
    t.fetched? = some rows := by
  rw [fetched?, hfetch]
  rfl

variable (hrows : t.pipeline.Fetches rows events)

include hrows

theorem vectors_of_fetches : t.vectors = (computed rows).aggregation.vectors := by
  rw [vectors, fetched?_of_fetch hrows.fetch, Option.bind_some,
    compute?_eq_some_iff.mpr ⟨hrows.fits, rfl⟩]
  rfl

theorem idleServers_of_fetches : t.idleServers = (computed rows).aggregation.divisionGuards := by
  rw [idleServers, vectors_of_fetches hrows, divisionGuards_computed hrows.fits]

theorem gauges?_of_fetches :
    t.gauges? = some (rows.length, nullRows rows, (computed rows).aggregation.vectors.length) := by
  rw [gauges?, vectors_of_fetches hrows, fetched?_of_fetch hrows.fetch]
  rfl

theorem error?_of_fetches {result : Except Failure (Training.Trained Float)}
    (htrain : t.pipeline.train? (computed rows) = some result) :
    t.error? = result.toOption.map fun trained => trained.evaluation.mae := by
  have hne : ¬ rows.isEmpty = true := by simpa using hrows.ne_nil
  rw [error?, fetched?_of_fetch hrows.fetch]
  show (compute? rows).bind _ = _
  rw [compute?_eq_some_iff.mpr ⟨hrows.fits, rfl⟩, Option.bind_some, if_neg hne, htrain]
  rfl

end

/-- **What one run does to the metrics**, by its course. -/
theorem accounts {t : Turn} {m : Metrics} {o : RunOutcome} (h : t.outcome? m = some o) :
    t.Accounts m o := by
  obtain ⟨e, hcourse, rfl⟩ := Pipeline.run?_course h
  cases hcourse with
  | unavailable hfetch =>
    have hfetched : t.fetched? = none := by
      rw [fetched?, hfetch]
      rfl
    refine ⟨rfl, rfl, rfl, ?_, ?_, ?_⟩
    · rw [idleServers, vectors, hfetched]
      rfl
    · rw [gauges?, hfetched]
      rfl
    · rw [error?, hfetched]
      rfl
  | empty hfetch =>
    have hfetched : t.fetched? = some [] := fetched?_of_fetch hfetch
    refine ⟨rfl, rfl, rfl, ?_, ?_, ?_⟩
    · rw [idleServers, vectors, hfetched]
      rfl
    · rw [gauges?, vectors, hfetched]
      rfl
    · rw [error?, hfetched]
      rfl
  | diverged hrows htrain | blocked hrows htrain _ | obstructed hrows htrain _
  | exported hrows htrain _ =>
    refine ⟨rfl, rfl, rfl, ?_, ?_, ?_⟩
    · rw [idleServers_of_fetches hrows]
      rfl
    · rw [gauges?_of_fetches hrows]
      rfl
    · rw [error?_of_fetches hrows htrain]
      rfl

end Turn
/-! ## 3.  Several runs -/

section

variable {α β : Type}

theorem countP_cons_toNat (p : α → Bool) (x : α) (xs : List α) :
    (x :: xs).countP p = (p x).toNat + xs.countP p := by
  rw [List.countP_cons, Nat.add_comm]
  cases p x <;> rfl

/-- The value that is read off the latest member of a list that has one. -/
def latest (read? : α → Option β) (xs : List α) (start : β) : β :=
  (xs.filterMap read?).getLast?.getD start

theorem latest_cons (read? : α → Option β) (x : α) (xs : List α) (start : β) :
    latest read? (x :: xs) start = latest read? xs ((read? x).getD start) := by
  rw [latest, List.filterMap_cons]
  cases read? x with
  | none => rfl
  | some b =>
    dsimp only
    rw [List.getLast?_cons]
    rfl

end

/-- The outcomes of the runs of a process that starts with some metrics, and the metrics at the end,
if each of them has an outcome. -/
def history? : Metrics → List Turn → Option (List RunOutcome × Metrics)
  | m, [] => some ([], m)
  | m, t :: turns => do
      let o ← t.outcome? m
      let (outcomes, last) ← history? o.state.metrics turns
      some (o :: outcomes, last)

theorem history?_cons {m last : Metrics} {t : Turn} {turns : List Turn}
    {outcomes : List RunOutcome} (h : history? m (t :: turns) = some (outcomes, last)) :
    ∃ o rest, t.outcome? m = some o ∧ history? o.state.metrics turns = some (rest, last) ∧
      outcomes = o :: rest := by
  rw [history?] at h
  obtain ⟨o, ho, h⟩ := Option.bind_eq_some_iff.mp h
  obtain ⟨⟨rest, last'⟩, hrest, h⟩ := Option.bind_eq_some_iff.mp h
  obtain ⟨rfl, rfl⟩ := Prod.mk.inj (Option.some.inj h)
  exact ⟨o, rest, ho, hrest, rfl⟩

/-- What several runs do to the metrics of their process.  Three gauges are those of the latest
run that fetched, and the error is that of the latest run that trained. -/
structure Tally (turns : List Turn) (outcomes : List RunOutcome) (m last : Metrics) : Prop where
  length : outcomes.length = turns.length
  runs : last.runDuration.count = m.runDuration.count + turns.length
  storeErrors : last.storeErrors =
    m.storeErrors + outcomes.countP fun o => Pipeline.isUnavailable o.result
  parityFailures : last.parityFailures =
    m.parityFailures + outcomes.countP fun o => isMismatch o.result
  divisionGuards : last.divisionGuards = m.divisionGuards + (turns.map Turn.idleServers).sum
  gauges : (last.rowsFetched, last.nullMetricRows, last.serversFeatured) =
    latest Turn.gauges? turns (m.rowsFetched, m.nullMetricRows, m.serversFeatured)
  validationMae : last.validationMae = latest Turn.error? turns m.validationMae

/-- **What several runs do to the metrics**, whatever these were before. -/
theorem tally_of_history? {turns : List Turn} {outcomes : List RunOutcome} {m last : Metrics}
    (h : history? m turns = some (outcomes, last)) : Tally turns outcomes m last := by
  induction turns generalizing m outcomes with
  | nil =>
    obtain ⟨rfl, rfl⟩ := Prod.mk.inj (Option.some.inj h)
    exact ⟨rfl, rfl, rfl, rfl, rfl, rfl, rfl⟩
  | cons t turns ih =>
    obtain ⟨o, rest, ho, hrest, rfl⟩ := history?_cons h
    have hfirst := t.accounts ho
    have hothers := ih hrest
    constructor
    · rw [List.length_cons, List.length_cons, hothers.length]
    · rw [hothers.runs, hfirst.runs, List.length_cons]
      omega
    · rw [hothers.storeErrors, hfirst.storeErrors, countP_cons_toNat, Nat.add_assoc]
    · rw [hothers.parityFailures, hfirst.parityFailures, countP_cons_toNat, Nat.add_assoc]
    · rw [hothers.divisionGuards, hfirst.divisionGuards, List.map_cons, List.sum_cons]
      omega
    · rw [hothers.gauges, hfirst.gauges, latest_cons]
    · rw [hothers.validationMae, hfirst.validationMae, latest_cons]

/-- A process may be stopped after any number of runs, and goes on from its metrics. -/
theorem history?_split {turns : List Turn} {outcomes : List RunOutcome} {m last : Metrics}
    (h : history? m turns = some (outcomes, last)) (n : Nat) :
    ∃ middle, history? m (turns.take n) = some (outcomes.take n, middle) ∧
      history? middle (turns.drop n) = some (outcomes.drop n, last) := by
  induction turns generalizing m outcomes n with
  | nil =>
    obtain ⟨rfl, rfl⟩ := Prod.mk.inj (Option.some.inj h)
    rw [List.take_nil, List.take_nil, List.drop_nil, List.drop_nil]
    exact ⟨m, rfl, rfl⟩
  | cons t turns ih =>
    cases n with
    | zero => exact ⟨m, rfl, h⟩
    | succ n =>
      obtain ⟨o, rest, ho, hrest, rfl⟩ := history?_cons h
      obtain ⟨middle, htake, hdrop⟩ := ih hrest n
      refine ⟨middle, ?_, hdrop⟩
      rw [List.take_succ_cons, List.take_succ_cons, history?, ho]
      show (history? o.state.metrics (turns.take n)).bind _ = _
      rw [htake]
      rfl

/-- Whether no counter of some metrics is greater than in others. -/
structure Metrics.AtMost (m m' : Metrics) : Prop where
  runs : m.runDuration.count ≤ m'.runDuration.count
  storeErrors : m.storeErrors ≤ m'.storeErrors
  parityFailures : m.parityFailures ≤ m'.parityFailures
  divisionGuards : m.divisionGuards ≤ m'.divisionGuards

theorem Tally.atMost {turns : List Turn} {outcomes : List RunOutcome} {m last : Metrics}
    (h : Tally turns outcomes m last) : m.AtMost last where
  runs := h.runs ▸ Nat.le_add_right _ _
  storeErrors := h.storeErrors ▸ Nat.le_add_right _ _
  parityFailures := h.parityFailures ▸ Nat.le_add_right _ _
  divisionGuards := h.divisionGuards ▸ Nat.le_add_right _ _

/-- **The metrics of a process account for its runs.**  Let a process make any runs, of any
pipelines, each of which has an outcome, and let its metrics be those of a new process at first.  At
the end

* the durations are as many as the runs;
* the errors of the store are the runs that could not read their source, and the failures of parity
  are those that ended with a difference of features;
* the guards are the servers without connections of all runs, of those that failed, too;
* rows, rows without metrics and servers are those of the latest run that fetched, and the error is
  that of the latest run that trained.

At any time between, no counter is greater than at the end. -/
theorem history?_accounts {turns : List Turn} {outcomes : List RunOutcome} {m : Metrics}
    (h : history? .zero turns = some (outcomes, m)) :
    outcomes.length = turns.length ∧
      m.runDuration.count = turns.length ∧
      (m.storeErrors = outcomes.countP fun o => Pipeline.isUnavailable o.result) ∧
      (m.parityFailures = outcomes.countP fun o => isMismatch o.result) ∧
      m.divisionGuards = (turns.map Turn.idleServers).sum ∧
      (m.rowsFetched, m.nullMetricRows, m.serversFeatured) = latest Turn.gauges? turns (0, 0, 0) ∧
      m.validationMae = latest Turn.error? turns 0.0 ∧
      ∀ n, ∃ middle, history? .zero (turns.take n) = some (outcomes.take n, middle) ∧
        history? middle (turns.drop n) = some (outcomes.drop n, m) ∧ middle.AtMost m := by
  have htally := tally_of_history? h
  refine ⟨htally.length, ?_, ?_, ?_, ?_, htally.gauges, htally.validationMae, ?_⟩
  · exact htally.runs.trans (Nat.zero_add _)
  · exact htally.storeErrors.trans (Nat.zero_add _)
  · exact htally.parityFailures.trans (Nat.zero_add _)
  · exact htally.divisionGuards.trans (Nat.zero_add _)
  · intro n
    obtain ⟨middle, htake, hdrop⟩ := history?_split h n
    exact ⟨middle, htake, hdrop, (tally_of_history? hdrop).atMost⟩

/-! ### Six runs of one process -/

/-- A pipeline on a store whose one server has no connections, for a serving manifest that is not
in parity. -/
def idlePipeline : Pipeline where
  source := .memory
    { singleStore none [⟨3, 7, Exporter.sampleInstant, 40, .failure⟩] with
      snapshots := [⟨7, Exporter.sampleInstant, 50, 25, 0⟩] }
  training := ⟨⟨1, 0.01, 0.01⟩, 5⟩
  exporter := Exporter.repeatedExporter

/-- A run of a pipeline on the sample files. -/
def turnOf (p : Pipeline) : Turn where
  pipeline := p
  clock := ⟨Exporter.sampleInstant, Exporter.sampleInstant, Span.ofSeconds 1⟩
  files := Exporter.sampleFiles

/-- A run that cannot read its source, one on a database that answers, one whose database does not,
one that trains and exports, one that trains on a server without connections and is blocked, and one
without requests. -/
def sampleTurns : List Turn := [
  turnOf (singleLaunch (some "maintenance") []).pipeline,
  turnOf (databaseLaunch sampleReply).pipeline,
  turnOf (databaseLaunch (.failed none)).pipeline,
  turnOf (singleLaunch none [⟨3, 7, Exporter.sampleInstant, 40, .failure⟩]).pipeline,
  turnOf idlePipeline,
  turnOf (singleLaunch none []).pipeline]

/-- The counters and gauges of some metrics, the error aside. -/
def Metrics.figures (m : Metrics) : List Nat :=
  [m.runDuration.count, m.storeErrors, m.parityFailures, m.divisionGuards, m.rowsFetched,
    m.nullMetricRows, m.serversFeatured]

/-- At the end of these runs two could not read their source and one was blocked.  The one that was
blocked has left its guard and the error of its model; the one without requests has left the
gauges. -/
theorem history?_accounts_sampleTurns :
    ∃ outcomes m, history? .zero sampleTurns = some (outcomes, m) ∧
      m.figures = [6, 2, 1, 1, 0, 0, 0] ∧
      (outcomes.countP fun o => Pipeline.isUnavailable o.result) = 2 ∧
      (outcomes.countP fun o => isMismatch o.result) = 1 ∧
      (sampleTurns.map Turn.idleServers).sum = 1 ∧
      latest Turn.gauges? sampleTurns (0, 0, 0) = (0, 0, 0) ∧
      (∃ x, (turnOf idlePipeline).error? = some x ∧ m.validationMae = x) ∧
      ∃ middle, history? .zero (sampleTurns.take 5) = some (outcomes.take 5, middle) ∧
        middle.AtMost m := by
  have hevaluated : (history? .zero sampleTurns).any
      (fun h => decide (h.2.figures = [6, 2, 1, 1, 0, 0, 0])) = true := by
    decide +kernel
  obtain ⟨⟨outcomes, m⟩, hhistory, hfigures⟩ := (Option.any_eq_true _ _).mp hevaluated
  have hfigures : m.figures = [6, 2, 1, 1, 0, 0, 0] := of_decide_eq_true hfigures
  obtain ⟨-, -, hstore, hparity, hguards, hgauges, hmae, hmiddle⟩ := history?_accounts hhistory
  obtain ⟨middle, htake, -, hmost⟩ := hmiddle 5
  have hcounters := hfigures
  simp only [Metrics.figures, List.cons.injEq] at hcounters
  obtain ⟨-, htwo, hone, hone', hrows, hnull, hservers, -⟩ := hcounters
  refine ⟨outcomes, m, hhistory, hfigures, ?_, ?_, ?_, ?_, ?_, middle, htake, hmost⟩
  · rw [← hstore, htwo]
  · rw [← hparity, hone]
  · rw [← hguards, hone']
  · rw [← hgauges, hrows, hnull, hservers]
  · have hblocked : (turnOf idlePipeline).error?.isSome = true := by decide +kernel
    have hempty : (turnOf (singleLaunch none []).pipeline).error?.isNone = true := by decide +kernel
    obtain ⟨x, hx⟩ := Option.isSome_iff_exists.mp hblocked
    refine ⟨x, hx, ?_⟩
    simp only [hmae, sampleTurns, latest_cons, hx, Option.isNone_iff_eq_none.mp hempty]
    rfl

end FleetScore
