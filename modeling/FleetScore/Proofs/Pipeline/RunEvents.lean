import FleetScore.Proofs.Pipeline.MetricsHistory

/-!
# What the log of a run tells

Some of the events of a run have a name.  Whoever reads the names alone, in their order, knows how
the run ended: `story?` is the list of names for each result, and a run has these names and no
others (`Turn.outcome?_tells`).  So a log never says that artifacts were exported and then that the
run was aborted, and it never says twice that features were computed.

A story has one part of variable length.  Between the report of the rows and the report of the
features, there is one event for each server without connections.

## How a story is put together

Events are reported in several places, one after the other, and what is said of all of them together
is first said of each place.  `Told` is what there is to say of some events, and it is kept when
others follow (`Told.append`).  What the source, the training and the export report on the way is
*quiet*: it has no name, and it does not come from the log of the run (`Told.of_isQuiet`).

The six courses of a run are then told one by one (`Turn.told_course`), and what comes before and
after is the same for all of them (`Turn.told_concluded`).
-/

namespace FleetScore

open Aggregation

/-! ## 1.  Events of a run -/

namespace Event

/-- Whether an event reports a guarded division. -/
def isGuard (e : Event) : Bool := decide (e.name? = some "division_guard_triggered")

/-- Whether an event has no name and does not come from the log of the run. -/
def IsQuiet (e : Event) : Prop := e.name? = none ∧ e.target ≠ RunLog.target

end Event

/-- Whether some events of a run have these names, in this order, with these guards among them; and
what comes from the log of the run carries its identifier, nobody else names an event, guards
aside, and features are reported by one certain event. -/
structure Told (log : RunLog) (features : Event) (events : List Event) (names : List String)
    (guards : List Event) : Prop where
  names : events.filterMap Event.name? = names
  guards : events.filter Event.isGuard = guards
  signed : ∀ e ∈ events, e.target = RunLog.target → ("run_id", .text log.runId) ∈ e.fields
  spoken : ∀ e ∈ events, e.name?.isSome = true → e.target = RunLog.target ∨ e.isGuard = true
  features : ∀ e ∈ events, e.name? = some "features_computed" → e = features

namespace Told

variable {log : RunLog} {features : Event} {events events' : List Event}
  {names names' : List String} {guards guards' : List Event}

/-- **What is told one after the other is told together.** -/
theorem append (h : Told log features events names guards)
    (h' : Told log features events' names' guards') :
    Told log features (events ++ events') (names ++ names') (guards ++ guards') where
  names := by rw [List.filterMap_append, h.names, h'.names]
  guards := by rw [List.filter_append, h.guards, h'.guards]
  signed e he := (List.mem_append.mp he).elim (h.signed e) (h'.signed e)
  spoken e he := (List.mem_append.mp he).elim (h.spoken e) (h'.spoken e)
  features e he := (List.mem_append.mp he).elim (h.features e) (h'.features e)

theorem followed (h : Told log features events names guards)
    (h' : Told log features events' names' []) :
    Told log features (events ++ events') (names ++ names') guards := by
  have htold := h.append h'
  rw [List.append_nil] at htold
  exact htold

theorem of_isQuiet (h : ∀ e ∈ events, e.IsQuiet) : Told log features events [] [] where
  names := List.filterMap_eq_nil_iff.mpr fun e he => (h e he).1
  guards := by
    refine List.filter_eq_nil_iff.mpr fun e he => ?_
    rw [Event.isGuard, (h e he).1]
    exact Bool.false_ne_true
  signed e he htarget := absurd htarget (h e he).2
  spoken e he hname := by
    rw [(h e he).1] at hname
    cases hname
  features e he hname := by
    rw [(h e he).1] at hname
    cases hname

theorem of_quiet {e : Event} (h : e.IsQuiet) : Told log features [e] [] [] :=
  .of_isQuiet fun _ he => List.mem_singleton.mp he ▸ h

/-- An event of the log has its name, unless it reports features or a guard. -/
theorem of_event (level : Level) {name : String} (message : String)
    (fields : List (String × FieldValue)) (hguard : name ≠ "division_guard_triggered")
    (hfeatures : name = "features_computed" →
      log.event level name message fields = features) :
    Told log features [log.event level name message fields] [name] [] where
  names := rfl
  guards := by
    have hname : (log.event level name message fields).name? = some name := rfl
    refine List.filter_eq_nil_iff.mpr fun e he => ?_
    rw [List.mem_singleton.mp he, Event.isGuard, hname]
    simpa using hguard
  signed e he _ := by
    rw [List.mem_singleton.mp he]
    exact List.mem_cons_of_mem _ List.mem_cons_self
  spoken e he _ := by
    rw [List.mem_singleton.mp he]
    exact .inl rfl
  features e he hname := by
    rw [List.mem_singleton.mp he] at hname ⊢
    exact hfeatures (Option.some.inj hname)

theorem of_plain (level : Level) {name : String} (message : String)
    (fields : List (String × FieldValue)) (hguard : name ≠ "division_guard_triggered")
    (hfeatures : name ≠ "features_computed") :
    Told log features [log.event level name message fields] [name] [] :=
  .of_event level message fields hguard fun h => absurd h hfeatures

theorem of_guards (ids : List Int64) :
    Told log features (ids.map guardEvent)
      (List.replicate ids.length "division_guard_triggered") (ids.map guardEvent) := by
  have hname : ∀ e ∈ ids.map guardEvent, e.name? = some "division_guard_triggered" := by
    intro e he
    obtain ⟨id, -, rfl⟩ := List.mem_map.mp he
    rfl
  have hguard : ∀ e ∈ ids.map guardEvent, e.isGuard = true := fun e he =>
    decide_eq_true (hname e he)
  constructor
  · rw [List.filterMap_map, ← List.map_const', ← List.filterMap_eq_map]
    rfl
  · exact List.filter_eq_self.mpr hguard
  · intro e he htarget
    obtain ⟨id, -, rfl⟩ := List.mem_map.mp he
    have hne : "pipeline_lib::features::aggregate" ≠ RunLog.target := by decide
    exact absurd htarget hne
  · exact fun e he _ => .inr (hguard e he)
  · intro e he hfeatures
    have hne : "division_guard_triggered" ≠ "features_computed" := by decide
    exact absurd (Option.some.inj ((hname e he).symm.trans hfeatures)) hne

end Told

theorem isQuiet_of_mem_read {R : Type} {lookback tolerance timeout : Span}
    {reply : Database.Reply R} {e : Event}
    (he : e ∈ (Database.read lookback tolerance timeout reply).2) : e.IsQuiet := by
  have htarget : "pipeline_lib::source::postgres" ≠ RunLog.target := by decide
  have hconnecting : Database.connectingEvent.IsQuiet := ⟨rfl, htarget⟩
  cases reply with
  | unreachable reason =>
    rw [List.mem_singleton.mp he]
    exact hconnecting
  | failed reason | overdue | answered rows elapsed =>
    obtain rfl | rfl := List.mem_pair.mp he
    · exact hconnecting
    · exact ⟨rfl, htarget⟩

theorem isQuiet_of_mem_fetch {R : Type} {source : Source R} {e : Event}
    (he : e ∈ source.fetch.2) : e.IsQuiet := by
  cases source with
  | memory s =>
    rw [Source.fetch] at he
    split at he
    · exact absurd he List.not_mem_nil
    · rw [List.mem_singleton.mp he]
      exact ⟨rfl, (by decide : "pipeline_lib::join" ≠ RunLog.target)⟩
  | database settings reply =>
    rw [Source.fetch] at he
    split at he
    · exact absurd he List.not_mem_nil
    · exact isQuiet_of_mem_read he

/-! ## 2.  The stories -/

/-- The names until servers are described, so many of them without connections. -/
def descriptionNames (guards : Nat) : List String :=
  "dataset_fetched" :: (List.replicate guards "division_guard_triggered" ++ ["features_computed"])

/-- The names between the first event of a run and the last, by its result and the number of its
guards; there are none for a result that no run has. -/
def middle? (guards : Nat) : Except Failure RunReport → Option (List String)
  | .error (.storeUnavailable _) => some []
  | .error (.training _) => some (descriptionNames guards)
  | .error (.featureSetMismatch _) => some (descriptionNames guards ++ ["parity_violation"])
  | .error (.artifact _ _) => some (descriptionNames guards)
  | .error _ => none
  | .ok report =>
      match report.dataset with
      | .empty => some ["empty_dataset", "training_skipped"]
      | .populated _ => some (descriptionNames guards ++ ["parity_verified", "artifacts_exported"])

/-- The name of the last event of a run. -/
def lastName : Except Failure RunReport → String
  | .ok _ => "run_finished"
  | .error _ => "run_aborted"

/-- The names of the events of a run, in order. -/
def story? (guards : Nat) (result : Except Failure RunReport) : Option (List String) :=
  (middle? guards result).map fun names => "run_started" :: (names ++ [lastName result])

namespace Turn

/-- The servers without connections that a run describes, ascending. -/
def idle (t : Turn) : List Int64 :=
  (t.vectors.filter fun v => decide (v.activeConns = 0)).map FeatureVector.serverId

/-- The log of a run. -/
def log (t : Turn) : RunLog := ⟨Pipeline.runId t.clock.started⟩

/-- The event that reports the features of a run: so many servers, as many labels. -/
def featuresEvent (t : Turn) : Event :=
  t.log.features t.vectors.length t.vectors.length t.idle.length

/-- **Servers without connections are those whose division is guarded**, if the connections fit. -/
theorem guarded_computed {R : Type} [Scalar R] {rows : List (Row R)} (hfits : Fits rows) :
    (computed rows).aggregation.guarded =
      ((computed rows).aggregation.vectors.filter fun v =>
        decide (v.activeConns = 0)).map FeatureVector.serverId := by
  show (serversOf rows).filter _ = (((serversOf rows).map _).filter _).map _
  rw [List.filter_map, List.map_map]
  refine Eq.trans ?_ (List.map_id _).symm
  exact List.filter_congr fun id hid => guarded_reduced (hfits id hid)

theorem pairwise_idle (t : Turn) : t.idle.Pairwise (· < ·) := by
  have hservers : (t.vectors.map FeatureVector.serverId).Pairwise (· < ·) := by
    rw [vectors]
    cases hc : t.fetched?.bind compute? with
    | none => exact List.Pairwise.nil
    | some c =>
      obtain ⟨rows, -, hcompute⟩ := Option.bind_eq_some_iff.mp hc
      obtain ⟨-, rfl⟩ := compute?_eq_some_iff.mp hcompute
      show ((computed rows).aggregation.vectors.map FeatureVector.serverId).Pairwise (· < ·)
      rw [map_serverId_vectors]
      exact pairwise_ascending _
  exact hservers.sublist (List.filter_sublist.map _)

theorem told_fetch {t : Turn} {rows : Except StoreFault (List (Row Float))} {events : List Event}
    (hfetch : t.pipeline.source.fetch = (rows, events)) :
    Told t.log t.featuresEvent events [] [] := by
  refine .of_isQuiet fun e he => ?_
  have hreported : e ∈ t.pipeline.source.fetch.2 := by
    rw [hfetch]
    exact he
  exact isQuiet_of_mem_fetch hreported

section

variable {t : Turn} {rows : List (Row Float)} {events : List Event}
  (hrows : t.pipeline.Fetches rows events)

include hrows

theorem idle_of_fetches : t.idle = (computed rows).aggregation.guarded := by
  rw [idle, vectors_of_fetches hrows, guarded_computed hrows.fits]

/-- **What is told until the servers are described.** -/
theorem told_description :
    Told t.log t.featuresEvent (Pipeline.description t.log rows events)
      (descriptionNames t.idle.length) (t.idle.map guardEvent) := by
  have hdataset : Told t.log t.featuresEvent [t.log.dataset rows.length (nullRows rows)]
      ["dataset_fetched"] [] := by
    rw [RunLog.dataset, if_neg (by simpa using hrows.ne_nil)]
    exact .of_plain _ _ _ (by decide) (by decide)
  have hfeatures : Told t.log t.featuresEvent [t.featuresEvent] ["features_computed"] [] :=
    .of_event _ _ _ (by decide) fun _ => rfl
  have hlabels : (computed rows).labels.length = t.vectors.length := by
    rw [vectors_of_fetches hrows, ← List.length_map Label.serverId, map_serverId_labels,
      ← map_serverId_vectors, List.length_map]
  have hreported : Pipeline.description t.log rows events =
      events ++ [t.log.dataset rows.length (nullRows rows)] ++
        (t.idle.map guardEvent ++ [t.featuresEvent]) := by
    rw [Pipeline.description, featuresEvent, hlabels, idle_of_fetches hrows,
      vectors_of_fetches hrows]
    rfl
  rw [hreported]
  exact ((told_fetch hrows.fetch).followed hdataset).append
    ((Told.of_guards t.idle).followed hfeatures)

end

theorem idle_of_vectors {t : Turn} (h : t.vectors = []) : t.idle = [] := by
  rw [idle, h]
  rfl

theorem told_parity (t : Turn) (manifest : String) (failure : Option Failure) :
    Told t.log t.featuresEvent [t.log.parity manifest failure]
      [if failure.isSome then "parity_violation" else "parity_verified"] [] := by
  cases failure <;> exact .of_plain _ _ _ (by decide) (by decide)

/-- **What is told of each course**, between the first event and the last. -/
theorem told_course {t : Turn} {s : ProcessState} {o : RunOutcome}
    (h : t.pipeline.Course t.log t.clock.exported s o) :
    ∃ names, middle? t.idle.length o.result = some names ∧
      Told t.log t.featuresEvent o.events names (t.idle.map guardEvent) := by
  have htrained (trained : Training.Trained Float) :
      Told t.log t.featuresEvent [trained.event] [] [] :=
    .of_quiet ⟨rfl, (by decide : "pipeline_lib::training" ≠ RunLog.target)⟩
  cases h with
  | @unavailable fault events hfetch =>
    have hidle : t.idle = [] := idle_of_vectors (by rw [vectors, fetched?, hfetch]; rfl)
    rw [hidle]
    exact ⟨[], rfl, told_fetch hfetch⟩
  | @empty events hfetch =>
    have hidle : t.idle = [] := idle_of_vectors (by rw [vectors, fetched?_of_fetch hfetch]; rfl)
    have hdataset : Told t.log t.featuresEvent [t.log.dataset 0 0] ["empty_dataset"] [] :=
      .of_plain _ _ _ (by decide) (by decide)
    have hskipped : Told t.log t.featuresEvent [t.log.skipped "empty dataset"]
        ["training_skipped"] [] :=
      .of_plain _ _ _ (by decide) (by decide)
    rw [hidle]
    exact ⟨_, rfl, ((told_fetch hfetch).followed hdataset).followed hskipped⟩
  | diverged hrows htrain => exact ⟨_, rfl, told_description hrows⟩
  | @blocked rows events trained difference hrows htrain hexport =>
    have hblocked : Told t.log t.featuresEvent
        [Exporter.blockedEvent (.featureSetMismatch difference)] [] [] :=
      .of_quiet ⟨rfl, (by decide : Exporter.target ≠ RunLog.target)⟩
    exact ⟨_, rfl, (told_description hrows).followed ((htrained trained).followed
      (hblocked.followed (t.told_parity _ (some _))))⟩
  | @obstructed rows events trained path fault files hrows htrain hexport =>
    refine ⟨_, rfl, ?_⟩
    have htold := (told_description hrows).followed (htrained trained)
    rw [List.append_nil] at htold
    exact htold
  | @exported rows events trained summary files hrows htrain hexport =>
    have hexported : Told t.log t.featuresEvent [t.pipeline.exporter.exportedEvent summary] [] [] :=
      .of_quiet ⟨rfl, (by decide : Exporter.target ≠ RunLog.target)⟩
    have hartifacts : Told t.log t.featuresEvent [t.log.exported t.pipeline.exporter.dir.text
        Training.modelVersion Label.version summary.modelSha256] ["artifacts_exported"] [] :=
      .of_plain _ _ _ (by decide) (by decide)
    exact ⟨_, rfl, (told_description hrows).followed ((htrained trained).followed
      (hexported.followed ((t.told_parity _ none).followed hartifacts)))⟩

theorem told_concluded {t : Turn} {o : RunOutcome} {names : List String} {guards : List Event}
    (h : Told t.log t.featuresEvent o.events names guards) :
    Told t.log t.featuresEvent (t.pipeline.concluded t.clock o).events
      ("run_started" :: (names ++ [lastName o.result])) guards := by
  have hfirst : Told t.log t.featuresEvent
      [t.log.started t.pipeline.source.name t.pipeline.exporter.dir.text] ["run_started"] [] :=
    .of_plain _ _ _ (by decide) (by decide)
  have hlast : Told t.log t.featuresEvent [Pipeline.lastEvent t.log t.clock o.result]
      [lastName o.result] [] := by
    cases o.result <;> exact .of_plain _ _ _ (by decide) (by decide)
  exact hfirst.append (h.followed hlast)

/-- What a report of a run has to do with its events. -/
theorem report_course {t : Turn} {s : ProcessState} {o : RunOutcome} {report : RunReport}
    (h : t.pipeline.Course t.log t.clock.exported s o) (hreport : o.result = .ok report) :
    report.runId = t.log.runId ∧ report.features = t.vectors ∧
      report.divisionGuards = t.idle.length := by
  cases h with
  | unavailable _ | diverged _ _ | blocked _ _ _ | obstructed _ _ _ => cases hreport
  | empty hfetch =>
    obtain rfl := Except.ok.inj hreport
    have hnone : t.vectors = [] := by
      rw [vectors, fetched?_of_fetch hfetch]
      rfl
    rw [idle_of_vectors hnone, hnone]
    exact ⟨rfl, rfl, rfl⟩
  | exported hrows _ _ =>
    obtain rfl := Except.ok.inj hreport
    rw [vectors_of_fetches hrows, idle_of_fetches hrows]
    exact ⟨rfl, rfl, rfl⟩

/-- **The events of a run tell its outcome.**  Let a run have an outcome, and let its idle servers
be those with a vector that has no connections.

* The names of the events, in order, are the story of the result, with one event for each idle
  server.
* The events of idle servers are reports of their guarded division, in the ascending order of the
  servers; a report of the run has their number.
* Every event of the log of the run carries its identifier, which is that of the report; and events
  with a name come from there, guards aside.
* What reports the features has as many servers as labels, and the number of idle servers. -/
theorem outcome?_tells {t : Turn} {m : Metrics} {o : RunOutcome} (h : t.outcome? m = some o) :
    story? t.idle.length o.result = some (o.events.filterMap Event.name?) ∧
      o.events.filter Event.isGuard = t.idle.map guardEvent ∧
      t.idle.Pairwise (· < ·) ∧
      (∀ report, o.result = .ok report → report.runId = t.log.runId ∧
        report.features = t.vectors ∧ report.divisionGuards = t.idle.length) ∧
      (∀ e ∈ o.events, e.target = RunLog.target → ("run_id", .text t.log.runId) ∈ e.fields) ∧
      (∀ e ∈ o.events, e.name?.isSome = true → e.target = RunLog.target ∨ e.isGuard = true) ∧
      ∀ e ∈ o.events, e.name? = some "features_computed" →
        e = t.log.features t.vectors.length t.vectors.length t.idle.length := by
  obtain ⟨e, hcourse, rfl⟩ := Pipeline.run?_course h
  obtain ⟨names, hmiddle, htold⟩ := told_course hcourse
  have hall := told_concluded htold
  refine ⟨?_, hall.guards, t.pairwise_idle, fun report hreport => report_course hcourse hreport,
    hall.signed, hall.spoken, hall.features⟩
  rw [hall.names, story?, show (t.pipeline.concluded t.clock e).result = e.result from rfl, hmiddle]
  rfl

/-- The run that is blocked by parity has one server without connections, and says so. -/
theorem outcome?_tells_idlePipeline :
    ∃ o, (turnOf idlePipeline).outcome? .zero = some o ∧ isMismatch o.result = true ∧
      o.events.filterMap Event.name? = ["run_started", "dataset_fetched",
        "division_guard_triggered", "features_computed", "parity_violation", "run_aborted"] ∧
      o.events.filter Event.isGuard = [guardEvent 7] := by
  have hevaluated : ((turnOf idlePipeline).outcome? .zero).any
      (fun o => isMismatch o.result) = true := by
    decide +kernel
  have hidle : (turnOf idlePipeline).idle = [7] := by decide +kernel
  obtain ⟨o, ho, hmismatch⟩ := (Option.any_eq_true _ _).mp hevaluated
  obtain ⟨hstory, hguards, -⟩ := outcome?_tells ho
  rw [hidle] at hstory hguards
  refine ⟨o, ho, hmismatch, ?_, hguards⟩
  rcases o with ⟨s, events, result⟩
  match result, hmismatch, hstory with
  | .error (.featureSetMismatch _), _, hstory => exact (Option.some.inj hstory).symm

end Turn

end FleetScore
