import FleetScore.Proofs.Pipeline.PerServer

/-!
# Computing server by server

Features and labels of a server are computed from its own rows, and from nothing else.  So the
rows of many servers can be cut into the rows of each, computed apart, and put together again,
and nothing is different afterwards.

Cutting is `ofServer`.  Two facts about it carry everything.

* `perm_flatMap_ofServer` --- the pieces together are a rearrangement of the rows, so whatever is
  counted adds up;
* `computed_congr` --- the pieces determine what is computed.  Two lists of rows with the same
  pieces differ in how the rows of different servers are interleaved, and in nothing else.

`vectors_computed` and `labels_computed` say more: what is computed for one server is determined
by its piece, whatever the other pieces are.  So no row of another server can change it, not even
one with the identifier of a request that this server has had, too.
-/

namespace FleetScore

open Aggregation

variable {R : Type}

/-! ## 1.  The pieces -/

namespace Aggregation

theorem mem_ofServer {id : Int64} {rows : List (Row R)} {row : Row R} :
    row ∈ ofServer id rows ↔ row ∈ rows ∧ row.serverId = id := by
  rw [ofServer, List.mem_filter, decide_eq_true_eq]

theorem mem_serversOf_iff {id : Int64} {rows : List (Row R)} :
    id ∈ serversOf rows ↔ ofServer id rows ≠ [] := by
  rw [mem_serversOf]
  constructor
  · rintro ⟨row, hrow, hid⟩
    exact List.ne_nil_of_mem (mem_ofServer.mpr ⟨hrow, hid⟩)
  · intro hne
    obtain ⟨row, hrow⟩ := List.exists_mem_of_ne_nil _ hne
    exact ⟨row, mem_ofServer.mp hrow⟩

theorem ofServer_ofServer (id : Int64) (rows : List (Row R)) :
    ofServer id (ofServer id rows) = ofServer id rows :=
  List.filter_eq_self.mpr fun _ hrow => decide_eq_true (mem_ofServer.mp hrow).2

theorem serversOf_ofServer {id : Int64} {rows : List (Row R)} (hid : id ∈ serversOf rows) :
    serversOf (ofServer id rows) = [id] := by
  refine ascending_eq_of_pairwise (List.pairwise_singleton _ _) fun i => ?_
  rw [List.mem_map, List.mem_singleton]
  constructor
  · rintro ⟨row, hrow, rfl⟩
    exact (mem_ofServer.mp hrow).2
  · rintro rfl
    obtain ⟨row, hrow, hserver⟩ := mem_serversOf.mp hid
    exact ⟨row, mem_ofServer.mpr ⟨hrow, hserver⟩, hserver⟩

/-- **The pieces together are a rearrangement of the rows.** -/
theorem perm_flatMap_ofServer (rows : List (Row R)) :
    ((serversOf rows).flatMap fun id => ofServer id rows).Perm rows :=
  perm_flatMap_filter Row.serverId (nodup_ascending _) fun row hrow =>
    mem_serversOf.mpr ⟨row, hrow, rfl⟩

theorem countP_eq_sum (p : Row R → Bool) (rows : List (Row R)) :
    rows.countP p = ((serversOf rows).map fun id => (ofServer id rows).countP p).sum := by
  rw [← (perm_flatMap_ofServer rows).countP_eq p, List.countP_flatMap]
  rfl

theorem Fits.ofServer {rows : List (Row R)} (hfits : Fits rows) {id : Int64}
    (hid : id ∈ serversOf rows) : Fits (ofServer id rows) := by
  intro i hi
  rw [serversOf_ofServer hid, List.mem_singleton] at hi
  rw [hi, ofServer_ofServer]
  exact hfits id hid

section

variable {rows rows' : List (Row R)} (hpieces : ∀ id, ofServer id rows' = ofServer id rows)

include hpieces

theorem serversOf_congr : serversOf rows' = serversOf rows := by
  refine List.Pairwise.eq_of_mem_iff (pairwise_ascending _) (pairwise_ascending _) fun id => ?_
  rw [mem_serversOf_iff, mem_serversOf_iff, hpieces]

theorem fits_congr (hfits : Fits rows) : Fits rows' := by
  intro id hid
  rw [hpieces]
  rw [serversOf_congr hpieces] at hid
  exact hfits id hid

end

end Aggregation

/-! ## 2.  One server -/

/-- Of a list with one entry for each of some servers, a server picks out its own entry. -/
theorem filter_map_serverId {α : Type} {serverId : α → Int64} {entry : Int64 → α}
    (hentry : ∀ id, serverId (entry id) = id) {ids : List Int64} (hnodup : ids.Nodup)
    (id : Int64) :
    ((ids.map entry).filter fun a => decide (serverId a = id)) =
      if id ∈ ids then [entry id] else [] := by
  have hown : ((ids.map entry).filter fun a => decide (serverId a = id)) =
      (ids.filter fun i => decide (i = id)).map entry := by
    rw [List.filter_map]
    congr 1
    refine List.filter_congr fun i _ => ?_
    rw [Function.comp_apply, hentry]
  rw [hown]
  split
  · rename_i hid
    have hnodup : (ids.map fun i => i).Nodup := by rwa [List.map_id']
    rw [filter_key_eq_singleton hnodup hid]
    rfl
  · rename_i hid
    have hnone : (ids.filter fun i => decide (i = id)) = [] :=
      List.filter_eq_nil_iff.mpr fun i hi h => hid (of_decide_eq_true h ▸ hi)
    rw [hnone]
    rfl

variable [Scalar R]

/-- **The vectors of a server** are determined by its piece. -/
theorem vectors_computed (rows : List (Row R)) (id : Int64) :
    ((computed rows).aggregation.vectors.filter fun v => decide (v.serverId = id)) =
      if ofServer id rows ≠ [] then [(reduced id (ofServer id rows)).vector] else [] := by
  rw [← if_congr mem_serversOf_iff rfl rfl]
  exact filter_map_serverId (fun _ => rfl) (nodup_ascending _) id

/-- **The labels of a server** are determined by its piece. -/
theorem labels_computed (rows : List (Row R)) (id : Int64) :
    ((computed rows).labels.filter fun l => decide (l.serverId = id)) =
      if ofServer id rows ≠ [] then [⟨id, Label.scoreGroup (ofServer id rows)⟩] else [] := by
  rw [← if_congr mem_serversOf_iff rfl rfl]
  exact filter_map_serverId (fun _ => rfl) (nodup_ascending _) id

/-- What is computed from a piece: one vector, and one label. -/
theorem computed_ofServer {rows : List (Row R)} {id : Int64} (hid : id ∈ serversOf rows) :
    computed (ofServer id rows) =
      { aggregation := {
          vectors := [(reduced id (ofServer id rows)).vector]
          guarded := [id].filter fun i => (reduced i (ofServer i rows)).guarded
          nullMetricRows := (ofServer id rows).countP fun row => !row.hasMetrics }
        labels := [⟨id, Label.scoreGroup (ofServer id rows)⟩] } := by
  have hguarded : ([id].filter fun i =>
      (reduced i (ofServer i (ofServer id rows))).guarded) =
        [id].filter fun i => (reduced i (ofServer i rows)).guarded := by
    refine List.filter_congr fun i hi => ?_
    rw [List.mem_singleton.mp hi, ofServer_ofServer]
  rw [computed, serversOf_ofServer hid, hguarded, List.map_singleton, List.map_singleton,
    ofServer_ofServer]

/-! ## 3.  All servers -/

/-- **The pieces determine what is computed.** -/
theorem computed_congr {rows rows' : List (Row R)}
    (hpieces : ∀ id, ofServer id rows' = ofServer id rows) : computed rows' = computed rows := by
  have hcount : (rows'.countP fun row => !row.hasMetrics) =
      rows.countP fun row => !row.hasMetrics := by
    rw [countP_eq_sum, countP_eq_sum _ rows, serversOf_congr hpieces]
    simp only [hpieces]
  rw [computed, computed, hcount, serversOf_congr hpieces]
  simp only [hpieces]

theorem compute?_pieces {rows : List (Row R)} (hfits : Fits rows) :
    ((serversOf rows).mapM fun id => compute? (ofServer id rows)) =
      some ((serversOf rows).map fun id => computed (ofServer id rows)) :=
  mapM_eq_some_map fun _ hid => compute?_eq_some_iff.mpr ⟨hfits.ofServer hid, rfl⟩

theorem vectors_eq_flatMap (rows : List (Row R)) :
    (computed rows).aggregation.vectors =
      (serversOf rows).flatMap fun id => (computed (ofServer id rows)).aggregation.vectors := by
  refine List.map_eq_flatMap.trans (List.flatMap_congr fun id hid => ?_)
  rw [computed_ofServer hid]

theorem labels_eq_flatMap (rows : List (Row R)) :
    (computed rows).labels =
      (serversOf rows).flatMap fun id => (computed (ofServer id rows)).labels := by
  refine List.map_eq_flatMap.trans (List.flatMap_congr fun id hid => ?_)
  rw [computed_ofServer hid]

theorem divisionGuards_eq_sum (rows : List (Row R)) :
    (computed rows).aggregation.divisionGuards =
      ((serversOf rows).map fun id =>
        (computed (ofServer id rows)).aggregation.divisionGuards).sum := by
  have hguarded : (computed rows).aggregation.guarded =
      (serversOf rows).flatMap fun id => (computed (ofServer id rows)).aggregation.guarded := by
    show (serversOf rows).filter _ = _
    rw [← List.flatMap_singleton' (serversOf rows), List.filter_flatMap,
      List.flatMap_singleton']
    refine List.flatMap_congr fun id hid => ?_
    rw [computed_ofServer hid]
  rw [divisionGuards, hguarded, List.length_flatMap]
  rfl

theorem nullMetricRows_eq_sum (rows : List (Row R)) :
    (computed rows).aggregation.nullMetricRows =
      ((serversOf rows).map fun id =>
        (computed (ofServer id rows)).aggregation.nullMetricRows).sum :=
  countP_eq_sum _ rows

/-- **Computation can be partitioned by server.**  Where it succeeds on some rows it succeeds on
the rows of each of their servers alone.

* Alone, a server has one vector and one label, and has the same vector and label among all rows.
* The results for all rows are those of the servers alone, in ascending order of the servers;
  guarded divisions and rows without metrics add up.
* Rows in which every server has the same rows in the same order, however the rows of different
  servers are interleaved, have the same results.
* Rows in which one server has the same rows in the same order, whatever the rows of the others
  have become, have the same vector and label of this server. -/
theorem compute?_partition {rows : List (Row R)} {c : Computed R} (hc : compute? rows = some c) :
    (∀ id, (∃ row ∈ rows, row.serverId = id) →
      ∃ alone, compute? (ofServer id rows) = some alone ∧
        (∃ vector, alone.aggregation.vectors = [vector]) ∧ (∃ label, alone.labels = [label]) ∧
        (c.aggregation.vectors.filter fun v => decide (v.serverId = id)) =
          alone.aggregation.vectors ∧
        (c.labels.filter fun l => decide (l.serverId = id)) = alone.labels) ∧
      (∃ parts : List (Computed R),
        ((serversOf rows).mapM fun id => compute? (ofServer id rows)) = some parts ∧
          c.aggregation.vectors = parts.flatMap (fun part => part.aggregation.vectors) ∧
          c.labels = parts.flatMap Computed.labels ∧
          c.aggregation.divisionGuards =
            (parts.map fun part => part.aggregation.divisionGuards).sum ∧
          c.aggregation.nullMetricRows =
            (parts.map fun part => part.aggregation.nullMetricRows).sum) ∧
      (∀ rows', (∀ id, ofServer id rows' = ofServer id rows) → compute? rows' = some c) ∧
      ∀ rows' c' id, compute? rows' = some c' → ofServer id rows' = ofServer id rows →
        (c'.aggregation.vectors.filter fun v => decide (v.serverId = id)) =
            (c.aggregation.vectors.filter fun v => decide (v.serverId = id)) ∧
          (c'.labels.filter fun l => decide (l.serverId = id)) =
            (c.labels.filter fun l => decide (l.serverId = id)) := by
  obtain ⟨hfits, rfl⟩ := compute?_eq_some_iff.mp hc
  refine ⟨?_, ?_, ?_, ?_⟩
  · intro id hrow
    have hid : id ∈ serversOf rows := mem_serversOf.mpr hrow
    have hne := mem_serversOf_iff.mp hid
    refine ⟨computed (ofServer id rows), compute?_eq_some_iff.mpr ⟨hfits.ofServer hid, rfl⟩, ?_⟩
    rw [vectors_computed, labels_computed, if_pos hne, if_pos hne, computed_ofServer hid]
    exact ⟨⟨_, rfl⟩, ⟨_, rfl⟩, rfl, rfl⟩
  · refine ⟨_, compute?_pieces hfits, ?_, ?_, ?_, ?_⟩
    · rw [List.flatMap_map]
      exact vectors_eq_flatMap rows
    · rw [List.flatMap_map]
      exact labels_eq_flatMap rows
    · rw [List.map_map]
      exact divisionGuards_eq_sum rows
    · rw [List.map_map]
      exact nullMetricRows_eq_sum rows
  · intro rows' hpieces
    exact compute?_eq_some_iff.mpr
      ⟨fits_congr hpieces hfits, (computed_congr hpieces).symm⟩
  · intro rows' c' id hc' hpiece
    obtain ⟨-, rfl⟩ := compute?_eq_some_iff.mp hc'
    rw [vectors_computed, vectors_computed, labels_computed, labels_computed, hpiece]
    exact ⟨rfl, rfl⟩

/-- A row without metrics. -/
def sampleRow (requestId serverId : Int64) : Row Float :=
  Row.unmatched ⟨requestId, serverId, .earliest, 40, .failure⟩
    ⟨serverId, 100, none⟩

/-- Rows of the servers 7 and 8. -/
def sampleRows : List (Row Float) := [sampleRow 1 8, sampleRow 2 7, sampleRow 3 8]

/-- The same rows, interleaved in another way. -/
def interleavedRows : List (Row Float) := [sampleRow 1 8, sampleRow 3 8, sampleRow 2 7]

/-- The same rows of server 8, with other rows of server 7 for the same requests. -/
def reusedRows : List (Row Float) :=
  [sampleRow 1 7, sampleRow 1 8, sampleRow 3 7, sampleRow 3 8, sampleRow 3 7]

/-- The sample can be partitioned, interleaved in another way, and read for server 8 alone. -/
theorem compute?_partition_sampleRows :
    ∃ c, compute? sampleRows = some c ∧ compute? interleavedRows = some c ∧
      (∃ alone, compute? (ofServer 8 sampleRows) = some alone ∧
        (c.aggregation.vectors.filter fun v => decide (v.serverId = 8)) =
          alone.aggregation.vectors) ∧
      (∃ parts : List (Computed Float),
        ([7, 8].mapM fun id => compute? (ofServer id sampleRows)) = some parts ∧
          c.labels = parts.flatMap Computed.labels ∧
          (parts.map fun part => part.aggregation.nullMetricRows).sum = 3) ∧
      ∃ c', compute? reusedRows = some c' ∧
        (c'.labels.filter fun l => decide (l.serverId = 8)) =
          (c.labels.filter fun l => decide (l.serverId = 8)) := by
  have hc : compute? sampleRows = some (computed sampleRows) :=
    compute?_eq_some_iff.mpr ⟨by decide, rfl⟩
  have hc' : compute? reusedRows = some (computed reusedRows) :=
    compute?_eq_some_iff.mpr ⟨by decide, rfl⟩
  have hpieces : ∀ id, ofServer id interleavedRows = ofServer id sampleRows := by
    intro id
    by_cases hseven : (7 : Int64) = id
    · subst hseven
      rfl
    · by_cases height : (8 : Int64) = id
      · subst height
        rfl
      · simp [ofServer, interleavedRows, sampleRows, sampleRow, Row.unmatched, hseven, height]
  obtain ⟨halone, ⟨parts, hparts, -, hlabels, -, hnull⟩, hinterleaved, hothers⟩ :=
    compute?_partition hc
  obtain ⟨alone, halone, -, -, hvectors, -⟩ := halone 8 ⟨_, List.mem_cons_self, rfl⟩
  refine ⟨_, hc, hinterleaved _ hpieces, ⟨alone, halone, hvectors⟩,
    ⟨parts, hparts, hlabels, hnull.symm⟩, _, hc', (hothers _ _ 8 hc' rfl).2⟩

end FleetScore
