import FleetScore.Proofs.Label.RequestWeights
import FleetScore.Proofs.Pipeline.RawEvents

/-!
# The order of the rows

Some rules take what they need from the first row they see: the capacity of a server, the response
time of a request, the status of a request.  In any order of the rows some row is the first, so the
rules are only as good as the agreement between the rows.  `IsConsistent` says what has to agree:
the rows of a request of a server have one response time and one status, and the rows of a server
have one capacity.

Rows of a store are of this kind if no two requests of a server share their identifier
(`isConsistent_joined`), because a row takes the three from its request and from the record of its
server.

`compute?_perm` is the main result: rows that agree may be reordered.  There are two kinds of
features here.

* Counts, percentiles and what is taken from the first row are the same in any arithmetic.  Response
  times are listed by request, in ascending order of the identifiers, so that they come in one order
  however the rows do (`responseTimes_eq_of_perm`).
* Means are sums, and a sum of doubles depends on the order in which it is added up.  Loads and
  labels are the same where numbers are not rounded.
-/

namespace FleetScore

open Aggregation

/-! ## 1.  Lists in another order -/

section

variable {α β κ : Type} {xs ys : List α} (hperm : ys.Perm xs)

include hperm

theorem map_head?_eq_of_perm {f : α → β} (hagree : ∀ x ∈ xs, ∀ y ∈ xs, f x = f y) :
    ys.head?.map f = xs.head?.map f := by
  cases hy : ys.head? with
  | none =>
    obtain rfl : ys = [] := List.head?_eq_none_iff.mp hy
    rw [← hperm.nil_eq]
    rfl
  | some y =>
    have hmem : y ∈ xs := hperm.mem_iff.mp (List.mem_of_mem_head? hy)
    obtain ⟨x, hx⟩ : ∃ x, xs.head? = some x := by
      rw [← Option.isSome_iff_exists, List.isSome_head?]
      exact List.ne_nil_of_mem hmem
    rw [hx, Option.map_some, Option.map_some, hagree y hmem x (List.mem_of_mem_head? hx)]

/-- **What is asked of the groups is answered the same** if it is for each group. -/
theorem filterMap_grouped_eq_of_perm [DecidableEq κ] [LT κ] [DecidableLT κ]
    [IsStrictTotalOrder κ (· < ·)] (key : α → κ) (answer : List α → Option β)
    (hanswer : ∀ k zs, zs.Perm (xs.filter fun x => decide (key x = k)) →
      answer zs = answer (xs.filter fun x => decide (key x = k))) :
    ((grouped key ys).filterMap fun group => answer group.2) =
      (grouped key xs).filterMap fun group => answer group.2 := by
  have hkeys : ascending (ys.map key) = ascending (xs.map key) :=
    ascending_congr fun _ => (hperm.map key).mem_iff
  rw [grouped, grouped, hkeys, List.filterMap_map, List.filterMap_map]
  refine List.filterMap_congr fun k _ => ?_
  exact hanswer k _ (hperm.filter _)

end

/-! ## 2.  Rows that agree -/

variable {R : Type}

/-- Whether rows agree on what is taken from the first of them: those of a request of a server
on its response time and its status, and those of a server on its capacity. -/
structure IsConsistent (rows : List (Row R)) : Prop where
  responseTime : ∀ a ∈ rows, ∀ b ∈ rows, a.serverId = b.serverId → a.requestId = b.requestId →
    a.responseTime = b.responseTime
  status : ∀ a ∈ rows, ∀ b ∈ rows, a.serverId = b.serverId → a.requestId = b.requestId →
    a.status = b.status
  capacity : ∀ a ∈ rows, ∀ b ∈ rows, a.serverId = b.serverId → a.capacity = b.capacity

theorem MemoryStore.exists_rowOf_of_mem_joined {s : MemoryStore R} {row : Row R}
    (hrow : row ∈ s.joined.rows) :
    ∃ r ∈ s.recent, ∃ server m,
      Join.lastRecord? s.servers r.serverId = some server ∧ row = Join.rowOf r server m := by
  rw [joined_rows] at hrow
  obtain ⟨r, hr, hrow⟩ := List.mem_flatMap.mp hrow
  rw [Join.replacement] at hrow
  split at hrow
  · exact absurd hrow List.not_mem_nil
  · rename_i server hrecord
    obtain ⟨m, rfl⟩ := exists_of_mem_rowsOf hrow
    exact ⟨r, List.mem_mergeSort.mp hr, server, m, hrecord, rfl⟩

/-- **Rows of a store agree** if no two recent requests of a server share their identifier. -/
theorem MemoryStore.isConsistent_joined {s : MemoryStore R}
    (hnodup : (s.recent.map fun r => (r.serverId, r.requestId)).Nodup) :
    IsConsistent s.joined.rows := by
  have hrequest : ∀ a ∈ s.joined.rows, ∀ b ∈ s.joined.rows, a.serverId = b.serverId →
      a.requestId = b.requestId → a.responseTime = b.responseTime ∧ a.status = b.status := by
    intro a ha b hb hserver hid
    obtain ⟨r, hr, _, _, -, rfl⟩ := exists_rowOf_of_mem_joined ha
    obtain ⟨r', hr', _, _, -, rfl⟩ := exists_rowOf_of_mem_joined hb
    obtain rfl : r = r' := List.inj_on_of_nodup_map hnodup hr hr' (Prod.ext hserver hid)
    exact ⟨rfl, rfl⟩
  refine ⟨fun a ha b hb hserver hid => (hrequest a ha b hb hserver hid).1,
    fun a ha b hb hserver hid => (hrequest a ha b hb hserver hid).2, fun a ha b hb hserver => ?_⟩
  obtain ⟨r, -, server, _, hrecord, rfl⟩ := exists_rowOf_of_mem_joined ha
  obtain ⟨r', -, server', _, hrecord', rfl⟩ := exists_rowOf_of_mem_joined hb
  have hsame : r.serverId = r'.serverId := hserver
  rw [hsame, hrecord'] at hrecord
  obtain rfl := Option.some.inj hrecord
  rfl

/-- Whether rows of one server agree, all on its capacity, and those of a request on its
response time and its status. -/
structure AreAlike (rows : List (Row R)) : Prop where
  request : ∀ a ∈ rows, ∀ b ∈ rows, a.requestId = b.requestId →
    (a.responseTime, a.status) = (b.responseTime, b.status)
  capacity : ∀ a ∈ rows, ∀ b ∈ rows, a.capacity = b.capacity

theorem IsConsistent.areAlike {rows : List (Row R)} (h : IsConsistent rows) (id : Int64) :
    AreAlike (ofServer id rows) where
  request a ha b hb hid := by
    obtain ⟨ha, hserver⟩ := mem_ofServer.mp ha
    obtain ⟨hb, hserver'⟩ := mem_ofServer.mp hb
    have hsame := hserver.trans hserver'.symm
    exact Prod.ext (h.responseTime a ha b hb hsame hid) (h.status a ha b hb hsame hid)
  capacity a ha b hb := by
    obtain ⟨ha, hserver⟩ := mem_ofServer.mp ha
    obtain ⟨hb, hserver'⟩ := mem_ofServer.mp hb
    exact h.capacity a ha b hb (hserver.trans hserver'.symm)

theorem AreAlike.filter {rows : List (Row R)} (h : AreAlike rows) (p : Row R → Bool) :
    AreAlike (rows.filter p) where
  request a ha b hb := h.request a (List.mem_of_mem_filter ha) b (List.mem_of_mem_filter hb)
  capacity a ha b hb := h.capacity a (List.mem_of_mem_filter ha) b (List.mem_of_mem_filter hb)

theorem AreAlike.group {rows : List (Row R)} (h : AreAlike rows) (requestId : Int64) :
    ∀ a ∈ rows.filter (fun row => decide (row.requestId = requestId)),
      ∀ b ∈ rows.filter (fun row => decide (row.requestId = requestId)),
        (a.responseTime, a.status) = (b.responseTime, b.status) := by
  intro a ha b hb
  obtain ⟨ha, hid⟩ := List.mem_filter.mp ha
  obtain ⟨hb, hid'⟩ := List.mem_filter.mp hb
  exact h.request a ha b hb ((of_decide_eq_true hid).trans (of_decide_eq_true hid').symm)

/-! ## 3.  One server, in any arithmetic -/

/-- Whether two vectors differ in their loads at most. -/
structure FeatureVector.SameButLoads (v v' : FeatureVector R) : Prop where
  serverId : v'.serverId = v.serverId
  activeConns : v'.activeConns = v.activeConns
  errorRate : v'.errorRate = v.errorRate
  responseP95 : v'.responseP95 = v.responseP95
  capacity : v'.capacity = v.capacity

theorem FeatureVector.SameButLoads.eq {v v' : FeatureVector R} (h : v.SameButLoads v')
    (hcpu : v'.cpuUsage = v.cpuUsage) (hmemory : v'.memoryUsage = v.memoryUsage) : v' = v := by
  obtain ⟨hserverId, hconns, hrate, htime, hcapacity⟩ := h
  cases v
  cases v'
  exact (FeatureVector.mk.injEq ..).mpr
    ⟨hserverId, hcpu, hmemory, hconns, hrate, htime, hcapacity⟩

section

variable {rows rows' : List (Row R)} (hperm : rows'.Perm rows)

include hperm

theorem totalConnections_eq_of_perm : totalConnections rows' = totalConnections rows := by
  rw [totalConnections_eq_sum, totalConnections_eq_sum]
  exact (hperm.map connections).sum_eq

theorem errorRate_eq_of_perm [Scalar R] :
    (errorRate rows' : Statistics.Ratio R) = errorRate rows := by
  have hfailures : failures rows' = failures rows := hperm.countP_eq _
  rw [errorRate, errorRate, hfailures, totalConnections_eq_of_perm hperm]

variable (halike : AreAlike rows)

include halike

/-- **Response times are listed in one order**, however the rows are. -/
theorem responseTimes_eq_of_perm : responseTimes rows' = responseTimes rows := by
  rw [responseTimes, responseTimes]
  refine filterMap_grouped_eq_of_perm (hperm.filter _) Row.requestId
    (fun group => group.head?.map Row.responseTime) fun id group hgroup => ?_
  refine map_head?_eq_of_perm hgroup fun a ha b hb => ?_
  exact congrArg Prod.fst ((halike.filter Row.hasMetrics).group id a ha b hb)

variable [Scalar R]

/-- **Reordering the rows of a server changes nothing but its loads.** -/
theorem reduced_sameButLoads (id : Int64) :
    (reduced id rows).vector.SameButLoads (reduced id rows').vector where
  serverId := rfl
  activeConns := congrArg UInt64.ofNat (totalConnections_eq_of_perm hperm)
  errorRate := congrArg Statistics.Ratio.value (errorRate_eq_of_perm hperm)
  responseP95 := by
    show responseP95 rows' = responseP95 rows
    rw [responseP95, responseP95, responseTimes_eq_of_perm hperm halike]
  capacity := congrArg (Option.getD · 0) (map_head?_eq_of_perm hperm halike.capacity)

end

/-! ## 4.  One server, in exact arithmetic -/

/-- A score takes the response time and the status from the first row, and nothing else. -/
theorem scoreRows?_eq_bind [Scalar R] (rows : List (Row R)) :
    Label.scoreRows? rows =
      (rows.head?.map fun row => (row.responseTime, row.status)).bind fun first =>
        (Statistics.mean (rows.filterMap Row.cpuUsage)).map fun load =>
          Label.scoreRequest first.1 load first.2.failed := by
  cases rows with
  | nil => rfl
  | cons row rows =>
    cases hmean : Statistics.mean ((row :: rows).filterMap Row.cpuUsage) <;>
      simp [Label.scoreRows?, hmean]

section

variable {K : Type} [Field K] [LinearOrder K] [FloorSemiring K] [HasRoot K]
variable {rows rows' : List (Row (Exact K))} (hperm : rows'.Perm rows) (halike : AreAlike rows)

include hperm halike

/-- **The scores of requests are the same**, and they are listed in one order. -/
theorem requestScores_eq_of_perm : Label.requestScores rows' = Label.requestScores rows := by
  rw [Label.requestScores, Label.requestScores]
  refine filterMap_grouped_eq_of_perm hperm Row.requestId Label.scoreRows?
    fun id group hgroup => ?_
  have hfirst := map_head?_eq_of_perm (f := fun row => (row.responseTime, row.status)) hgroup
    (halike.group id)
  have hload := Exact.mean_eq_of_perm (hgroup.filterMap Row.cpuUsage)
  rw [scoreRows?_eq_bind, scoreRows?_eq_bind, hfirst, hload]

theorem scoreGroup_eq_of_perm : Label.scoreGroup rows' = Label.scoreGroup rows := by
  rw [Label.scoreGroup, Label.scoreGroup, requestScores_eq_of_perm hperm halike]

/-- **Reordering the rows of a server changes nothing**, its loads included. -/
theorem reduced_eq_of_perm (id : Int64) :
    (reduced id rows').vector = (reduced id rows).vector := by
  have hcpu := Exact.mean_eq_of_perm (hperm.filterMap Row.cpuUsage)
  have hmemory := Exact.mean_eq_of_perm (hperm.filterMap Row.memoryUsage)
  exact (reduced_sameButLoads hperm halike id).eq (congrArg (Option.getD · 0.0) hcpu)
    (congrArg (Option.getD · 0.0) hmemory)

end

/-! ## 5.  All servers -/

/-- Whether two results differ in loads and in labels at most. -/
structure Computed.SameButMeans (c c' : Computed R) : Prop where
  vectors : List.Forall₂ FeatureVector.SameButLoads c.aggregation.vectors c'.aggregation.vectors
  labels : c'.labels.map Label.serverId = c.labels.map Label.serverId
  guarded : c'.aggregation.guarded = c.aggregation.guarded
  divisionGuards : c'.aggregation.divisionGuards = c.aggregation.divisionGuards
  nullMetricRows : c'.aggregation.nullMetricRows = c.aggregation.nullMetricRows

section

variable {rows rows' : List (Row R)} (hperm : rows'.Perm rows)

include hperm

theorem serversOf_eq_of_perm : serversOf rows' = serversOf rows :=
  ascending_congr fun _ => (hperm.map Row.serverId).mem_iff

theorem fits_of_perm (hfits : Fits rows) : Fits rows' := by
  intro id hid
  rw [serversOf_eq_of_perm hperm] at hid
  rw [ofServer, totalConnections_eq_of_perm (hperm.filter _)]
  exact hfits id hid

/-- The guarded divisions are the same, whether or not the rows agree. -/
theorem guarded_eq_of_perm [Scalar R] :
    (computed rows').aggregation.guarded = (computed rows).aggregation.guarded := by
  show ((serversOf rows').filter fun id => (errorRate (ofServer id rows')).guarded) =
    (serversOf rows).filter fun id => (errorRate (ofServer id rows)).guarded
  rw [serversOf_eq_of_perm hperm]
  refine List.filter_congr fun id _ => ?_
  rw [ofServer, errorRate_eq_of_perm (hperm.filter _), ← ofServer]

/-- **Reordering rows that agree changes nothing but means.** -/
theorem computed_sameButMeans [Scalar R] (h : IsConsistent rows) :
    (computed rows).SameButMeans (computed rows') where
  vectors := by
    rw [computed, computed, serversOf_eq_of_perm hperm, List.forall₂_map_left_iff,
      List.forall₂_map_right_iff, List.forall₂_same]
    exact fun id _ => reduced_sameButLoads (hperm.filter _) (h.areAlike id) id
  labels := by
    rw [map_serverId_labels, map_serverId_labels, serversOf_eq_of_perm hperm]
  guarded := guarded_eq_of_perm hperm
  divisionGuards := congrArg List.length (guarded_eq_of_perm hperm)
  nullMetricRows := hperm.countP_eq _

end

/-- **Reordering rows that agree changes nothing at all** in exact arithmetic. -/
theorem computed_eq_of_perm {K : Type} [Field K] [LinearOrder K] [FloorSemiring K] [HasRoot K]
    {rows rows' : List (Row (Exact K))} (hperm : rows'.Perm rows) (h : IsConsistent rows) :
    computed rows' = computed rows := by
  obtain ⟨-, -, hguarded, -, hnull⟩ := computed_sameButMeans hperm h
  have hvectors : (computed rows').aggregation.vectors = (computed rows).aggregation.vectors := by
    rw [computed, computed, serversOf_eq_of_perm hperm]
    exact List.map_congr_left fun id _ =>
      reduced_eq_of_perm (hperm.filter _) (h.areAlike id) id
  have hlabels : (computed rows').labels = (computed rows).labels := by
    rw [computed, computed, serversOf_eq_of_perm hperm]
    refine List.map_congr_left fun id _ => ?_
    rw [ofServer, scoreGroup_eq_of_perm (hperm.filter _) (h.areAlike id), ← ofServer]
  exact (Computed.mk.injEq ..).mpr
    ⟨(Aggregation.mk.injEq ..).mpr ⟨hvectors, hguarded, hnull⟩, hlabels⟩

/-- **The order of rows does not matter** where they agree on what is taken from the first of them
and their connections fit.  In any arithmetic both orders have a result, and the two differ in loads
and labels at most.  In exact arithmetic they are one result. -/
theorem compute?_perm :
    (∀ (R : Type) [Scalar R] (rows rows' : List (Row R)), IsConsistent rows → rows'.Perm rows →
      Fits rows → ∃ c c', compute? rows = some c ∧ compute? rows' = some c' ∧ c.SameButMeans c') ∧
    ∀ (K : Type) [Field K] [LinearOrder K] [FloorSemiring K] [HasRoot K]
      (rows rows' : List (Row (Exact K))), IsConsistent rows → rows'.Perm rows → Fits rows →
      ∃ c, compute? rows = some c ∧ compute? rows' = some c := by
  constructor
  · intro R _ rows rows' h hperm hfits
    exact ⟨computed rows, computed rows', compute?_eq_some_iff.mpr ⟨hfits, rfl⟩,
      compute?_eq_some_iff.mpr ⟨fits_of_perm hperm hfits, rfl⟩, computed_sameButMeans hperm h⟩
  · intro K _ _ _ _ rows rows' h hperm hfits
    exact ⟨computed rows, compute?_eq_some_iff.mpr ⟨hfits, rfl⟩,
      compute?_eq_some_iff.mpr ⟨fits_of_perm hperm hfits, (computed_eq_of_perm hperm h).symm⟩⟩

/-- A row of a request that took 100 ms, or of one that took 300 ms and failed. -/
def agreeingRow {R : Type} [Scalar R] (serverId requestId : Int64) (load : R) : Row R :=
  .matched
    (if requestId = 1 then ⟨1, serverId, .earliest, 100.0, .success⟩
    else ⟨requestId, serverId, .earliest, 300.0, .failure⟩)
    ⟨serverId, if serverId = 7 then 100 else 50, none⟩ ⟨serverId, .earliest, load, 25.0, 3⟩

/-- A server with three rows of two requests, and a row of another server between them. -/
def agreeingRows (R : Type) [Scalar R] : List (Row R) :=
  [agreeingRow 7 1 0.1, agreeingRow 8 1 0.5, agreeingRow 7 2 0.2, agreeingRow 7 1 0.3]

theorem isConsistent_agreeingRows (R : Type) [Scalar R] : IsConsistent (agreeingRows R) := by
  constructor <;> simp [agreeingRows, agreeingRow, Row.matched, Row.unmatched]

/-- Backwards the rows have the same result in exact arithmetic.  On doubles they have one that
differs in means at most, and the mean load of the first server does differ. -/
theorem compute?_perm_agreeingRows :
    (∃ c c', compute? (agreeingRows Float) = some c ∧
      compute? (agreeingRows Float).reverse = some c' ∧ c.SameButMeans c' ∧
      c'.aggregation.vectors.map FeatureVector.cpuUsage ≠
        c.aggregation.vectors.map FeatureVector.cpuUsage) ∧
    ∃ c, compute? (agreeingRows (Exact ℚ)) = some c ∧
      compute? (agreeingRows (Exact ℚ)).reverse = some c := by
  obtain ⟨hdoubles, hexact⟩ := compute?_perm
  constructor
  · obtain ⟨c, c', hc, hc', hsame⟩ := hdoubles Float (agreeingRows Float) _
      (isConsistent_agreeingRows Float) (List.reverse_perm _) (by decide)
    refine ⟨c, c', hc, hc', hsame, ?_⟩
    rw [(compute?_eq_some_iff.mp hc).2, (compute?_eq_some_iff.mp hc').2]
    decide +kernel
  · exact hexact ℚ (agreeingRows (Exact ℚ)) _ (isConsistent_agreeingRows _)
      (List.reverse_perm _) (by decide)

end FleetScore
