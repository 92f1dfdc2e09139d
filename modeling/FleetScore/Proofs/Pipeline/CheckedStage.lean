import FleetScore.Proofs.Feature.RequestRows
import FleetScore.Proofs.Numeric.Ranks
import FleetScore.Proofs.Pipeline.Correspondence

/-!
# What can stop the computation of features and labels

Between rows and a training set many operations have no answer for some of their arguments.  A count
can grow beyond 64 bits, a position can lie outside a list, an interval can have its bounds in the
wrong order, a server can lack a label.  A program that meets one of these cases does not go on.

`Checked.stage` is the whole computation with all of these operations in it, and each of them may
stop it.  `Checked.stage_eq` says what becomes of that: only connections do, and where they do not
the result is what `compute?` and the pairing answer, which have none of these cases.  For every
other operation there is a reason.

* A count of rows is not greater than the number of rows (`Checked.count_eq`).
* The ranks of a percentile are positions of the sorted values (`Checked.percentile_eq`).  They are
  computed in doubles, and this is why there must be fewer than `2 ^ 53` rows.
* The bounds of intervals are constants in the right order.
* Labels are looked up after vectors and labels were found to be of the same servers
  (`Checked.align_eq`).

## Connections

Connections are added row after row, and the sum is checked after each row.  No row takes any away,
so the sum fits after each row if it fits at the end (`Checked.sumFrom_eq`).
-/

namespace FleetScore

open Aggregation

namespace Checked

/-! ## 1.  Operations that can stop -/

/-- Why a computation stopped: a count does not fit 64 bits, or would be less than zero, the
bounds of an interval are not in order, a list has no such position, or a server has no label. -/
inductive Stop where
  | overflow
  | underflow
  | bounds
  | position
  | label
  deriving DecidableEq, Repr

/-- Adds to a count. -/
def add (total n : Nat) : Except Stop Nat :=
  if total + n < Word.bound then .ok (total + n) else .error .overflow

/-- Takes from a count. -/
def sub (n m : Nat) : Except Stop Nat := if m ≤ n then .ok (n - m) else .error .underflow

/-- Adds up a list of counts from the left. -/
def sumFrom (start : Nat) (ns : List Nat) : Except Stop Nat := ns.foldlM add start

/-- Counts the members of a list with a property. -/
def count {α : Type} (p : α → Bool) (xs : List α) : Except Stop Nat :=
  sumFrom 0 (xs.map fun x => (p x).toNat)

/-- The member of a list at a position. -/
def get {α : Type} (xs : List α) (i : Nat) : Except Stop α :=
  match xs[i]? with
  | some x => .ok x
  | none => .error .position

/-- A double moved into an interval. -/
def clamp (x lo hi : Float) : Except Stop Float :=
  if Scalar.atMost lo hi then .ok (Scalar.clamp x lo hi) else .error .bounds

/-- A double as a position, once it is made whole: of 64 bits, and zero for what is negative or no
number. -/
def toPosition (whole : Float → Nat) (x : Float) : Nat :=
  if Scalar.isFinite x then min (whole x) (Word.bound - 1)
  else if Scalar.less 0.0 x then Word.bound - 1 else 0

/-! ## 2.  The computation -/

/-- The value of an ascending list at a rank, between its two neighbours. -/
def interpolate (order : List Float) (rank : Float) : Except Stop Float := do
  let low := toPosition Scalar.floorNat rank
  let below ← get order low
  let above ← get order (toPosition Scalar.ceilNat rank)
  .ok (below + (above - below) * (rank - Scalar.ofNat low))

/-- The percentile of a list. -/
def percentile (values : List Float) (p : Float) : Except Stop (Option Float) :=
  let order := Statistics.sorted values
  if order.isEmpty then .ok none
  else do
    let clamped ← clamp p 0.0 100.0
    let last ← sub order.length 1
    let value ← interpolate order (clamped / 100.0 * Scalar.ofNat last)
    .ok (some value)

/-- The error rate of a server. -/
def errorRate (failed connections : Nat) : Except Stop (Statistics.Ratio Float) :=
  let ratio := Statistics.guardedRatio (R := Float) failed connections
  if ratio.guarded then .ok ⟨0.0, true⟩
  else do
    let value ← clamp ratio.value 0.0 1.0
    .ok ⟨value, false⟩

/-- The vector of a server. -/
def reduce (serverId : Int64) (rows : List (Row Float)) : Except Stop (Reduced Float) := do
  let connections ← sumFrom 0 (rows.map connections)
  let failed ← count (fun row => row.status.failed) rows
  let rate ← errorRate failed connections
  let response ← percentile (responseTimes rows) Aggregation.percentile
  .ok {
    vector := {
      serverId := serverId
      cpuUsage := (Statistics.mean (rows.filterMap Row.cpuUsage)).getD 0.0
      memoryUsage := (Statistics.mean (rows.filterMap Row.memoryUsage)).getD 0.0
      activeConns := UInt64.ofNat connections
      errorRate := rate.value
      responseP95 := Scalar.larger (response.getD 0.0) 0.0
      capacity := (rows.head?.map Row.capacity).getD 0 }
    guarded := rate.guarded }

/-- The vectors of all servers. -/
def aggregate (rows : List (Row Float)) : Except Stop (Aggregation Float) := do
  let nullMetricRows ← count (fun row => !row.hasMetrics) rows
  let reduced ← (byServer rows).mapM fun group => reduce group.1 group.2
  let _ ← count Reduced.guarded reduced
  .ok {
    vectors := reduced.map Reduced.vector
    guarded := (reduced.filter Reduced.guarded).map fun r => r.vector.serverId
    nullMetricRows := nullMetricRows }

/-- A vector with the label of its server. -/
def pair (labels : List (Label Float)) (f : FeatureVector Float) : Except Stop (Example Float) :=
  match labels.find? fun l => decide (l.serverId = f.serverId) with
  | some l => .ok ⟨f, l.score⟩
  | none => .error .label

/-- Vectors with the labels of their servers, unless these are of other servers. -/
def align (features : List (FeatureVector Float)) (labels : List (Label Float)) :
    Except Stop (Except Failure (List (Example Float))) :=
  match Alignment.align features labels with
  | .error failure => .ok (.error failure)
  | .ok _ => do
      let examples ← features.mapM (pair labels)
      .ok (.ok examples)

/-- Features, labels, and the training set that is made of them. -/
def stage (rows : List (Row Float)) :
    Except Stop (Computed Float × Except Failure (TrainingSet Float)) := do
  let aggregation ← aggregate rows
  let labels := Label.scoreAll rows
  let examples ← align aggregation.vectors labels
  .ok (⟨aggregation, labels⟩, examples.map TrainingSet.ofExamples)

/-! ## 3.  Why the operations do not stop -/

/-- **Counts add up exactly if their sum fits**, whatever the sums on the way. -/
theorem sumFrom_eq {start : Nat} (hstart : start < Word.bound) (ns : List Nat) :
    sumFrom start ns =
      if start + ns.sum < Word.bound then .ok (start + ns.sum) else .error .overflow := by
  induction ns generalizing start with
  | nil =>
    rw [List.sum_nil, Nat.add_zero, if_pos hstart]
    rfl
  | cons n ns ih =>
    rw [sumFrom, List.foldlM_cons, add, List.sum_cons, ← Nat.add_assoc]
    by_cases hfits : start + n < Word.bound
    · rw [if_pos hfits]
      exact ih hfits
    · rw [if_neg hfits, if_neg (by omega)]
      rfl

theorem count_eq {α : Type} (p : α → Bool) {xs : List α} (h : xs.length < Word.bound) :
    count p xs = .ok (xs.countP p) := by
  have hsum : (xs.map fun x => (p x).toNat).sum = xs.countP p := by
    induction xs with
    | nil => rfl
    | cons x xs ih =>
      rw [List.map_cons, List.sum_cons, ih (by rw [List.length_cons] at h; omega),
        List.countP_cons]
      cases p x <;> simp [Nat.add_comm]
  have hle : xs.countP p ≤ xs.length := List.countP_le_length
  rw [count, sumFrom_eq (by decide), hsum, if_pos (by omega), Nat.zero_add]

theorem get_eq {α : Type} {xs : List α} {i : Nat} (h : i < xs.length) : get xs i = .ok xs[i] := by
  rw [get, List.getElem?_eq_getElem h]

theorem toPosition_eq {whole : Float → Nat} {x : Float} (hfinite : Scalar.isFinite x = true)
    (hfits : whole x < Word.bound) : toPosition whole x = whole x := by
  rw [toPosition, if_pos hfinite]
  omega

theorem interpolate_eq {order : List Float} {rank : Float} (h : order.length < Word.bound)
    (hfinite : Scalar.isFinite rank = true) (hlow : Scalar.floorNat rank < order.length)
    (hhigh : Scalar.ceilNat rank < order.length) :
    ∃ value, interpolate order rank = .ok value ∧
      Statistics.interpolate order rank = some value := by
  rw [interpolate, toPosition_eq hfinite (hlow.trans h), toPosition_eq hfinite (hhigh.trans h),
    get_eq hlow, get_eq hhigh, Statistics.interpolate, List.getElem?_eq_getElem hlow,
    List.getElem?_eq_getElem hhigh]
  exact ⟨_, rfl, rfl⟩

/-- **The percentile reads its values at positions that they have.** -/
theorem percentile_eq {values : List Float} (h : values.length < 2 ^ 53) :
    percentile values Aggregation.percentile =
      .ok (Statistics.percentile values Aggregation.percentile) := by
  have hlength : (Statistics.sorted values).length ≤ values.length := by
    rw [Statistics.sorted, List.length_mergeSort]
    exact List.length_filter_le _ _
  rw [percentile, Statistics.percentile]
  generalize Statistics.sorted values = order at hlength ⊢
  by_cases hempty : order = []
  · subst hempty
    rfl
  have hpos : 0 < order.length := List.length_pos_iff.mpr hempty
  have hbounds : Scalar.atMost (0.0 : Float) 100.0 = true := by decide
  have hword : order.length < Word.bound := (hlength.trans_lt h).trans (by decide)
  obtain ⟨hfinite, hlow, hhigh⟩ := Binary64.rank_spec hpos (hlength.trans_lt h)
  obtain ⟨value, hvalue, hvalue'⟩ := interpolate_eq hword hfinite hlow hhigh
  rw [if_neg (by simpa using hempty), clamp, if_pos hbounds, sub,
    if_pos (Nat.succ_le_of_lt hpos)]
  show (interpolate order (Statistics.rank order.length 95.0) >>= _) = _
  rw [hvalue]
  exact congrArg Except.ok hvalue'.symm

theorem errorRate_eq (rows : List (Row Float)) :
    errorRate (failures rows) (totalConnections rows) = .ok (Aggregation.errorRate rows) := by
  have hbounds : Scalar.atMost (0.0 : Float) 1.0 = true := by decide
  rw [errorRate, Aggregation.errorRate, clamp, if_pos hbounds]
  split <;> rfl

theorem length_ascending_le (ids : List Int64) : (ascending ids).length ≤ ids.length := by
  have hsubset : ascending ids ⊆ ids := fun _ hid => mem_ascending.mp hid
  exact (List.subperm_of_subset (nodup_ascending ids) hsubset).length_le

theorem length_responseTimes_le (rows : List (Row Float)) :
    (responseTimes rows).length ≤ rows.length := by
  calc (responseTimes rows).length
      ≤ (grouped Row.requestId (rows.filter Row.hasMetrics)).length :=
        List.length_filterMap_le _ _
    _ = (ascending ((rows.filter Row.hasMetrics).map Row.requestId)).length := List.length_map _
    _ ≤ ((rows.filter Row.hasMetrics).map Row.requestId).length := length_ascending_le _
    _ = (rows.filter Row.hasMetrics).length := List.length_map _
    _ ≤ rows.length := List.length_filter_le _ _

/-- **A vector is missing only if connections do not fit.** -/
theorem reduce_eq (serverId : Int64) {rows : List (Row Float)} (h : rows.length < 2 ^ 53) :
    reduce serverId rows =
      if totalConnections rows < Word.bound then .ok (reduced serverId rows)
      else .error .overflow := by
  have hword : rows.length < Word.bound := h.trans (by decide)
  have hresponse := percentile_eq ((length_responseTimes_le rows).trans_lt h)
  rw [reduce, sumFrom_eq (by decide), Nat.zero_add, ← totalConnections_eq_sum]
  by_cases hfits : totalConnections rows < Word.bound
  · rw [if_pos hfits, if_pos hfits, count_eq _ hword, hresponse]
    show (errorRate (failures rows) (totalConnections rows) >>= _) = _
    rw [errorRate_eq]
    rfl
  · rw [if_neg hfits, if_neg hfits]
    rfl

/-- What is computed member by member stops if one of them does, if all of them stop alike. -/
theorem mapM_eq {α β : Type} {f : α → Except Stop β} {p : α → Prop} [DecidablePred p] {g : α → β}
    {stop : Stop} {xs : List α}
    (h : ∀ x ∈ xs, f x = if p x then .ok (g x) else .error stop) :
    xs.mapM f = if ∀ x ∈ xs, p x then .ok (xs.map g) else .error stop := by
  induction xs with
  | nil =>
    rw [if_pos (by simp)]
    rfl
  | cons x xs ih =>
    rw [List.mapM_cons, h x List.mem_cons_self, ih fun y hy => h y (List.mem_cons_of_mem _ hy)]
    by_cases hx : p x
    · by_cases hxs : ∀ y ∈ xs, p y
      · rw [if_pos hx, if_pos hxs, if_pos (List.forall_mem_cons.mpr ⟨hx, hxs⟩)]
        rfl
      · rw [if_pos hx, if_neg hxs, if_neg fun hall => hxs (List.forall_mem_cons.mp hall).2]
        rfl
    · rw [if_neg hx, if_neg fun hall => hx (List.forall_mem_cons.mp hall).1]
      rfl

theorem mapM_eq_ok_map {α β : Type} {f : α → Except Stop β} {g : α → β} {xs : List α}
    (h : ∀ x ∈ xs, f x = .ok (g x)) : xs.mapM f = .ok (xs.map g) := by
  have hall : ∀ x ∈ xs, f x = if True then .ok (g x) else .error .label := by
    intro x hx
    rw [if_pos trivial, h x hx]
  rw [mapM_eq hall, if_pos fun _ _ => trivial]

/-- **Vectors are missing only if the connections of a server do not fit.** -/
theorem aggregate_eq {rows : List (Row Float)} (h : rows.length < 2 ^ 53) :
    aggregate rows =
      if Fits rows then .ok (computed rows).aggregation else .error .overflow := by
  have hword : rows.length < Word.bound := h.trans (by decide)
  have hservers : (serversOf rows).length ≤ rows.length := by
    have hle := length_ascending_le (rows.map Row.serverId)
    rwa [List.length_map] at hle
  have hreduce : ∀ id ∈ serversOf rows, reduce id (ofServer id rows) =
      if totalConnections (ofServer id rows) < Word.bound then .ok (reduced id (ofServer id rows))
      else .error .overflow :=
    fun id _ => reduce_eq id ((List.length_filter_le _ _).trans_lt h)
  rw [aggregate, count_eq _ hword, byServer_eq, List.mapM_map]
  show (((serversOf rows).mapM fun id => reduce id (ofServer id rows)) >>= _) = _
  rw [mapM_eq hreduce]
  show ((if Fits rows then _ else _) >>= _) = _
  by_cases hfits : Fits rows
  · rw [if_pos hfits, if_pos hfits]
    show (count Reduced.guarded ((serversOf rows).map _) >>= _) = _
    rw [count_eq _ (by rw [List.length_map]; omega)]
    have hids : ((fun r : Reduced Float => r.vector.serverId) ∘
        fun id => reduced id (ofServer id rows)) = id := rfl
    show Except.ok (Aggregation.mk _ _ _) = Except.ok (computed rows).aggregation
    rw [List.map_map, List.filter_map, List.map_map, hids, List.map_id]
    rfl
  · rw [if_neg hfits, if_neg hfits]
    rfl

/-- **Every label that is looked up is there.** -/
theorem align_eq (rows : List (Row Float)) :
    align (computed rows).aggregation.vectors (computed rows).labels =
      .ok (.ok (examplesOf rows)) := by
  have hpair : ∀ id ∈ serversOf rows,
      pair (computed rows).labels (reduced id (ofServer id rows)).vector =
        .ok ⟨(reduced id (ofServer id rows)).vector, Label.scoreGroup (ofServer id rows)⟩ := by
    intro id hid
    have hlabel : (computed rows).labels.find? (fun l => decide (l.serverId = id)) =
        some ⟨id, Label.scoreGroup (ofServer id rows)⟩ :=
      Alignment.find?_label hid
    rw [pair, show (reduced id (ofServer id rows)).vector.serverId = id from rfl, hlabel]
  have hpairs : (computed rows).aggregation.vectors.mapM (pair (computed rows).labels) =
      .ok (examplesOf rows) := by
    show ((serversOf rows).map fun id => (reduced id (ofServer id rows)).vector).mapM _ = _
    rw [List.mapM_map]
    exact mapM_eq_ok_map hpair
  rw [align, align_computed]
  show ((computed rows).aggregation.vectors.mapM (pair (computed rows).labels) >>= _) = _
  rw [hpairs]
  rfl

theorem scoreAll_eq (rows : List (Row Float)) : Label.scoreAll rows = (computed rows).labels := by
  rw [Label.scoreAll, byServer_eq, List.map_map]
  rfl

/-- **The whole computation stops only if the connections of a server do not fit**, and otherwise
it answers what is computed and paired without operations that can stop. -/
theorem stage_eq {rows : List (Row Float)} (h : rows.length < 2 ^ 53) :
    stage rows =
      if Fits rows then .ok (computed rows, .ok (.ofExamples (examplesOf rows)))
      else .error .overflow := by
  rw [stage, aggregate_eq h, scoreAll_eq]
  by_cases hfits : Fits rows
  · rw [if_pos hfits, if_pos hfits]
    show (align (computed rows).aggregation.vectors (computed rows).labels >>= _) = _
    rw [align_eq]
    rfl
  · rw [if_neg hfits, if_neg hfits]
    rfl

theorem not_fits_iff (rows : List (Row Float)) :
    ¬ Fits rows ↔ ∃ id, 2 ^ 64 - 1 < ((ofServer id rows).map connections).sum := by
  have hbound : ∀ n, Word.bound ≤ n ↔ 2 ^ 64 - 1 < n := by
    intro n
    show 18446744073709551616 ≤ n ↔ _
    omega
  constructor
  · intro hfits
    rw [Fits] at hfits
    push Not at hfits
    obtain ⟨id, -, hid⟩ := hfits
    rw [totalConnections_eq_sum] at hid
    exact ⟨id, (hbound _).mp hid⟩
  · rintro ⟨id, hid⟩ hfits
    by_cases hmem : id ∈ serversOf rows
    · have hlt := hfits id hmem
      rw [totalConnections_eq_sum] at hlt
      exact absurd ((hbound _).mpr hid) (Nat.not_le.mpr hlt)
    · have hnone : ofServer id rows = [] := by
        refine List.filter_eq_nil_iff.mpr fun row hrow hserver => hmem ?_
        exact mem_serversOf.mpr ⟨row, hrow, of_decide_eq_true hserver⟩
      rw [hnone] at hid
      exact absurd hid (by decide)

/-- **Only connections stop the computation of features and labels.**  Let there be fewer than
`2 ^ 53` rows, with any measurements and any counts.

* The computation stops exactly if the connections of a server, added up over its rows, are more
  than 64 bits hold; and if it stops, this is the reason.
* That is when `compute?` has no answer.  Otherwise it answers the same, and the training set is
  that of its vectors, paired with its labels.
* The connections in a vector are then the exact sum over the rows of the server. -/
theorem stage_stops_iff {rows : List (Row Float)} (h : rows.length < 2 ^ 53) :
    ((∃ stop, stage rows = .error stop) ↔
        ∃ id, 2 ^ 64 - 1 < ((ofServer id rows).map connections).sum) ∧
      (∀ stop, stage rows = .error stop → stop = .overflow) ∧
      (compute? rows = none ↔ ∃ stop, stage rows = .error stop) ∧
      ∀ c set, stage rows = .ok (c, set) →
        compute? rows = some c ∧
          (∃ examples, Alignment.align c.aggregation.vectors c.labels = .ok examples ∧
            set = .ok (.ofExamples examples)) ∧
          ∀ v ∈ c.aggregation.vectors,
            v.activeConns.toNat = ((ofServer v.serverId rows).map connections).sum := by
  rw [← not_fits_iff, stage_eq h, compute?_eq]
  by_cases hfits : Fits rows
  · rw [if_pos hfits, if_pos hfits]
    refine ⟨iff_of_false ?_ (not_not.mpr hfits), ?_, iff_of_false ?_ ?_, ?_⟩
    · rintro ⟨stop, hstop⟩
      cases hstop
    · intro stop hstop
      cases hstop
    · exact Option.some_ne_none _
    · rintro ⟨stop, hstop⟩
      cases hstop
    · intro c set hset
      obtain ⟨rfl, rfl⟩ := Prod.mk.inj (Except.ok.inj hset)
      refine ⟨rfl, ⟨examplesOf rows, align_computed rows, rfl⟩, ?_⟩
      intro v hv
      obtain ⟨id, hid, rfl⟩ := List.mem_map.mp hv
      show (UInt64.ofNat (totalConnections (ofServer id rows))).toNat =
        ((ofServer id rows).map connections).sum
      rw [UInt64.toNat_ofNat_of_lt' (hfits id hid), totalConnections_eq_sum]
  · rw [if_neg hfits, if_neg hfits]
    refine ⟨iff_of_true ⟨_, rfl⟩ hfits, ?_, iff_of_true rfl ⟨_, rfl⟩, ?_⟩
    · intro stop hstop
      exact (Except.error.inj hstop).symm
    · intro c set hset
      cases hset

/-- A row with measurements that are no numbers, and some connections. -/
def wildRow (requestCount : Option Int64) : Row Float where
  requestId := 1
  serverId := 1
  timestamp := Instant.earliest
  responseTime := -Scalar.infinity
  status := .failure
  capacity := -1
  weight := none
  metricTimestamp := some Instant.earliest
  cpuUsage := some (0.0 / 0.0)
  memoryUsage := some Scalar.infinity
  requestCount := requestCount

/-- Rows with exactly as many connections as 64 bits hold. -/
def brimfulRows : List (Row Float) :=
  [wildRow (some Int64.maxValue), wildRow (some (-5)), wildRow none, wildRow (some Int64.maxValue)]

/-- The last of the connections that 64 bits hold does not stop the computation, and one more
does. -/
theorem stage_stops_iff_brimfulRows :
    (∃ c set, stage brimfulRows = .ok (c, .ok set) ∧
      ∀ v ∈ c.aggregation.vectors, v.activeConns.toNat = 2 ^ 64 - 1) ∧
      stage (wildRow none :: brimfulRows) = .error .overflow := by
  constructor
  · have hlength : brimfulRows.length < 2 ^ 53 := by decide
    obtain ⟨-, -, hnone, hok⟩ := stage_stops_iff hlength
    have hsome : compute? brimfulRows ≠ none := by
      rw [compute?_eq, if_pos (by decide)]
      exact Option.some_ne_none _
    rcases hstage : stage brimfulRows with stop | ⟨c, set⟩
    · exact absurd (hnone.mpr ⟨stop, hstage⟩) hsome
    · obtain ⟨hcompute, ⟨examples, -, rfl⟩, hconnections⟩ := hok c set hstage
      refine ⟨c, _, rfl, fun v hv => ?_⟩
      obtain ⟨-, rfl⟩ := compute?_eq_some_iff.mp hcompute
      have hserver : v.serverId = 1 := by
        have hmem : v.serverId ∈ serversOf brimfulRows := by
          rw [← map_serverId_vectors]
          exact List.mem_map_of_mem hv
        rwa [show serversOf brimfulRows = [1] by decide, List.mem_singleton] at hmem
      rw [hconnections v hv, hserver]
      decide
  · have hlength : (wildRow none :: brimfulRows).length < 2 ^ 53 := by decide
    obtain ⟨hstops, hoverflow, -⟩ := stage_stops_iff hlength
    obtain ⟨stop, hstop⟩ := hstops.mpr ⟨1, by decide⟩
    rw [hstop, hoverflow stop hstop]

end Checked
end FleetScore
