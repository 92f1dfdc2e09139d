import FleetScore.Proofs.Feature.RequestRows
import FleetScore.Proofs.Numeric.Counts
import FleetScore.Proofs.Pipeline.PerServer

/-!
# The ranges of a vector

Nothing is asked of the rows of a server: loads and response times may be infinite, negative or not
numbers, a snapshot may count fewer requests than failed, or a negative number of them.  Training
still relies on two features to be in their ranges, and `vector?_keepsRanges` says that they are.

* The *error rate* is a number from zero to one.  It is zero and guarded exactly if there are no
  connections, that is, if every row has a count and none of the counts is positive; and it is one
  as soon as there are as many failures as connections, however the two counts are rounded.
* The *response time* is a number that is not negative.  Of a single request with snapshots it is
  that request's own, however many snapshots there are.

The only condition is that the connections fit 64 bits, for otherwise there is no vector.

## Zeros

A response time of negative zero becomes zero.  The two are equal as doubles are compared, and every
other response time is kept as it is.
-/

namespace FleetScore

open Binary64

/-! ## 1.  One response time -/

namespace Binary64

/-- What is cut off at zero is a number that is not negative. -/
theorem zero_atMost_larger (x : Float) : Scalar.atMost 0.0 (Scalar.larger x 0.0) = true := by
  have hzero : Scalar.isNaN (0.0 : Float) = false := by decide
  have hself : Scalar.atMost (0.0 : Float) 0.0 = true := by decide
  cases hnumber : Scalar.isNaN x
  · cases hless : Scalar.less x 0.0
    · simp [Scalar.larger, Scalar.atMost, hnumber, hzero, hless]
    · simpa [Scalar.larger, hnumber, hzero, hless] using hself
  · simpa [Scalar.larger, hnumber] using hself

/-- What has no sign is not cut off. -/
theorem larger_zero {x : Float} (hsign : HasNoSign x) (hnumber : Scalar.isNaN x = false) :
    Scalar.larger x 0.0 = x := by
  have hzero : Scalar.isNaN (0.0 : Float) = false := by decide
  simp [Scalar.larger, hnumber, hzero, not_less_zero hsign]

/-- **What is finite and not below zero is not cut off**, but for the sign of a zero. -/
theorem larger_add_zero {x : Float} (hfinite : Scalar.isFinite x = true)
    (hle : Scalar.atMost 0.0 x = true) :
    Scalar.atMost (Scalar.larger (x + 0.0) 0.0) x = true ∧
      Scalar.atMost x (Scalar.larger (x + 0.0) 0.0) = true ∧
      (x ≠ -0.0 → Scalar.larger (x + 0.0) 0.0 = x) := by
  have hnumber := isNaN_of_isFinite hfinite
  obtain hsign | rfl := hasNoSign_or_eq_negativeZero hfinite hle
  · have hself : Scalar.atMost x x = true := atMost_iff.2 ⟨hnumber, hnumber, le_rfl⟩
    rw [add_zero_of_hasNoSign hfinite hsign, larger_zero hsign hnumber]
    exact ⟨hself, hself, fun _ => rfl⟩
  · exact ⟨by decide, by decide, fun hne => absurd rfl hne⟩

end Binary64

namespace Statistics

/-- **The percentile of one finite value** is that value, but for the sign of a zero. -/
theorem percentile_singleton {t : Float} (hfinite : Scalar.isFinite t = true) :
    percentile [t] 95.0 = some (t + 0.0) := by
  have hsorted : sorted [t] = [t] := by
    rw [sorted, List.filter_cons_of_pos (by rw [isNaN_of_isFinite hfinite]; rfl), List.filter_nil,
      List.mergeSort_singleton]
  have hrank : (rank 1 95.0 : Float) = 0.0 := by rfl
  have hlow : Scalar.floorNat (0.0 : Float) = 0 := by decide +kernel
  have hhigh : Scalar.ceilNat (0.0 : Float) = 0 := by decide +kernel
  have hfraction : (0.0 : Float) * (0.0 - Scalar.ofNat 0) = 0.0 := by rfl
  rw [percentile, hsorted]
  show interpolate [t] (rank 1 95.0) = _
  rw [hrank, interpolate, hlow, hhigh]
  show some (t + (t - t) * (0.0 - Scalar.ofNat 0)) = _
  rw [sub_self_of_isFinite hfinite, hfraction]

end Statistics

namespace Aggregation

section

variable {rows : List (Row Float)} {first : Row Float}
  (hfirst : rows.find? Row.hasMetrics = some first)
  (hsame : ∀ row ∈ rows, row.hasMetrics = true → row.requestId = first.requestId)

include hfirst hsame

theorem responseTimes_of_single : responseTimes rows = [first.responseTime] := by
  have hhead : (rows.filter Row.hasMetrics).head? = some first := by
    rw [List.head?_filter, hfirst]
  have hne : rows.filter Row.hasMetrics ≠ [] := by
    rintro hnil
    rw [hnil] at hhead
    cases hhead
  have hgroups : grouped Row.requestId (rows.filter Row.hasMetrics) =
      [(first.requestId, rows.filter Row.hasMetrics)] :=
    grouped_eq_singleton hne fun row hrow =>
      hsame row (List.mem_of_mem_filter hrow) (List.of_mem_filter hrow)
  rw [responseTimes, hgroups]
  simp [hhead]

/-- **The response time of a single request** is its own, but for the sign of a zero. -/
theorem responseP95_of_single (hfinite : Scalar.isFinite first.responseTime = true) :
    responseP95 rows = Scalar.larger (first.responseTime + 0.0) 0.0 := by
  rw [responseP95, responseTimes_of_single hfirst hsame]
  show Scalar.larger ((Statistics.percentile [first.responseTime] 95.0).getD 0.0) 0.0 = _
  rw [Statistics.percentile_singleton hfinite]
  rfl

end

/-! ## 2.  The error rate -/

section

variable (rows : List (Row Float))

theorem errorRate_of_idle (h : totalConnections rows = 0) : errorRate rows = ⟨0.0, true⟩ := by
  rw [errorRate, Statistics.guardedRatio, if_pos h]
  rfl

theorem errorRate_of_busy (h : totalConnections rows ≠ 0) :
    errorRate rows =
      ⟨Scalar.clamp (Scalar.ofNat (failures rows) / Scalar.ofNat (totalConnections rows)) 0.0 1.0,
        false⟩ := by
  rw [errorRate, Statistics.guardedRatio, if_neg h]
  rfl

theorem connections_eq_zero_iff {row : Row Float} :
    connections row = 0 ↔ ∃ count, row.requestCount = some count ∧ count ≤ 0 := by
  rw [connections]
  cases row.requestCount with
  | none => simp
  | some count => simp [Int64.le_iff_toInt_le]

/-- **There are no connections exactly if every row has a count and none is positive.** -/
theorem totalConnections_eq_zero_iff :
    totalConnections rows = 0 ↔
      ∀ row ∈ rows, ∃ count, row.requestCount = some count ∧ count ≤ 0 := by
  rw [totalConnections_eq_sum, List.sum_eq_zero_iff, List.forall_mem_map]
  exact forall₂_congr fun row _ => connections_eq_zero_iff

end

section

variable {rows : List (Row Float)} (hfits : totalConnections rows < Word.bound)

include hfits

/-- **The rate is a number from zero to one.** -/
theorem errorRate_mem_unit :
    Scalar.atMost 0.0 (errorRate rows).value = true ∧
      Scalar.atMost (errorRate rows).value 1.0 = true := by
  by_cases hidle : totalConnections rows = 0
  · rw [errorRate_of_idle rows hidle]
    decide
  · have hquotient := isNonnegative_quotient hidle hfits (failures rows)
    rw [errorRate_of_busy rows hidle, clamp_quotient]
    have hone : Scalar.isNaN (1.0 : Float) = false := by decide
    have hzero : Scalar.isNaN (0.0 : Float) = false := by decide
    split
    · decide
    · rename_i hless
      simp [Scalar.atMost, hone, hzero, hquotient.isNumber, not_less_zero hquotient.hasNoSign,
        Bool.eq_false_iff.2 hless]

theorem errorRate_eq_one (hbusy : totalConnections rows ≠ 0)
    (hle : totalConnections rows ≤ failures rows) : (errorRate rows).value = 1.0 := by
  rw [errorRate_of_busy rows hbusy]
  exact clamp_quotient_eq_one hbusy hfits hle

end

/-! ## 3.  The ranges -/

/-- What holds of the reduction of any rows.  The error rate is a number from zero to one, and
is guarded, and then zero, exactly if there are no connections.  The response time is a number
that is not below zero.  If all snapshots were found for one request, it equals the response
time of the first row with one, as long as that is finite and not below zero; the two are the
same double, unless that one is negative zero. -/
structure Reduced.KeepsRanges (rows : List (Row Float)) (r : Reduced Float) : Prop where
  isNaN_errorRate : Scalar.isNaN r.vector.errorRate = false
  zero_le_errorRate : Scalar.atMost 0.0 r.vector.errorRate = true
  errorRate_le_one : Scalar.atMost r.vector.errorRate 1.0 = true
  guarded_iff : r.guarded = true ↔ r.vector.activeConns = 0
  errorRate_of_guarded : r.guarded = true → r.vector.errorRate = 0.0
  activeConns_eq_zero_iff :
    r.vector.activeConns = 0 ↔ ∀ row ∈ rows, ∃ count, row.requestCount = some count ∧ count ≤ 0
  errorRate_of_failures :
    0 < r.vector.activeConns → r.vector.activeConns.toNat ≤ failures rows → r.vector.errorRate = 1.0
  isNaN_responseP95 : Scalar.isNaN r.vector.responseP95 = false
  zero_le_responseP95 : Scalar.atMost 0.0 r.vector.responseP95 = true
  responseP95_of_single : ∀ first, rows.find? Row.hasMetrics = some first →
    (∀ row ∈ rows, row.hasMetrics = true → row.requestId = first.requestId) →
    Scalar.isFinite first.responseTime = true → Scalar.atMost 0.0 first.responseTime = true →
    Scalar.atMost r.vector.responseP95 first.responseTime = true ∧
      Scalar.atMost first.responseTime r.vector.responseP95 = true ∧
      (first.responseTime ≠ -0.0 → r.vector.responseP95 = first.responseTime)

/-- **Vectors keep their ranges**: rows whose connections fit 64 bits have a vector, and whatever
else is in them, its error rate and its response time are in their ranges. -/
theorem vector?_keepsRanges (serverId : Int64) {rows : List (Row Float)}
    (hfits : totalConnections rows < Word.bound) :
    ∃ r, vector? serverId rows = some r ∧ r.KeepsRanges rows := by
  refine ⟨reduced serverId rows, by rw [vector?_eq, if_pos hfits], ?_⟩
  have hcount : (reduced serverId rows).vector.activeConns.toNat = totalConnections rows :=
    UInt64.toNat_ofNat_of_lt' hfits
  have hconns : (reduced serverId rows).vector.activeConns = 0 ↔ totalConnections rows = 0 := by
    rw [← hcount, ← UInt64.toNat_inj]
    rfl
  have hguarded : (reduced serverId rows).guarded = true ↔ totalConnections rows = 0 := by
    rw [guarded_reduced hfits, decide_eq_true_iff, hconns]
  obtain ⟨hlow, hhigh⟩ := errorRate_mem_unit hfits
  have hresponse := zero_atMost_larger
    ((Statistics.percentile (responseTimes rows) percentile).getD 0.0)
  exact {
    isNaN_errorRate := (atMost_iff.1 hlow).2.1
    zero_le_errorRate := hlow
    errorRate_le_one := hhigh
    guarded_iff := hguarded.trans hconns.symm
    errorRate_of_guarded := fun h => by
      show (errorRate rows).value = 0.0
      rw [errorRate_of_idle rows (hguarded.1 h)]
    activeConns_eq_zero_iff := hconns.trans (totalConnections_eq_zero_iff rows)
    errorRate_of_failures := fun hbusy hle =>
      errorRate_eq_one hfits (hcount ▸ (UInt64.lt_iff_toNat_lt.1 hbusy).ne') (hcount ▸ hle)
    isNaN_responseP95 := (atMost_iff.1 hresponse).2.1
    zero_le_responseP95 := hresponse
    responseP95_of_single := fun first hfirst hsame hfinite hle => by
      show Scalar.atMost (responseP95 rows) _ = true ∧ Scalar.atMost _ (responseP95 rows) = true ∧
        (_ → responseP95 rows = _)
      rw [responseP95_of_single hfirst hsame hfinite]
      exact larger_add_zero hfinite hle }

/-- The row of a failed request with one of its snapshots. -/
def crowdedRow (cpuUsage : Float) (requestCount : Int64) : Row Float :=
  .matched ⟨1, 7, .earliest, 250.5, .failure⟩ ⟨7, 100, none⟩
    ⟨7, .earliest, cpuUsage, 25, requestCount⟩

/-- A failed request whose response time is not a number, and one with two snapshots: an infinite
load, a negative count, and fewer connections than failures. -/
def crowdedRows : List (Row Float) :=
  [.unmatched ⟨2, 7, .earliest, 0.0 / 0.0, .failure⟩ ⟨7, 100, none⟩, crowdedRow 50 1,
    crowdedRow (1.0 / 0.0) (-3)]

/-- Three failures and two connections make a rate of one. -/
theorem vector?_keepsRanges_crowdedRows :
    totalConnections crowdedRows < Word.bound ∧
      ∃ r, vector? 7 crowdedRows = some r ∧ r.vector.errorRate = 1.0 ∧ r.guarded = false ∧
        r.vector.responseP95 = 250.5 := by
  have hfits : totalConnections crowdedRows < Word.bound := by decide
  obtain ⟨r, hr, hranges⟩ := vector?_keepsRanges 7 hfits
  have hreduced : r = reduced 7 crowdedRows := by
    rw [vector?_eq, if_pos hfits] at hr
    exact (Option.some.inj hr).symm
  subst hreduced
  have hrate := hranges.errorRate_of_failures (by decide) (by decide)
  have hguarded := mt hranges.guarded_iff.1 (by decide)
  have hresponse := hranges.responseP95_of_single (crowdedRow 50 1) rfl (by decide) (by decide)
    (by decide)
  have hsign : (250.5 : Float) ≠ -0.0 := fun h => absurd (congrArg Float.toBits h) (by decide)
  exact ⟨hfits, _, hr, hrate, Bool.eq_false_iff.2 hguarded, hresponse.2.2 hsign⟩

end Aggregation
end FleetScore
