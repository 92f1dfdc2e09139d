import FleetScore.Store.Record
import FleetScore.Feature.Vector
import FleetScore.Numeric.Statistics
import FleetScore.Telemetry.Event

/-!
# From rows to feature vectors

The rows of one server are reduced to its feature vector, one rule for each
feature.

* Processor and memory load are means over the rows that carry them.
* The connections are the sum of the request counts; a row without one counts as
  one connection, and a negative count as none.
* The error rate is the number of failed rows by the number of connections, at most
  one.  Without connections it is zero, and the guard is noted.
* The response time is the 95th percentile over the *requests* that a snapshot was
  found for: a request that matched several snapshots counts once.
* The capacity is that of the first row.

What has no defined value is zero, so that a vector never carries an absent value
into training.  A sum of connections that does not fit 64 bits has no vector at
all: `vector?` is `none`, and that is the only way it can be.

Servers do not see each other's rows.  `aggregate?` groups the rows by server and
reduces each group on its own.
-/

namespace FleetScore
namespace Aggregation

variable {R : Type} [Scalar R]

/-- The percentile of the response times. -/
def percentile : R := 95.0

/-- The connections a row stands for. -/
def connections (row : Row R) : Nat :=
  match row.requestCount with
  | some count => count.toInt.toNat
  | none => 1

/-- All connections of some rows. -/
def totalConnections (rows : List (Row R)) : Nat :=
  rows.foldr (fun row total => connections row + total) 0

/-- The rows of failed requests. -/
def failures (rows : List (Row R)) : Nat := rows.countP fun row => row.status.failed

/-- The error rate, and whether it was guarded. -/
def errorRate (rows : List (Row R)) : Statistics.Ratio R :=
  let ratio := Statistics.guardedRatio (R := R) (failures rows) (totalConnections rows)
  if ratio.guarded then ⟨0.0, true⟩ else ⟨Scalar.clamp ratio.value 0.0 1.0, false⟩

/-- The response times of the requests that carry metrics, each request once, in the
order of their identifiers. -/
def responseTimes (rows : List (Row R)) : List R :=
  (grouped Row.requestId (rows.filter Row.hasMetrics)).filterMap fun request =>
    request.2.head?.map Row.responseTime

/-- The response time feature. -/
def responseP95 (rows : List (Row R)) : R :=
  Scalar.larger ((Statistics.percentile (responseTimes rows) percentile).getD 0.0) 0.0

/-- A feature vector, and whether its error rate was guarded, there being no connections to
divide by. -/
structure Reduced (R : Type) where
  vector : FeatureVector R
  guarded : Bool

/-- Reduces the rows of one server; `none` when the connections do not fit 64 bits. -/
def vector? (serverId : Int64) (rows : List (Row R)) : Option (Reduced R) :=
  if totalConnections rows < Word.bound then
    let rate := errorRate rows
    some {
      vector := {
        serverId := serverId
        cpuUsage := (Statistics.mean (rows.filterMap Row.cpuUsage)).getD 0.0
        memoryUsage := (Statistics.mean (rows.filterMap Row.memoryUsage)).getD 0.0
        activeConns := UInt64.ofNat (totalConnections rows)
        errorRate := rate.value
        responseP95 := responseP95 rows
        capacity := (rows.head?.map Row.capacity).getD 0 }
      guarded := rate.guarded }
  else none

/-- Rows by server, in ascending order of the servers. -/
def byServer (rows : List (Row R)) : List (Int64 × List (Row R)) := grouped Row.serverId rows

/-- The report of a guarded division. -/
def guardEvent (serverId : Int64) : Event where
  level := .debug
  target := "pipeline_lib::features::aggregate"
  message := "active_conns was zero, substituted 1 as error_rate denominator"
  fields := [("event", .text "division_guard_triggered"), ("server_id", .integer serverId.toInt)]

end Aggregation

/-- The feature vectors of a batch of rows, one for each server in ascending order, with what
was noted on the way: the servers whose error rate was guarded, ascending, and the number of
rows without metrics. -/
structure Aggregation (R : Type) where
  vectors : List (FeatureVector R)
  guarded : List Int64
  nullMetricRows : Nat

namespace Aggregation

variable {R : Type} [Scalar R]

/-- Reduces rows to feature vectors; `none` when the connections of a server do not
fit 64 bits. -/
def aggregate? (rows : List (Row R)) : Option (Aggregation R) := do
  let reduced ← (byServer rows).mapM fun group => vector? group.1 group.2
  some {
    vectors := reduced.map Reduced.vector
    guarded := (reduced.filter Reduced.guarded).map fun r => r.vector.serverId
    nullMetricRows := rows.countP fun row => !row.hasMetrics }

/-- How many divisions were guarded. -/
def divisionGuards (a : Aggregation R) : Nat := a.guarded.length

/-- Whether there are no vectors. -/
def isEmpty (a : Aggregation R) : Bool := a.vectors.isEmpty

/-- One report for each guarded division. -/
def events (a : Aggregation R) : List Event := a.guarded.map guardEvent

end Aggregation
end FleetScore
