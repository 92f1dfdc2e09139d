import FleetScore.Time.Instant

/-!
# What the event store holds

Three kinds of raw records, and the row they are joined to.

A *request* was handled by a server at an instant, took some time and succeeded or
failed.  A *snapshot* is a reading of a server's load.  A *server* record holds
what is fixed about a server.  A *row* pairs a request with one snapshot of its
server, or with none: then the four fields that come from a snapshot are absent
together.  Absence is a value of its own and never zero, because the statistics
that are computed from rows leave absent values out.

Identifiers and counts are the 64-bit integers of the store.  Measurements are
scalars `R`.
-/

namespace FleetScore

/-- How a request ended. -/
inductive Status where
  | success
  | failure
  deriving DecidableEq, Repr

namespace Status

/-- The status of a request that did or did not succeed. -/
def ofSuccess (success : Bool) : Status := if success then .success else .failure

/-- Whether the request failed. -/
def failed : Status → Bool
  | .success => false
  | .failure => true

end Status

/-- A request as the store recorded it, with its response time in milliseconds. -/
structure Request (R : Type) where
  requestId : Int64
  serverId : Int64
  timestamp : Instant
  responseTime : R
  status : Status

/-- A reading of a server's load: of processor and memory in percent, and the requests it was
serving. -/
structure Snapshot (R : Type) where
  serverId : Int64
  timestamp : Instant
  cpuUsage : R
  memoryUsage : R
  requestCount : Int64

/-- What is fixed about a server: how much it can take, and its weight in load balancing, if it
has one. -/
structure Server where
  serverId : Int64
  capacity : Int64
  weight : Option Int64
  deriving DecidableEq, Repr

/-- A request joined to one snapshot of its server, or to none; then everything of the snapshot
is absent. -/
structure Row (R : Type) where
  requestId : Int64
  serverId : Int64
  timestamp : Instant
  responseTime : R
  status : Status
  capacity : Int64
  weight : Option Int64
  metricTimestamp : Option Instant
  cpuUsage : Option R
  memoryUsage : Option R
  requestCount : Option Int64

namespace Row

variable {R : Type}

/-- The row of a request that no snapshot was found for. -/
def unmatched (request : Request R) (server : Server) : Row R where
  requestId := request.requestId
  serverId := request.serverId
  timestamp := request.timestamp
  responseTime := request.responseTime
  status := request.status
  capacity := server.capacity
  weight := server.weight
  metricTimestamp := none
  cpuUsage := none
  memoryUsage := none
  requestCount := none

/-- The row of a request with a snapshot. -/
def matched (request : Request R) (server : Server) (snapshot : Snapshot R) : Row R :=
  { unmatched request server with
    metricTimestamp := some snapshot.timestamp
    cpuUsage := some snapshot.cpuUsage
    memoryUsage := some snapshot.memoryUsage
    requestCount := some snapshot.requestCount }

/-- Whether the row carries a snapshot. -/
def hasMetrics (row : Row R) : Bool := row.metricTimestamp.isSome

@[simp] theorem hasMetrics_unmatched (request : Request R) (server : Server) :
    (unmatched request server).hasMetrics = false := rfl

@[simp] theorem hasMetrics_matched (request : Request R) (server : Server)
    (snapshot : Snapshot R) : (matched request server snapshot).hasMetrics = true := rfl

end Row
end FleetScore
