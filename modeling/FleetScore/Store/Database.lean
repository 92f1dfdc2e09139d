import FleetScore.Store.Record
import FleetScore.Failure
import FleetScore.Telemetry.Event

/-!
# What a database answers

A database makes the join itself, and hands over rows that are finished but for their status.  How
it comes to them is its own affair, and so is whether it can be reached at all: here a database is
known by its *reply*.  Every reply is possible.  What is written down is what becomes of it, that
is, the rows or the fault that are passed on, and what is reported on the way.

Neither the query nor the two numbers that it is given, the lookback and the tolerance in seconds,
are described, as nothing depends on them but the reply.
-/

namespace FleetScore

/-- A row as a database hands it over.  How the request ended is a truth value there. -/
structure StoredRow (R : Type) where
  requestId : Int64
  serverId : Int64
  cpuUsage : Option R
  memoryUsage : Option R
  requestCount : Option Int64
  capacity : Int64
  weight : Option Int64
  responseTime : R
  timestamp : Instant
  success : Bool
  metricTimestamp : Option Instant

/-- The row that is meant. -/
def StoredRow.toRow {R : Type} (r : StoredRow R) : Row R where
  requestId := r.requestId
  serverId := r.serverId
  timestamp := r.timestamp
  responseTime := r.responseTime
  status := .ofSuccess r.success
  capacity := r.capacity
  weight := r.weight
  metricTimestamp := r.metricTimestamp
  cpuUsage := r.cpuUsage
  memoryUsage := r.memoryUsage
  requestCount := r.requestCount

namespace Database

/-- What comes of the attempt to read a database.  There may be no connection, the query may fail,
it may take longer than it is allowed to, and it may be answered with rows some time after the
attempt began.  The words for the first two are those of the driver, where they are known. -/
inductive Reply (R : Type) where
  | unreachable (reason : Option String)
  | failed (reason : Option String)
  | overdue
  | answered (rows : List (StoredRow R)) (elapsed : Span)

/-- An event of a database. -/
def event (level : Level) (message : String) (fields : List (String × FieldValue)) : Event where
  level := level
  target := "pipeline_lib::source::postgres"
  message := message
  fields := fields

/-- The report of an attempt to connect. -/
def connectingEvent : Event := event .debug "Connecting to event store" []

/-- The report of a query that has failed. -/
def failedEvent (fault : StoreFault) : Event :=
  event .warn "Event store query failed"
    [("error", .text (Failure.storeUnavailable fault).message)]

/-- The report of a query that has taken too long. -/
def overdueEvent (timeout : Span) : Event :=
  event .warn "Event store query timed out" [("timeout_secs", .integer timeout.seconds)]

/-- The report of rows. -/
def answeredEvent (rows : Nat) (elapsed lookback tolerance : Span) : Event :=
  event .info "Fetched joined rows from event store" [
    ("rows", .integer rows), ("elapsed_ms", .integer elapsed.milliseconds),
    ("lookback_secs", .integer lookback.seconds), ("tolerance_secs", .integer tolerance.seconds)]

/-- What becomes of a reply; the second part is what is reported. -/
def read {R : Type} (lookback tolerance timeout : Span) :
    Reply R → Except StoreFault (List (Row R)) × List Event
  | .unreachable reason => (.error (.driver reason), [connectingEvent])
  | .failed reason =>
      let fault := .driver reason
      (.error fault, [connectingEvent, failedEvent fault])
  | .overdue => (.error (.overdue timeout.seconds), [connectingEvent, overdueEvent timeout])
  | .answered rows elapsed =>
      (.ok (rows.map StoredRow.toRow),
        [connectingEvent, answeredEvent rows.length elapsed lookback tolerance])

end Database
end FleetScore
