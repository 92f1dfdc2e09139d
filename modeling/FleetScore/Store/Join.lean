import FleetScore.Store.Record
import FleetScore.Order.Ascending
import FleetScore.Telemetry.Event

/-!
# The temporal join

A request is joined to every snapshot of its server that was taken at the instant
of the request or at most a *tolerance* before it.  A request without such a
snapshot still gets one row, with no metrics.  A request whose server has no
record gets none.

Rows come in the order of the requests --- by instant, then by identifier, and
otherwise as given --- and for each request in the order of its snapshots.

## How a window is found

The snapshots of each server are put in order of time once.  The snapshots in a
window are then a contiguous piece of that order: those before its lower end are
dropped, and those up to its upper end are taken.  Both ends belong to the window.

Of several records of one server the last one counts.
-/

namespace FleetScore
namespace Join

variable {R : Type}

/-- What a join answers: the rows in order, the number of requests that no snapshot was found
for, and the number of those whose server has no record. -/
structure Joined (R : Type) where
  rows : List (Row R)
  unmatched : Nat
  orphaned : Nat

/-- The record of a server: the last one listed. -/
def serverRecord? (servers : List Server) (serverId : Int64) : Option Server :=
  servers.reverse.find? fun s => decide (s.serverId = serverId)

/-- The snapshots of each server in order of time. -/
def series (snapshots : List (Snapshot R)) : List (Int64 × List (Snapshot R)) :=
  (grouped Snapshot.serverId snapshots).map fun group =>
    (group.1, group.2.mergeSort fun a b => a.timestamp.le b.timestamp)

/-- The snapshots of one server in order of time. -/
def seriesOf (index : List (Int64 × List (Snapshot R))) (serverId : Int64) : List (Snapshot R) :=
  (index.lookup serverId).getD []

/-- The piece of a series from `lower` to `upper`, both included. -/
def window (lower upper : Instant) (series : List (Snapshot R)) : List (Snapshot R) :=
  (series.dropWhile fun s => s.timestamp.lt lower).takeWhile fun s => s.timestamp.le upper

/-- Whether a request comes before another, or neither comes before the other. -/
def requestLe (a b : Request R) : Bool :=
  a.timestamp.lt b.timestamp
    || (a.timestamp.le b.timestamp && decide (a.requestId ≤ b.requestId))

/-- What becomes of one request: its server has no record, or it has one, and these are its
snapshots. -/
inductive Found (R : Type) where
  | orphaned
  | known (server : Server) (snapshots : List (Snapshot R))

/-- Looks up the server of a request and its snapshots within the tolerance. -/
def find (tolerance : Span) (servers : List Server) (index : List (Int64 × List (Snapshot R)))
    (request : Request R) : Found R :=
  match serverRecord? servers request.serverId with
  | none => .orphaned
  | some server =>
      .known server
        (window (request.timestamp.back tolerance) request.timestamp
          (seriesOf index request.serverId))

/-- The rows of a request. -/
def Found.rows (request : Request R) : Found R → List (Row R)
  | .orphaned => []
  | .known server [] => [Row.unmatched request server]
  | .known server snapshots => snapshots.map (Row.matched request server)

/-- Whether a request has a server but no snapshot. -/
def Found.isUnmatched : Found R → Bool
  | .known _ [] => true
  | _ => false

/-- Whether a request has no server. -/
def Found.isOrphaned : Found R → Bool
  | .orphaned => true
  | _ => false

/-- Joins requests to the snapshots taken shortly before them. -/
def join (tolerance : Span) (requests : List (Request R)) (snapshots : List (Snapshot R))
    (servers : List Server) : Joined R :=
  let index := series snapshots
  let found := (requests.mergeSort requestLe).map fun r => (r, find tolerance servers index r)
  { rows := found.flatMap fun f => f.2.rows f.1
    unmatched := found.countP fun f => f.2.isUnmatched
    orphaned := found.countP fun f => f.2.isOrphaned }

/-- The report of a finished join. -/
def Joined.event (joined : Joined R) : Event where
  level := .debug
  target := "pipeline_lib::join"
  message := "Temporal join completed"
  fields := [
    ("rows", .integer joined.rows.length),
    ("unmatched_requests", .integer joined.unmatched),
    ("requests_without_server", .integer joined.orphaned)]

end Join
end FleetScore
