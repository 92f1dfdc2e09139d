import FleetScore.Feature.Aggregation

/-!
# Labels

What the model learns to predict is how badly a server is doing.  A request scores
seven tenths of its response time, two tenths of the processor load while it was
served, and one tenth if it failed.  The label of a server is the mean score of its
requests.

A request that matched several snapshots is one request: its load is the mean over
them, and its response time and status are those of its first row.  A request that
no load is known for has no score and is left out; a server without any score has
the label zero.

The weights belong to the definition.  `version` names it, so that models trained
on other labels are not compared with these.
-/

namespace FleetScore

/-- The label of a server, which is the mean score of its requests. -/
structure Label (R : Type) where
  serverId : Int64
  score : R

namespace Label

/-- The name of this definition of labels. -/
def version : String := "score-v1-0.7rt-0.2cpu-0.1fail"

section

variable {R : Type} [Scalar R]

/-- The weight of the response time. -/
def responseTimeWeight : R := 0.7

/-- The weight of the processor load. -/
def cpuWeight : R := 0.2

/-- The weight of a failure. -/
def failureWeight : R := 0.1

/-- The score of a request. -/
def scoreRequest (responseTime cpuUsage : R) (failed : Bool) : R :=
  let indicator : R := if failed then 1.0 else 0.0
  responseTimeWeight * responseTime + cpuWeight * cpuUsage + failureWeight * indicator

/-- The score of a request from its rows: the response time and status of the first,
and the mean of all loads.  There is none without a load. -/
def scoreRows? (rows : List (Row R)) : Option R := do
  let first ← rows.head?
  let cpu ← Statistics.mean (rows.filterMap Row.cpuUsage)
  some (scoreRequest first.responseTime cpu first.status.failed)

/-- The scores of the requests of one server, in the order of their identifiers. -/
def requestScores (rows : List (Row R)) : List R :=
  (grouped Row.requestId rows).filterMap fun request => scoreRows? request.2

/-- The label of one server from its rows. -/
def scoreGroup (rows : List (Row R)) : R := (Statistics.mean (requestScores rows)).getD 0.0

/-- The labels of all servers that have rows, in ascending order of the servers. -/
def scoreAll (rows : List (Row R)) : List (Label R) :=
  (Aggregation.byServer rows).map fun group => ⟨group.1, scoreGroup group.2⟩

end

/-! ## As a record -/

/-- The fields of a label's record. -/
def fields : List Json.Field := [⟨"server_id", .required⟩, ⟨"score", .required⟩]

/-- The record of a label. -/
def toJson (l : Label Float) : Json :=
  .record [("server_id", .int l.serverId.toInt), ("score", .float l.score)]

/-- Reads a label from its record. -/
def ofJson? (j : Json) : Option (Label Float) := do
  match ← j.fields? fields with
  | [serverId, score] =>
      some { serverId := ← serverId.toInt64?, score := ← score.toFloat? }
  | _ => none

end Label
end FleetScore
