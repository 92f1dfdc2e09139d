import FleetScore.Console.Screen
import FleetScore.Pipeline.Run

/-!
# Features without a database

Features and labels can be computed from a file of rows.  Nothing is trained and
nothing is written; what a run of the pipeline would compute from these rows is shown,
and no more.
-/

namespace FleetScore
namespace Console
namespace Screen

/-- Reads a file of rows. -/
def readRows (files : FileTree) (path : Path) : Except String (List (Row Float)) :=
  match files.readText path with
  | .error _ => .error ("Failed to read " ++ path.text)
  | .ok text =>
      match (Json.read? text).bind (Json.toList? Row.ofJson?) with
      | some rows => .ok rows
      | none => .error (path.text ++ " is not a JSON array of joined rows")

/-- Below this part of failed connections a server is well. -/
def lowErrorRate : Float := 0.01

/-- From this part of failed connections on a server is not well. -/
def highErrorRate : Float := 0.05

/-- A part of failed connections, coloured by how bad it is. -/
def errorRate (s : Screen) (x : Float) : String :=
  let colour : Colour :=
    if x < lowErrorRate then .green else if x < highErrorRate then .yellow else .red
  s.paint (.coloured colour) (percent x)

/-- The row of a server. -/
def vectorRow (s : Screen) (labels : List (Label Float)) (v : FeatureVector Float) : List String :=
  let label := match labels.find? fun l => l.serverId == v.serverId with
    | some l => measure l.score
    | none => "-"
  [Decimal.intText v.serverId.toInt, measure v.cpuUsage, measure v.memoryUsage,
    Decimal.natText v.activeConns.toNat, s.errorRate v.errorRate, milliseconds v.responseP95,
    Decimal.intText v.capacity.toInt, label]

/-- What was computed, in a sentence. -/
def summary (rows : Nat) (a : Aggregation Float) : String :=
  Decimal.natText rows ++ " rows, " ++ Decimal.natText a.vectors.length ++ " servers, "
    ++ Decimal.natText a.nullMetricRows ++ " without metrics, "
    ++ Decimal.natText a.divisionGuards ++ " division guards"

/-- What was computed, for people. -/
def computedLines (s : Screen) (rows : Nat) (c : Computed Float) : List String :=
  if rows = 0 then [s.warning "No rows in input, features and labels are empty"]
  else
    s.table {
      header := ["Server", "CPU %", "Mem %", "Conns", "Errors", "p95", "Capacity", "Label"]
      rows := c.aggregation.vectors.map (s.vectorRow c.labels) }
    ++ [s.note (summary rows c.aggregation)]

/-- What was computed, for programs. -/
def computedJson (c : Computed Float) : Json :=
  .record [
    ("feature_names", Json.list Json.text FeatureName.names),
    ("features", Json.list FeatureVector.toJson c.aggregation.vectors),
    ("labels", Json.list Label.toJson c.labels),
    ("division_guards", .nat c.aggregation.divisionGuards),
    ("null_metric_rows", .nat c.aggregation.nullMetricRows)]

/-- Computes features and labels from a file of rows; `none` when the connections of a
server do not fit 64 bits. -/
def features? (s : Screen) (files : FileTree) (path : Path) : Option Transcript :=
  match readRows files path with
  | .error reason => some (.failure reason)
  | .ok rows =>
      (compute? rows).map fun c =>
        match s.format with
        | .json => .success [(computedJson c).pretty]
        | .table => .success (s.computedLines rows.length c)

end Screen
end Console
end FleetScore
