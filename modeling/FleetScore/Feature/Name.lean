/-!
# The six features

A server is described by six numbers, in an order that training and serving agree
on.  The order is that of the constructors of `FeatureName`; a feature's *name* is
how it is called in manifests and records, and no two features share one.
-/

namespace FleetScore

/-- The number of features. -/
def featureCount : Nat := 6

/-- A feature of a server.  The loads of processor and memory are means, the error rate is the
part of the connections that failed, and of the response times it is the 95th percentile. -/
inductive FeatureName where
  | cpuUsage
  | memoryUsage
  | activeConns
  | errorRate
  | responseP95
  | capacity
  deriving DecidableEq, Repr

namespace FeatureName

/-- All features in canonical order. -/
def all : List FeatureName :=
  [.cpuUsage, .memoryUsage, .activeConns, .errorRate, .responseP95, .capacity]

/-- The name of a feature in manifests and records. -/
def text : FeatureName → String
  | .cpuUsage => "cpu_usage"
  | .memoryUsage => "memory_usage"
  | .activeConns => "active_conns"
  | .errorRate => "error_rate"
  | .responseP95 => "response_p95"
  | .capacity => "capacity"

/-- The name of a feature in diagnostics. -/
def label : FeatureName → String
  | .cpuUsage => "CpuUsage"
  | .memoryUsage => "MemoryUsage"
  | .activeConns => "ActiveConns"
  | .errorRate => "ErrorRate"
  | .responseP95 => "ResponseP95"
  | .capacity => "Capacity"

/-- The position of a feature in the canonical order. -/
def index : FeatureName → Fin 6
  | .cpuUsage => 0
  | .memoryUsage => 1
  | .activeConns => 2
  | .errorRate => 3
  | .responseP95 => 4
  | .capacity => 5

/-- The feature with a given name. -/
def ofText? (s : String) : Option FeatureName := all.find? fun f => decide (f.text = s)

/-- The names of all features in canonical order. -/
def names : List String := all.map text

/-- The wording of a name that is no feature's. -/
def unknownMessage (s : String) : String := "unknown feature: " ++ s

theorem mem_all (f : FeatureName) : f ∈ all := by cases f <;> decide

theorem text_injective {f g : FeatureName} (h : f.text = g.text) : f = g := by
  revert h
  cases f <;> cases g <;> decide

theorem names_nodup : names.Nodup := by decide

end FeatureName
end FleetScore
