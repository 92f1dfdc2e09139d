import FleetScore.Feature.Name
import FleetScore.Feature.Parity
import FleetScore.Numeric.Binary64
import FleetScore.Json.Decode

/-!
# Feature vectors

A *feature vector* describes one server.  Training sees it as six scalars by
position, a `FeatureRow`; serving looks the six up by name and puts the vector
together again.  Two of the six are integers of the store, and both ways they pass
through scalars: on the way back they are rounded to the nearest integer of their
range, a half away from zero.

A vector that is put together by name must be given exactly the six names.
-/

namespace FleetScore

/-- Six scalars in canonical feature order. -/
abbrev FeatureRow (R : Type) := Vector R 6

/-- What is known of a server: its identifier and its six features. -/
structure FeatureVector (R : Type) where
  serverId : Int64
  cpuUsage : R
  memoryUsage : R
  activeConns : UInt64
  errorRate : R
  responseP95 : R
  capacity : Int64

namespace FeatureVector

variable {R : Type} [Scalar R]

/-- The value of a feature as a scalar. -/
def get (v : FeatureVector R) : FeatureName → R
  | .cpuUsage => v.cpuUsage
  | .memoryUsage => v.memoryUsage
  | .activeConns => Scalar.ofNat v.activeConns.toNat
  | .errorRate => v.errorRate
  | .responseP95 => v.responseP95
  | .capacity => Scalar.ofInt v.capacity.toInt

/-- The features as scalars in canonical order. -/
def toRow (v : FeatureVector R) : FeatureRow R :=
  #v[v.get .cpuUsage, v.get .memoryUsage, v.get .activeConns, v.get .errorRate,
    v.get .responseP95, v.get .capacity]

theorem toRow_index (v : FeatureVector R) (f : FeatureName) : v.toRow[f.index] = v.get f := by
  cases f <;> rfl

/-! ## By name -/

/-- The value under a name, zero if there is none. -/
def named (values : List (String × Float)) (f : FeatureName) : Float :=
  (values.lookup f.text).getD 0.0

/-- The vector of a server from values under names.  A negative count is none. -/
def ofNamed? (serverId : Int64) (values : List (String × Float)) :
    Except NameDifference (FeatureVector Float) :=
  let given := ascending (values.map Prod.fst)
  let expected := ascending FeatureName.names
  let d : NameDifference := ⟨Parity.lacking expected given, Parity.lacking given expected⟩
  if Parity.isNone d then
    .ok {
      serverId := serverId
      cpuUsage := named values .cpuUsage
      memoryUsage := named values .memoryUsage
      activeConns := Binary64.nearestUInt64 (Scalar.larger (named values .activeConns) 0.0)
      errorRate := named values .errorRate
      responseP95 := named values .responseP95
      capacity := Binary64.nearestInt64 (named values .capacity) }
  else .error d

/-! ## As a record -/

/-- The fields of a vector's record. -/
def fields : List Json.Field := [
  ⟨"server_id", .required⟩, ⟨"cpu_usage", .required⟩, ⟨"memory_usage", .required⟩,
  ⟨"active_conns", .required⟩, ⟨"error_rate", .required⟩, ⟨"response_p95", .required⟩,
  ⟨"capacity", .required⟩]

/-- The members of a vector's record. -/
def members (v : FeatureVector Float) : List (String × Json) := [
  ("server_id", .int v.serverId.toInt),
  ("cpu_usage", .float v.cpuUsage),
  ("memory_usage", .float v.memoryUsage),
  ("active_conns", .nat v.activeConns.toNat),
  ("error_rate", .float v.errorRate),
  ("response_p95", .float v.responseP95),
  ("capacity", .int v.capacity.toInt)]

/-- The record of a vector. -/
def toJson (v : FeatureVector Float) : Json := .record v.members

/-- Reads a vector from its record. -/
def ofJson? (j : Json) : Option (FeatureVector Float) := do
  match ← j.fields? fields with
  | [serverId, cpu, memory, conns, errors, p95, capacity] =>
      some {
        serverId := ← serverId.toInt64?
        cpuUsage := ← cpu.toFloat?
        memoryUsage := ← memory.toFloat?
        activeConns := ← conns.toUInt64?
        errorRate := ← errors.toFloat?
        responseP95 := ← p95.toFloat?
        capacity := ← capacity.toInt64? }
  | _ => none

/-- A vector of zeros. -/
def zero : FeatureVector Float := ⟨0, 0, 0, 0, 0, 0, 0⟩

/-- The names that a vector's record carries beside the server, in ascending order:
the features that training really produces. -/
def emittedNames : List String :=
  ascending ((zero.members.map Prod.fst).filter fun n => decide (n ≠ "server_id"))

end FeatureVector
end FleetScore
