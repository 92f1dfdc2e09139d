import FleetScore.Store.Record
import FleetScore.Json.Decode

/-!
# Store records as JSON

The written form of the four records: an object with the fields in order.  On
reading, the fields of a row that only some rows have may be left out, and so may the
weight of a server in an object.  A status is its name; an object with the name and
`null` under it is read as well.
-/

namespace FleetScore

namespace Status

/-- The name of a status. -/
def text : Status → String
  | .success => "success"
  | .failure => "failure"

/-- The status with a given name. -/
def ofText? (s : String) : Option Status :=
  if s = "success" then some .success else if s = "failure" then some .failure else none

/-- The written form of a status. -/
def toJson (s : Status) : Json := .text s.text

/-- Reads a status. -/
def ofJson? : Json → Option Status
  | .string (some s) => ofText? s
  | .object [(some s, .null)] => ofText? s
  | _ => none

end Status

/-- The written form of an instant. -/
def Instant.toJson (t : Instant) : Json := .text (Timestamp.text t)

/-- The written form of a 64-bit integer. -/
def Json.int64 (n : Int64) : Json := .int n.toInt

namespace Request

/-- The fields of a request's record. -/
def fields : List Json.Field := [
  ⟨"request_id", .required⟩, ⟨"server_id", .required⟩, ⟨"timestamp", .required⟩,
  ⟨"response_time", .required⟩, ⟨"status", .required⟩]

/-- The record of a request. -/
def toJson (r : Request Float) : Json :=
  .record [
    ("request_id", .int64 r.requestId),
    ("server_id", .int64 r.serverId),
    ("timestamp", r.timestamp.toJson),
    ("response_time", .float r.responseTime),
    ("status", r.status.toJson)]

/-- Reads a request from its record. -/
def ofJson? (j : Json) : Option (Request Float) := do
  match ← j.fields? fields with
  | [requestId, serverId, timestamp, responseTime, status] =>
      some {
        requestId := ← requestId.toInt64?
        serverId := ← serverId.toInt64?
        timestamp := ← timestamp.toInstant?
        responseTime := ← responseTime.toFloat?
        status := ← Status.ofJson? status }
  | _ => none

end Request

namespace Snapshot

/-- The fields of a snapshot's record. -/
def fields : List Json.Field := [
  ⟨"server_id", .required⟩, ⟨"timestamp", .required⟩, ⟨"cpu_usage", .required⟩,
  ⟨"memory_usage", .required⟩, ⟨"request_count", .required⟩]

/-- The record of a snapshot. -/
def toJson (s : Snapshot Float) : Json :=
  .record [
    ("server_id", .int64 s.serverId),
    ("timestamp", s.timestamp.toJson),
    ("cpu_usage", .float s.cpuUsage),
    ("memory_usage", .float s.memoryUsage),
    ("request_count", .int64 s.requestCount)]

/-- Reads a snapshot from its record. -/
def ofJson? (j : Json) : Option (Snapshot Float) := do
  match ← j.fields? fields with
  | [serverId, timestamp, cpu, memory, count] =>
      some {
        serverId := ← serverId.toInt64?
        timestamp := ← timestamp.toInstant?
        cpuUsage := ← cpu.toFloat?
        memoryUsage := ← memory.toFloat?
        requestCount := ← count.toInt64? }
  | _ => none

end Snapshot

namespace Server

/-- The fields of a server's record. -/
def fields : List Json.Field := [
  ⟨"server_id", .required⟩, ⟨"capacity", .required⟩, ⟨"weight", .nullable⟩]

/-- The record of a server. -/
def toJson (s : Server) : Json :=
  .record [
    ("server_id", .int64 s.serverId),
    ("capacity", .int64 s.capacity),
    ("weight", .optional .int64 s.weight)]

/-- Reads a server from its record. -/
def ofJson? (j : Json) : Option Server := do
  match ← j.fields? fields with
  | [serverId, capacity, weight] =>
      some {
        serverId := ← serverId.toInt64?
        capacity := ← capacity.toInt64?
        weight := ← weight.toOption? Json.toInt64? }
  | _ => none

end Server

namespace Row

/-- The fields of a row's record. -/
def fields : List Json.Field := [
  ⟨"request_id", .required⟩, ⟨"server_id", .required⟩, ⟨"timestamp", .required⟩,
  ⟨"response_time", .required⟩, ⟨"status", .required⟩, ⟨"capacity", .required⟩,
  ⟨"weight", .optional⟩, ⟨"metric_timestamp", .optional⟩, ⟨"cpu_usage", .optional⟩,
  ⟨"memory_usage", .optional⟩, ⟨"request_count", .optional⟩]

/-- The record of a row. -/
def toJson (r : Row Float) : Json :=
  .record [
    ("request_id", .int64 r.requestId),
    ("server_id", .int64 r.serverId),
    ("timestamp", r.timestamp.toJson),
    ("response_time", .float r.responseTime),
    ("status", r.status.toJson),
    ("capacity", .int64 r.capacity),
    ("weight", .optional .int64 r.weight),
    ("metric_timestamp", .optional Instant.toJson r.metricTimestamp),
    ("cpu_usage", .optional .float r.cpuUsage),
    ("memory_usage", .optional .float r.memoryUsage),
    ("request_count", .optional .int64 r.requestCount)]

/-- Reads a row from its record. -/
def ofJson? (j : Json) : Option (Row Float) := do
  match ← j.fields? fields with
  | [requestId, serverId, timestamp, responseTime, status, capacity, weight, metricTimestamp,
      cpu, memory, count] =>
      some {
        requestId := ← requestId.toInt64?
        serverId := ← serverId.toInt64?
        timestamp := ← timestamp.toInstant?
        responseTime := ← responseTime.toFloat?
        status := ← Status.ofJson? status
        capacity := ← capacity.toInt64?
        weight := ← weight.toOption? Json.toInt64?
        metricTimestamp := ← metricTimestamp.toOption? Json.toInstant?
        cpuUsage := ← cpu.toOption? Json.toFloat?
        memoryUsage := ← memory.toOption? Json.toFloat?
        requestCount := ← count.toOption? Json.toInt64? }
  | _ => none

end Row
end FleetScore
