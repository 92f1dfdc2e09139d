import FleetScore.Console.Features
import FleetScore.Proofs.Artifact.Loading
import FleetScore.Proofs.Artifact.ReadBack
import FleetScore.Proofs.Json.Codecs

/-!
# Every record is read back from its text

The records of the store, the features, the labels, and the records of a model: ten kinds of records
in all, each with an encoder and a decoder of its own.  Each of them is a codec here, with its
doubles, instants and counts, and each of the codecs is lawful.  So a record of any kind is read
back from its text as it was, to the bit, provided that the reader of numerals loses nothing of its
doubles (`written_records_survive`).

Rows have fields that not every row has.  A text may leave them out, in whatever combination, or
have them as `null`, and is read the same (`Row.ofJson?_leaveOut`).  And a file with the text of a
list of rows shows the features of these rows (`features?_of_dump`).
-/

namespace FleetScore

/-! ## 1.  The records of the store -/

namespace Request

/-- Requests as records. -/
def codec : Codec (Request Float) where
  toJson := toJson
  ofJson? := ofJson?
  numbers r := [r.responseTime]
  instants r := [r.timestamp]
  counts _ := []

theorem isLawful_codec : codec.IsLawful where
  isWritable r := by
    refine Json.isWritable_record ?_
    simp only [List.forall_mem_cons, List.not_mem_nil, false_imp_iff, implies_true, and_true]
    exact ⟨Json.isWritable_int _, Json.isWritable_int _, Json.isWritable_text _,
      Json.isWritable_float _, Json.isWritable_text _⟩
  ofJson?_toJson r hr := by
    have hfields : r.toJson.fields? fields = some [.int64 r.requestId, .int64 r.serverId,
        r.timestamp.toJson, .float r.responseTime, r.status.toJson] := rfl
    have htimestamp := Json.toInstant?_toJson (hr.nano_lt r.timestamp (by simp [codec]))
    have hresponseTime := hr.toFloat? r.responseTime (by simp [codec])
    show ofJson? r.toJson = some r
    rw [ofJson?, hfields]
    simp only [Option.bind_eq_bind, Option.bind_some, Json.toInt64?_int64, htimestamp,
      hresponseTime, Json.ofJson?_status]

end Request

namespace Snapshot

/-- Snapshots as records. -/
def codec : Codec (Snapshot Float) where
  toJson := toJson
  ofJson? := ofJson?
  numbers s := [s.cpuUsage, s.memoryUsage]
  instants s := [s.timestamp]
  counts _ := []

theorem isLawful_codec : codec.IsLawful where
  isWritable s := by
    refine Json.isWritable_record ?_
    simp only [List.forall_mem_cons, List.not_mem_nil, false_imp_iff, implies_true, and_true]
    exact ⟨Json.isWritable_int _, Json.isWritable_text _, Json.isWritable_float _,
      Json.isWritable_float _, Json.isWritable_int _⟩
  ofJson?_toJson s hs := by
    have hfields : s.toJson.fields? fields = some [.int64 s.serverId, s.timestamp.toJson,
        .float s.cpuUsage, .float s.memoryUsage, .int64 s.requestCount] := rfl
    have htimestamp := Json.toInstant?_toJson (hs.nano_lt s.timestamp (by simp [codec]))
    have hcpu := hs.toFloat? s.cpuUsage (by simp [codec])
    have hmemory := hs.toFloat? s.memoryUsage (by simp [codec])
    show ofJson? s.toJson = some s
    rw [ofJson?, hfields]
    simp only [Option.bind_eq_bind, Option.bind_some, Json.toInt64?_int64, htimestamp, hcpu,
      hmemory]

end Snapshot

namespace Server

/-- Servers as records. -/
def codec : Codec Server where
  toJson := toJson
  ofJson? := ofJson?
  numbers _ := []
  instants _ := []
  counts _ := []

theorem isLawful_codec : codec.IsLawful where
  isWritable s := by
    refine Json.isWritable_record ?_
    simp only [List.forall_mem_cons, List.not_mem_nil, false_imp_iff, implies_true, and_true]
    exact ⟨Json.isWritable_int _, Json.isWritable_int _,
      Json.isWritable_optional (fun _ => Json.isWritable_int _) _⟩
  ofJson?_toJson s _ := by
    have hfields : s.toJson.fields? fields = some [.int64 s.serverId, .int64 s.capacity,
        .optional .int64 s.weight] := rfl
    show ofJson? s.toJson = some s
    rw [ofJson?, hfields]
    simp only [Option.bind_eq_bind, Option.bind_some, Json.toInt64?_int64,
      Json.toOption?_optionalInt64]

end Server

namespace Row

/-- Rows as records. -/
def codec : Codec (Row Float) where
  toJson := toJson
  ofJson? := ofJson?
  numbers r := r.responseTime :: (r.cpuUsage.toList ++ r.memoryUsage.toList)
  instants r := r.timestamp :: r.metricTimestamp.toList
  counts _ := []

theorem isLawful_codec : codec.IsLawful where
  isWritable r := by
    refine Json.isWritable_record ?_
    simp only [List.forall_mem_cons, List.not_mem_nil, false_imp_iff, implies_true, and_true]
    exact ⟨Json.isWritable_int _, Json.isWritable_int _, Json.isWritable_text _,
      Json.isWritable_float _, Json.isWritable_text _, Json.isWritable_int _,
      Json.isWritable_optional (fun _ => Json.isWritable_int _) _,
      Json.isWritable_optional (fun _ => Json.isWritable_text _) _,
      Json.isWritable_optional (fun _ => Json.isWritable_float _) _,
      Json.isWritable_optional (fun _ => Json.isWritable_float _) _,
      Json.isWritable_optional (fun _ => Json.isWritable_int _) _⟩
  ofJson?_toJson r hr := by
    have hfields : r.toJson.fields? fields = some [.int64 r.requestId, .int64 r.serverId,
        r.timestamp.toJson, .float r.responseTime, r.status.toJson, .int64 r.capacity,
        .optional .int64 r.weight, .optional Instant.toJson r.metricTimestamp,
        .optional .float r.cpuUsage, .optional .float r.memoryUsage,
        .optional .int64 r.requestCount] := rfl
    have htimestamp := Json.toInstant?_toJson (hr.nano_lt r.timestamp (by simp [codec]))
    have hmetricTimestamp := Json.toOption?_optionalInstant fun t (ht : t ∈ r.metricTimestamp) =>
      hr.nano_lt t (by simp [codec, Option.mem_def.1 ht])
    have hresponseTime := hr.toFloat? r.responseTime (by simp [codec])
    have hcpu := Json.toOption?_optionalFloat fun x (hx : x ∈ r.cpuUsage) =>
      hr.toFloat? x (by simp [codec, Option.mem_def.1 hx])
    have hmemory := Json.toOption?_optionalFloat fun x (hx : x ∈ r.memoryUsage) =>
      hr.toFloat? x (by simp [codec, Option.mem_def.1 hx])
    show ofJson? r.toJson = some r
    rw [ofJson?, hfields]
    simp only [Option.bind_eq_bind, Option.bind_some, Json.toInt64?_int64, htimestamp,
      hresponseTime, Json.ofJson?_status, Json.toOption?_optionalInt64, hmetricTimestamp, hcpu,
      hmemory]

/-- The fields of a row's record that only some rows have. -/
def optionalNames : List String :=
  ["weight", "metric_timestamp", "cpu_usage", "memory_usage", "request_count"]

theorem absence_ne_required {f : Json.Field} (hf : f ∈ fields) (hname : f.name ∈ optionalNames) :
    f.absence ≠ .required := by
  revert f
  decide

/-- **A row is read the same without the fields it has no values for** as with `null` in their
places. -/
theorem ofJson?_leaveOut {names : List String} (hnames : names ⊆ optionalNames)
    {members : List (Option String × Json)}
    (hnull : ∀ name ∈ names, Json.valuesOf name members = [.null]) :
    ofJson? (.object (Json.leaveOut names members)) = ofJson? (.object members) := by
  have hfields : Json.objectFields? fields (Json.leaveOut names members) =
      Json.objectFields? fields members :=
    Json.objectFields?_leaveOut (fun f hf hname => absence_ne_required hf (hnames hname)) hnull
  rw [ofJson?, ofJson?, Json.fields?, Json.fields?, hfields]

end Row

/-! ## 2.  Features and labels -/

namespace FeatureVector

/-- Feature vectors as records. -/
def codec : Codec (FeatureVector Float) where
  toJson := toJson
  ofJson? := ofJson?
  numbers v := [v.cpuUsage, v.memoryUsage, v.errorRate, v.responseP95]
  instants _ := []
  counts _ := []

theorem isLawful_codec : codec.IsLawful where
  isWritable v := by
    refine Json.isWritable_record ?_
    simp only [members, List.forall_mem_cons, List.not_mem_nil, false_imp_iff, implies_true,
      and_true]
    exact ⟨Json.isWritable_int _, Json.isWritable_float _, Json.isWritable_float _,
      Json.isWritable_int _, Json.isWritable_float _, Json.isWritable_float _,
      Json.isWritable_int _⟩
  ofJson?_toJson v hv := by
    have hfields : v.toJson.fields? fields = some [.int64 v.serverId, .float v.cpuUsage,
        .float v.memoryUsage, .nat v.activeConns.toNat, .float v.errorRate, .float v.responseP95,
        .int64 v.capacity] := rfl
    have hcpu := hv.toFloat? v.cpuUsage (by simp [codec])
    have hmemory := hv.toFloat? v.memoryUsage (by simp [codec])
    have herrors := hv.toFloat? v.errorRate (by simp [codec])
    have hp95 := hv.toFloat? v.responseP95 (by simp [codec])
    show ofJson? v.toJson = some v
    rw [ofJson?, hfields]
    simp only [Option.bind_eq_bind, Option.bind_some, Json.toInt64?_int64, Json.toUInt64?_nat,
      hcpu, hmemory, herrors, hp95]

end FeatureVector

namespace Label

/-- Labels as records. -/
def codec : Codec (Label Float) where
  toJson := toJson
  ofJson? := ofJson?
  numbers l := [l.score]
  instants _ := []
  counts _ := []

theorem isLawful_codec : codec.IsLawful where
  isWritable l := by
    refine Json.isWritable_record ?_
    simp only [List.forall_mem_cons, List.not_mem_nil, false_imp_iff, implies_true, and_true]
    exact ⟨Json.isWritable_int _, Json.isWritable_float _⟩
  ofJson?_toJson l hl := by
    have hfields : l.toJson.fields? fields = some [.int64 l.serverId, .float l.score] := rfl
    have hscore := hl.toFloat? l.score (by simp [codec])
    show ofJson? l.toJson = some l
    rw [ofJson?, hfields]
    simp only [Option.bind_eq_bind, Option.bind_some, Json.toInt64?_int64, hscore]

end Label

/-! ## 3.  The records of a model -/

namespace Scaler

/-- Scalers as records. -/
def codec : Codec (Scaler Float) where
  toJson := toJson
  ofJson? := ofJson?
  numbers := numbers
  instants _ := []
  counts _ := []

theorem isLawful_codec : codec.IsLawful where
  isWritable := isWritable_toJson
  ofJson?_toJson s hs := (ofJson?_toJson (f := id) hs.toFloat?).trans (congrArg some s.map_id)

end Scaler

namespace Regressor

/-- Linear models as records. -/
def codec : Codec (Regressor Float) where
  toJson := toJson
  ofJson? := ofJson?
  numbers m := m.bias :: m.weights
  instants _ := []
  counts _ := []

theorem isLawful_codec : codec.IsLawful where
  isWritable m := by
    refine Json.isWritable_record ?_
    simp only [List.forall_mem_cons, List.not_mem_nil, false_imp_iff, implies_true, and_true]
    exact ⟨Json.isWritable_list fun x _ => Json.isWritable_float x, Json.isWritable_float _⟩
  ofJson?_toJson m hm := by
    have hfields : m.toJson.fields? fields = some [Json.list Json.float m.weights, .float m.bias] :=
      rfl
    obtain ⟨hbias, hweights⟩ := List.forall_mem_cons.1 hm.toFloat?
    have hlist := Json.toList?_list (f := id) hweights
    rw [List.map_id] at hlist
    show ofJson? m.toJson = some m
    rw [ofJson?, hfields]
    simp only [Option.bind_eq_bind, Option.bind_some, hlist, hbias]

end Regressor

namespace Evaluation

/-- Evaluations as records. -/
def codec : Codec (Evaluation Float) where
  toJson := toJson
  ofJson? := ofJson?
  numbers := numbers
  instants _ := []
  counts e := [e.samples]

theorem isLawful_codec : codec.IsLawful where
  isWritable := isWritable_toJson
  ofJson?_toJson e he :=
    (ofJson?_toJson (f := id) (he.count_lt e.samples (by simp [codec])) he.toFloat?).trans
      (congrArg some e.map_id)

end Evaluation

namespace ModelRecord

/-- Models as records. -/
def codec : Codec ModelRecord where
  toJson := toJson
  ofJson? := ofJson?
  numbers := numbers
  instants m := [m.trainedAt]
  counts m := [m.evaluation.samples]

theorem map_id_of_nano_lt {m : ModelRecord} (h : m.trainedAt.nano < nanosPerSecond) :
    m.map id = m := by
  rw [map, Timestamp.settled_of_nano_lt h, List.map_id, Evaluation.map_id]
  rfl

theorem isLawful_codec : codec.IsLawful where
  isWritable := isWritable_toJson
  ofJson?_toJson m hm :=
    (ofJson?_toJson (f := id) (hm.count_lt m.evaluation.samples (by simp [codec]))
      hm.toFloat?).trans
      (congrArg some (map_id_of_nano_lt (hm.nano_lt m.trainedAt (by simp [codec]))))

end ModelRecord

/-! ## 4.  Files of rows -/

namespace Console
namespace Screen

/-- What is shown of computed features. -/
def shownFeatures (s : Screen) (rows : Nat) (c : Computed Float) : Transcript :=
  match s.format with
  | .json => .success [(computedJson c).pretty]
  | .table => .success (s.computedLines rows c)

theorem features?_of_readRows {s : Screen} {files : FileTree} {path : Path}
    {rows : List (Row Float)} (h : readRows files path = .ok rows) :
    s.features? files path = (compute? rows).map (s.shownFeatures rows.length) := by
  rw [features?, h]
  rfl

/-- Whether a file holds the text of a list of rows, written compactly or prettily. -/
def HoldsRows (files : FileTree) (path : Path) (rows : List (Row Float)) : Prop :=
  files.readText path = .ok (Row.codec.list.toJson rows).compact ∨
    files.readText path = .ok (Row.codec.list.toJson rows).pretty

/-- **The rows in a file are read**, if they are plain. -/
theorem readRows_of_holdsRows {files : FileTree} {path : Path} {rows : List (Row Float)}
    (h : HoldsRows files path rows) (hplain : ∀ r ∈ rows, Row.codec.IsPlain r) :
    readRows files path = .ok rows := by
  obtain ⟨hcompact, hpretty⟩ :=
    Row.isLawful_codec.list.survives rows (Codec.isPlain_list_iff.2 hplain)
  have hread : ∀ {text : String}, files.readText path = .ok text →
      Row.codec.list.ofText? text = some rows → readRows files path = .ok rows := by
    intro text htext hrows
    have hdecoded : (Json.read? text).bind (Json.toList? Row.ofJson?) = some rows := hrows
    rw [readRows, htext]
    dsimp only
    rw [hdecoded]
  obtain htext | htext := h
  · exact hread htext hcompact
  · exact hread htext hpretty

end Screen
end Console

/-! ## 5.  All records -/

/-- **Every record is read back from its text.**  A record of any kind whose doubles are finite and
are read back from their numerals, whose instants are not in leap seconds and whose counts fit
words is read back from its compact and from its pretty text.

A row is read the same whether the fields that it has no values for are left out of the text or are
there with `null`.  And features that are computed from a file with the text of a list of rows are
those that are computed from the rows. -/
theorem written_records_survive :
    (Request.codec.Survives ∧ Snapshot.codec.Survives ∧ Server.codec.Survives ∧
      Row.codec.Survives ∧ FeatureVector.codec.Survives ∧ Label.codec.Survives ∧
      Scaler.codec.Survives ∧ Regressor.codec.Survives ∧ Evaluation.codec.Survives ∧
      ModelRecord.codec.Survives) ∧
    (∀ (text shorter : String) (members : List (Option String × Json)) (names : List String),
      names ⊆ Row.optionalNames →
      Json.read? text = some (.object members) →
      (∀ name ∈ names, Json.valuesOf name members = [.null]) →
      Json.read? shorter = some (.object (Json.leaveOut names members)) →
      Row.codec.ofText? shorter = Row.codec.ofText? text) ∧
    (∀ (files : FileTree) (path : Path) (rows : List (Row Float)),
      Console.Screen.HoldsRows files path rows → (∀ r ∈ rows, Row.codec.IsPlain r) →
      Console.Screen.readRows files path = .ok rows ∧
        ∀ s : Console.Screen,
          s.features? files path = (compute? rows).map (s.shownFeatures rows.length)) := by
  refine ⟨⟨Request.isLawful_codec.survives, Snapshot.isLawful_codec.survives,
    Server.isLawful_codec.survives, Row.isLawful_codec.survives,
    FeatureVector.isLawful_codec.survives, Label.isLawful_codec.survives,
    Scaler.isLawful_codec.survives, Regressor.isLawful_codec.survives,
    Evaluation.isLawful_codec.survives, ModelRecord.isLawful_codec.survives⟩, ?_, ?_⟩
  · intro text shorter members names hnames htext hnull hshorter
    rw [Codec.ofText?, Codec.ofText?, htext, hshorter]
    exact Row.ofJson?_leaveOut hnames hnull
  · intro files path rows hholds hplain
    have hread := Console.Screen.readRows_of_holdsRows hholds hplain
    exact ⟨hread, fun s => Console.Screen.features?_of_readRows hread⟩

/-! ### A row with few values -/

/-- A row at the ends of its ranges, with a reading of the load but without the memory. -/
def sparseRow : Row Float where
  requestId := -9223372036854775808
  serverId := 9223372036854775807
  timestamp := ⟨1704067204, 123456789, by decide, by decide, by decide⟩
  responseTime := 0.1
  status := .failure
  capacity := -1
  weight := none
  metricTimestamp := some ⟨-62167219200, 500000000, by decide, by decide, by decide⟩
  cpuUsage := some 1e-7
  memoryUsage := none
  requestCount := some 0

/-- The members of its record. -/
def sparseMembers : List (Option String × Json) :=
  match sparseRow.toJson with
  | .object members => members
  | _ => []

/-- A file with the row. -/
def sparseFiles : FileTree :=
  ⟨[(["rows.json"], .file (Row.codec.list.toJson [sparseRow]).compact.toUTF8)]⟩

/-- The row is read back from its text, also without the two fields that it has no values for, and
from a file of rows. -/
theorem written_records_survive_sparseRow :
    Row.codec.IsPlain sparseRow ∧
      Row.codec.ofText? sparseRow.toJson.compact = some sparseRow ∧
      Row.codec.ofText? (Json.object
        (Json.leaveOut ["memory_usage", "weight"] sparseMembers)).compact = some sparseRow ∧
      Console.Screen.readRows sparseFiles ⟨"rows.json"⟩ = .ok [sparseRow] := by
  have hplain : Row.codec.IsPlain sparseRow :=
    ⟨by decide +kernel, by decide +kernel, by decide, by decide⟩
  obtain ⟨⟨-, -, -, hrow, -⟩, hleft, hfile⟩ := written_records_survive
  have hcompact := (hrow sparseRow hplain).1
  have hwritable : Json.IsWritable (.object sparseMembers) :=
    Row.isLawful_codec.isWritable sparseRow
  have hnull : ∀ name ∈ ["memory_usage", "weight"], Json.valuesOf name sparseMembers = [.null] :=
    List.forall_mem_cons.2 ⟨rfl, List.forall_mem_singleton.2 rfl⟩
  refine ⟨hplain, hcompact, ?_, ?_⟩
  · rw [hleft _ _ sparseMembers _ (by decide) (Json.read?_compact hwritable) hnull
      (Json.read?_compact (Json.isWritable_leaveOut _ hwritable))]
    exact hcompact
  · refine (hfile sparseFiles ⟨"rows.json"⟩ [sparseRow] (.inl ?_) ?_).1
    · exact Artifact.readText_of_read rfl
    · exact List.forall_mem_singleton.2 hplain

end FleetScore
