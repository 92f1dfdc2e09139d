import FleetScore.Proofs.Json.CompactLayout
import FleetScore.Proofs.Json.Measurements
import FleetScore.Proofs.Json.Records
import FleetScore.Store.RecordText

/-!
# Codecs

A type of records has an encoder and a decoder, and the two can drift apart.  `Codec` puts them side
by side, together with the parts of a value that do not survive in every case: its doubles, its
instants and its counts.  A value is *plain* if they do, and a codec is lawful if every value can be
written and every plain value is decoded from its own encoding.

What follows from that is the same for all records.  A plain value is read back from its compact and
from its pretty text (`IsLawful.survives`), and a list of plain values from the texts of the list
(`IsLawful.list`).

## What may be left out

A decoder of an object looks its fields up by name, and a field that may be left out counts as
`null`.  So it makes no difference whether such a field stands there with `null` or not at all, for
any of them at once and wherever in the object they would stand (`objectFields?_leaveOut`).
-/

namespace FleetScore

/-! ## 1.  Words, instants and statuses -/

/-- **The numeral of an integer spells it**, whatever its sign. -/
theorem Decimal.Numeral.toInt?_ofInt (n : Int) : (Decimal.Numeral.ofInt n).toInt? = some n := by
  obtain hn | hn := Int.lt_or_le n 0
  · have hspelled : ofDigits (digits n.natAbs) = n.natAbs := ofDigits_digits _
    have hnonzero : n.natAbs ≠ 0 := by omega
    have hvalue : -(n.natAbs : Int) = n := by omega
    unfold toInt? ofInt
    dsimp only
    rw [hspelled, decide_eq_true hn, if_pos rfl, if_neg hnonzero, hvalue]
    rfl
  · obtain ⟨k, rfl⟩ := Int.eq_ofNat_of_zero_le hn
    exact toInt?_ofInt_natCast k

namespace Word

theorem int64?_toInt (n : Int64) : int64? n.toInt = some n := by
  have hlow : -9223372036854775808 ≤ n.toInt := n.le_toInt
  have hhigh : n.toInt < 9223372036854775808 := n.toInt_lt
  have hfits : -(signedBound : Int) ≤ n.toInt ∧ n.toInt < (signedBound : Int) := by
    rw [signedBound]
    omega
  rw [int64?, if_pos hfits, Int64.ofInt_toInt]

theorem uint64?_toNat (n : UInt64) : uint64? n.toNat = some n := by
  have hhigh := n.toNat_lt
  have hfits : 0 ≤ (n.toNat : Int) ∧ (n.toNat : Int) < (bound : Int) := by
    rw [bound]
    omega
  rw [uint64?, if_pos hfits, Int.toNat_natCast, UInt64.ofNat_toNat]

end Word

namespace Json

/-- **A signed word is decoded**, up to both ends of its range. -/
theorem toInt64?_int64 (n : Int64) : (int64 n).toInt64? = some n := by
  show (Decimal.Numeral.ofInt n.toInt).toInt?.bind Word.int64? = some n
  rw [Decimal.Numeral.toInt?_ofInt, Option.bind_some, Word.int64?_toInt]

/-- **An unsigned word is decoded.** -/
theorem toUInt64?_nat (n : UInt64) : (nat n.toNat).toUInt64? = some n := by
  show (Decimal.Numeral.ofInt n.toNat).toInt?.bind Word.uint64? = some n
  rw [Decimal.Numeral.toInt?_ofInt, Option.bind_some, Word.uint64?_toNat]

/-- **An instant without a leap second is decoded.** -/
theorem toInstant?_toJson {t : Instant} (h : t.nano < nanosPerSecond) :
    t.toJson.toInstant? = some t := by
  rw [Instant.toJson, toInstant?_text, Timestamp.settled_of_nano_lt h]

theorem ofJson?_status (s : Status) : Status.ofJson? s.toJson = some s := by
  cases s <;> rfl

/-- What is decoded as a measurement is not `null`. -/
theorem ne_null_of_toFloat? {j : Json} {x : Float} (h : j.toFloat? = some x) : j ≠ .null := by
  rintro rfl
  cases h

theorem toOption?_optionalInt64 (o : Option Int64) :
    (optional int64 o).toOption? toInt64? = some o := by
  rw [toOption?_optional (fun n _ => toInt64?_int64 n) (fun n _ => Json.noConfusion),
    Option.map_id']

theorem toOption?_optionalInstant {o : Option Instant} (h : ∀ t ∈ o, t.nano < nanosPerSecond) :
    (optional Instant.toJson o).toOption? toInstant? = some o := by
  rw [toOption?_optional (fun t ht => toInstant?_toJson (h t ht)) (fun t _ => Json.noConfusion),
    Option.map_id']

theorem toOption?_optionalFloat {o : Option Float}
    (h : ∀ x ∈ o, (float x).toFloat? = some x) :
    (optional float o).toOption? toFloat? = some o := by
  rw [toOption?_optional h (fun x hx => ne_null_of_toFloat? (h x hx)), Option.map_id']

theorem isWritable_optional {α : Type} {encode : α → Json} (h : ∀ a, IsWritable (encode a))
    (o : Option α) : IsWritable (optional encode o) := by
  cases o with
  | none => trivial
  | some a => exact h a

/-- **What is written compactly is read back.** -/
theorem read?_compact {j : Json} (h : IsWritable j) : read? j.compact = some j :=
  read?_of_laysOut (laysOut_chars j h)

/-! ## 2.  Fields that are left out -/

/-- The members of an object without those of some names. -/
def leaveOut (names : List String) (members : List (Option String × Json)) :
    List (Option String × Json) :=
  members.filter fun m => decide (m.1 ∉ names.map some)

theorem valuesOf_leaveOut_of_mem {names : List String} {name : String} (h : name ∈ names)
    (members : List (Option String × Json)) : valuesOf name (leaveOut names members) = [] := by
  rw [valuesOf, leaveOut, List.filter_filter, List.map_eq_nil_iff, List.filter_eq_nil_iff]
  intro m _ hm
  rw [Bool.and_eq_true, beq_iff_eq, decide_eq_true_iff] at hm
  exact hm.2 (hm.1 ▸ List.mem_map_of_mem h)

theorem valuesOf_leaveOut_of_not_mem {names : List String} {name : String} (h : name ∉ names)
    (members : List (Option String × Json)) :
    valuesOf name (leaveOut names members) = valuesOf name members := by
  rw [valuesOf, leaveOut, List.filter_filter, valuesOf]
  refine congrArg _ (List.filter_congr fun m _ => ?_)
  rw [Bool.and_eq_left_iff_imp]
  intro hm
  rw [beq_iff_eq] at hm
  rw [decide_eq_true_iff, hm, List.mem_map_of_injective (Option.some_injective _)]
  exact h

theorem mapM_congr {α β : Type} {f g : α → Option β} {xs : List α} (h : ∀ x ∈ xs, f x = g x) :
    xs.mapM f = xs.mapM g := by
  induction xs with
  | nil => rfl
  | cons x xs ih =>
    obtain ⟨hx, hxs⟩ := List.forall_mem_cons.1 h
    rw [List.mapM_cons, List.mapM_cons, hx, ih hxs]

/-- **A field that may be left out is read the same** as one that stands there with `null`, and all
other fields of the object are read as before. -/
theorem objectFields?_leaveOut {fields : List Field} {names : List String}
    {members : List (Option String × Json)}
    (habsence : ∀ f ∈ fields, f.name ∈ names → f.absence ≠ .required)
    (hnull : ∀ name ∈ names, valuesOf name members = [.null]) :
    objectFields? fields (leaveOut names members) = objectFields? fields members := by
  have hnames : (leaveOut names members).all (fun m => m.1.isSome) =
      members.all fun m => m.1.isSome := by
    rw [Bool.eq_iff_iff, List.all_eq_true, List.all_eq_true]
    refine ⟨fun h m hm => ?_, fun h m hm => h m (List.mem_of_mem_filter hm)⟩
    by_cases hleft : m.1 ∈ names.map some
    · obtain ⟨name, -, hname⟩ := List.mem_map.1 hleft
      rw [← hname]
      rfl
    · exact h m (List.mem_filter.2 ⟨hm, decide_eq_true hleft⟩)
  have hfield : ∀ f ∈ fields, memberField? f (leaveOut names members) = memberField? f members := by
    intro f hf
    by_cases hleft : f.name ∈ names
    · rw [memberField?, memberField?, valuesOf_leaveOut_of_mem hleft, hnull _ hleft]
      exact if_neg (habsence f hf hleft)
    · rw [memberField?, memberField?, valuesOf_leaveOut_of_not_mem hleft]
  rw [objectFields?, objectFields?, hnames, mapM_congr hfield]

theorem isWritable_leaveOut (names : List String) {members : List (Option String × Json)}
    (h : IsWritable (.object members)) : IsWritable (.object (leaveOut names members)) := by
  have hmembers : MembersAreWritable members := h
  show MembersAreWritable (leaveOut names members)
  induction members with
  | nil => trivial
  | cons m members ih =>
    obtain ⟨hname, hvalue, hrest⟩ := hmembers
    rw [leaveOut, List.filter_cons]
    split
    · exact ⟨hname, hvalue, ih hrest hrest⟩
    · exact ih hrest hrest

end Json

/-! ## 3.  Codecs -/

/-- How the values of a type are written and read as records, and which parts of a value do not
survive in every case: its doubles, its instants, and its counts that are not words. -/
structure Codec (α : Type) where
  toJson : α → Json
  ofJson? : Json → Option α
  numbers : α → List Float
  instants : α → List Instant
  counts : α → List Nat

namespace Codec

variable {α : Type} {c : Codec α}

/-- Whether the doubles of a value are finite and are read back from their numerals, none of its
instants is in a leap second, and its counts fit words. -/
structure IsPlain (c : Codec α) (a : α) : Prop where
  isFinite : ∀ x ∈ c.numbers a, Scalar.isFinite x = true
  isExact : ∀ x ∈ c.numbers a, Scalar.isFinite x = true → (Json.float x).toFloat? = some x
  nano_lt : ∀ t ∈ c.instants a, t.nano < nanosPerSecond
  count_lt : ∀ n ∈ c.counts a, n < 2 ^ 64

theorem IsPlain.toFloat? {a : α} (h : c.IsPlain a) :
    ∀ x ∈ c.numbers a, (Json.float x).toFloat? = some x :=
  fun x hx => h.isExact x hx (h.isFinite x hx)

/-- Whether the decoder of a codec undoes its encoder: every value can be written, and every
plain value is decoded from its encoding. -/
structure IsLawful (c : Codec α) : Prop where
  isWritable : ∀ a, Json.IsWritable (c.toJson a)
  ofJson?_toJson : ∀ a, c.IsPlain a → c.ofJson? (c.toJson a) = some a

/-- Reads a value from a text. -/
def ofText? (c : Codec α) (text : String) : Option α := (Json.read? text).bind c.ofJson?

/-- Whether a plain value is read back from its texts, the compact one and the pretty one. -/
def Survives (c : Codec α) : Prop :=
  ∀ a, c.IsPlain a →
    c.ofText? (c.toJson a).compact = some a ∧ c.ofText? (c.toJson a).pretty = some a

/-- **A plain value of a lawful codec is read back from its texts.** -/
theorem IsLawful.survives (h : c.IsLawful) : c.Survives := by
  intro a ha
  have hwritable := h.isWritable a
  rw [ofText?, ofText?, Json.read?_compact hwritable, Json.read?_pretty hwritable,
    Option.bind_some, h.ofJson?_toJson a ha]
  exact ⟨rfl, rfl⟩

/-- The codec of lists. -/
def list (c : Codec α) : Codec (List α) where
  toJson := Json.list c.toJson
  ofJson? := Json.toList? c.ofJson?
  numbers := fun as => as.flatMap c.numbers
  instants := fun as => as.flatMap c.instants
  counts := fun as => as.flatMap c.counts

theorem isPlain_list_iff {as : List α} : c.list.IsPlain as ↔ ∀ a ∈ as, c.IsPlain a := by
  have hall : ∀ {β : Type} (parts : α → List β) (P : β → Prop),
      (∀ b ∈ as.flatMap parts, P b) ↔ ∀ a ∈ as, ∀ b ∈ parts a, P b := by
    intro β parts P
    simp only [List.mem_flatMap]
    exact ⟨fun h a ha b hb => h b ⟨a, ha, hb⟩, fun h b ⟨a, ha, hb⟩ => h a ha b hb⟩
  constructor
  · rintro ⟨hfinite, hexact, hnano, hcount⟩ a ha
    exact ⟨(hall _ _).1 hfinite a ha, (hall _ _).1 hexact a ha, (hall _ _).1 hnano a ha,
      (hall _ _).1 hcount a ha⟩
  · intro h
    exact ⟨(hall _ _).2 fun a ha => (h a ha).isFinite, (hall _ _).2 fun a ha => (h a ha).isExact,
      (hall _ _).2 fun a ha => (h a ha).nano_lt, (hall _ _).2 fun a ha => (h a ha).count_lt⟩

/-- **Lists of values of a lawful codec are read back.** -/
theorem IsLawful.list (h : c.IsLawful) : c.list.IsLawful where
  isWritable as := Json.isWritable_list fun a _ => h.isWritable a
  ofJson?_toJson as has := by
    have hdecode : (Json.list c.toJson as).toList? c.ofJson? = some (as.map id) :=
      Json.toList?_list fun a ha => h.ofJson?_toJson a (isPlain_list_iff.1 has a ha)
    rwa [List.map_id] at hdecode

end Codec
end FleetScore
