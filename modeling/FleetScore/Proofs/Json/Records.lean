import FleetScore.Json.Decode
import FleetScore.Proofs.Json.Layouts
import FleetScore.Proofs.Order.Groups
import FleetScore.Proofs.Time.TimestampText

/-!
# Values that are encoded are decoded

A record is put together from texts, counts, doubles, instants, and from lists and optional values
of these.  For each of them there is one lemma that decoding answers what was encoded, one that the
encoded value can be written, and, as far as strict readers need it, one that it is strict.  A
record is then a matter of applying them field by field.

Not everything comes back as it was.  An instant comes back settled and a double as the double that
its numeral is read as.  So the lemmas about lists and optional values are about any `f` that
decoding applies to the encoded values.
-/

namespace FleetScore
namespace Json

variable {α β : Type} {encode : α → Json} {decode : Json → Option β} {f : α → β}

/-! ## 1.  Decoding -/

@[simp] theorem toText?_text (s : String) : (text s).toText? = some s := rfl

/-- **A count is decoded if it fits a word.** -/
theorem toCount?_nat (n : Nat) : (nat n).toCount? = if n < 2 ^ 64 then some n else none := by
  have hread : (nat n).toUInt64? = Word.uint64? n := by
    show (Decimal.Numeral.ofInt n).toInt?.bind Word.uint64? = _
    rw [Decimal.Numeral.toInt?_ofInt_natCast, Option.bind_some]
  have hbound : (0 ≤ (n : Int) ∧ (n : Int) < (Word.bound : Nat)) ↔ n < 2 ^ 64 := by
    rw [Word.bound]
    omega
  rw [toCount?, hread, Word.uint64?]
  by_cases h : n < 2 ^ 64
  · rw [if_pos (hbound.mpr h), if_pos h, Option.map_some, Int.toNat_natCast,
      UInt64.toNat_ofNat_of_lt' h]
  · rw [if_neg (mt hbound.mp h), if_neg h, Option.map_none]

/-- **An instant is decoded from its text**, leap seconds settled. -/
theorem toInstant?_text (t : Instant) :
    (text (Timestamp.text t)).toInstant? = some t.settled := by
  rw [toInstant?, toText?_text, Option.bind_some, Timestamp.read?_text]

/-- **A list is decoded if its members are.** -/
theorem toList?_list {items : List α} (h : ∀ a ∈ items, decode (encode a) = some (f a)) :
    (list encode items).toList? decode = some (items.map f) := by
  show (items.map encode).mapM decode = _
  rw [List.mapM_map]
  exact mapM_eq_some_map h

theorem toList?_texts (items : List String) :
    (list text items).toList? toText? = some items := by
  rw [toList?_list fun s _ => toText?_text s, List.map_id']

/-- An optional value is decoded if the value is, unless that is written as `null`. -/
theorem toOption?_optional {o : Option α} (h : ∀ a ∈ o, decode (encode a) = some (f a))
    (hnull : ∀ a ∈ o, encode a ≠ .null) :
    (optional encode o).toOption? decode = some (o.map f) := by
  cases o with
  | none => rfl
  | some a =>
    have hdecode := h a rfl
    have hne := hnull a rfl
    show (encode a).toOption? decode = some (some (f a))
    unfold toOption?
    split
    · contradiction
    · rw [hdecode, Option.map_some]

theorem toOption?_optionalText (o : Option String) :
    (optional text o).toOption? toText? = some o := by
  rw [toOption?_optional (fun s _ => toText?_text s) (fun s _ => by simp [text]), Option.map_id']

/-! ## 2.  Strictness -/

theorem areStrict_iff {depth : Nat} {items : List Json} :
    areStrict depth items = true ↔ ∀ j ∈ items, isStrict depth j = true := by
  induction items with
  | nil => simp [areStrict]
  | cons j items ih => simp [areStrict, ih]

theorem isStrict_text (depth : Nat) (s : String) : (text s).isStrict depth = true := rfl

/-- A list is strict a level below its members. -/
theorem isStrict_list {depth : Nat} {items : List α}
    (h : ∀ a ∈ items, (encode a).isStrict depth = true) :
    (list encode items).isStrict (depth + 1) = true := by
  rw [list, isStrict, Nat.add_sub_cancel, Bool.and_eq_true, areStrict_iff]
  refine ⟨by simp, ?_⟩
  intro j hj
  obtain ⟨a, ha, rfl⟩ := List.mem_map.1 hj
  exact h a ha

theorem isStrict_record {depth : Nat} {members : List (String × Json)}
    (h : ∀ m ∈ members, m.2.isStrict depth = true) :
    (record members).isStrict (depth + 1) = true := by
  rw [record, isStrict, Nat.add_sub_cancel, Bool.and_eq_true]
  refine ⟨by simp, ?_⟩
  induction members with
  | nil => rfl
  | cons m members ih =>
    have hm := h m List.mem_cons_self
    have hrest := ih fun m' hm' => h m' (List.mem_cons_of_mem _ hm')
    simp [membersAreStrict, hm, hrest]

end Json
end FleetScore
