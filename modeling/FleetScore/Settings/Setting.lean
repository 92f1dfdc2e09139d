import FleetScore.Decimal.Entry
import FleetScore.Decimal.Layout
import FleetScore.Json.Value

/-!
# A setting before it is used

Settings come from a file and from the environment.  Both say what a setting is, but
not what it is for: a variable holds a text, whatever it means.  So a setting is first
a value of no particular use, and the place that uses it asks for a count, a
measurement or a text.

The environment is read with good will.  A text that looks like a truth value, an
integer or a number is one.  The asking is generous as well: a number may be asked
for as text, a truth value as a number, and a measurement as a count, which rounds it.

A list or a table has no single value, and whoever asks for one gets none.  They are
kept all the same, because what is set later may replace a part of them.  A list may be
long and hold little: it is kept as its length and the items that were put into it, and
every other item is absent.
-/

namespace FleetScore

/-- The value of a setting.  A real number is any that is not an integer of 64 bits, and of a
list there are its length and the items that were put into it, by position. -/
inductive Setting where
  | absent
  | truth (value : Bool)
  | integer (value : Int64)
  | real (value : Float)
  | text (value : String)
  | list (size : Nat) (items : List (Nat × Setting))
  | table (members : List (String × Setting))

namespace Setting

/-! ## Parts -/

/-- Puts a value under a key, in place of the one that is there. -/
def enter {κ α : Type} [DecidableEq κ] (key : κ) (value : α) : List (κ × α) → List (κ × α)
  | [] => [(key, value)]
  | entry :: rest =>
      if entry.1 = key then (key, value) :: rest else entry :: enter key value rest

/-- What is found under a key after a value was put under one. -/
theorem lookup_enter {κ α : Type} [DecidableEq κ] (key other : κ) (value : α)
    (entries : List (κ × α)) :
    (enter key value entries).lookup other
      = if other = key then some value else entries.lookup other := by
  induction entries with
  | nil =>
      rcases Decidable.em (other = key) with h | h
      · rw [if_pos h, h, enter, List.lookup_cons_self]
      · rw [if_neg h, enter, List.lookup_cons, beq_eq_false_iff_ne.mpr h]
  | cons entry rest ih =>
      obtain ⟨k, v⟩ := entry
      rcases Decidable.em (k = key) with hk | hk
      · rw [enter, if_pos hk, List.lookup_cons]
        rcases Decidable.em (other = key) with h | h
        · rw [if_pos h, beq_iff_eq.mpr h]
        · rw [if_neg h, beq_eq_false_iff_ne.mpr h, List.lookup_cons, hk,
            beq_eq_false_iff_ne.mpr h]
      · rw [enter, if_neg hk, List.lookup_cons, List.lookup_cons, ih]
        rcases Decidable.em (other = k) with h | h
        · have hkey : ¬other = key := fun hkey => hk (h.symm.trans hkey)
          rw [beq_iff_eq.mpr h, if_neg hkey, if_neg hkey]
        · rw [beq_eq_false_iff_ne.mpr h]

/-- The members of a table; what is no table has none. -/
def members : Setting → List (String × Setting)
  | .table members => members
  | _ => []

/-- The length of a list; what is no list has none. -/
def size : Setting → Nat
  | .list size _ => size
  | _ => 0

/-- The items of a list; what is no list has none. -/
def items : Setting → List (Nat × Setting)
  | .list _ items => items
  | _ => []

/-- The value of a member. -/
def member? (s : Setting) (name : String) : Option Setting := s.members.lookup name

/-! ## Where settings come from -/

/-- A truth value, in any case. -/
def truth? (s : String) : Option Bool :=
  match String.ofList (s.toList.map Char.toLower) with
  | "true" => some true
  | "false" => some false
  | _ => none

/-- A signed 64-bit integer. -/
def int64? (s : String) : Option Int64 := do
  Word.int64? (← Decimal.Entry.integer? s.toList)

/-- The value of a variable. -/
def ofVariable (s : String) : Setting :=
  match truth? s with
  | some b => .truth b
  | none =>
      match int64? s with
      | some n => .integer n
      | none =>
          match Decimal.Entry.real? s.toList with
          | some x => .real x
          | none => .text s

mutual

/-- The value that stands in a file. -/
def ofJson : Json → Setting
  | .null => .absent
  | .bool b => .truth b
  | .number n =>
      match n.toInt64? with
      | some i => .integer i
      | none =>
          match n.toFloat? with
          | some x => .real x
          | none => .absent
  | .string (some s) => .text s
  | .string none => .absent
  | .array items => .list items.length (itemsOfJson 0 items)
  | .object members => .table (membersOfJson [] members)

/-- The items of a list from a position on. -/
def itemsOfJson (position : Nat) : List Json → List (Nat × Setting)
  | [] => []
  | j :: rest => (position, ofJson j) :: itemsOfJson (position + 1) rest

/-- The members of a table after those already entered; a name that is repeated counts
where it stands last. -/
def membersOfJson (entered : List (String × Setting)) :
    List (Option String × Json) → List (String × Setting)
  | [] => entered
  | (some name, j) :: rest => membersOfJson (enter name (ofJson j) entered) rest
  | (none, _) :: rest => membersOfJson entered rest

end

/-! ## What settings are asked for -/

/-- The words for a switch, in any case. -/
def switch? (s : String) : Option Bool :=
  match String.ofList (s.toList.map Char.toLower) with
  | "true" => some true
  | "on" => some true
  | "yes" => some true
  | "false" => some false
  | "off" => some false
  | "no" => some false
  | _ => none

/-- A 64-bit count. -/
def toCount? : Setting → Option Nat
  | .truth b => some b.toNat
  | .integer n => if 0 ≤ n.toInt then some n.toInt.toNat else none
  | .real x => some (Binary64.nearestUInt64 x).toNat
  | .text s =>
      match switch? s with
      | some b => some b.toNat
      | none => (Decimal.Entry.natural? s.toList).filter fun n => decide (n < Word.bound)
  | .absent => none
  | .list _ _ => none
  | .table _ => none

/-- A measurement. -/
def toReal? : Setting → Option Float
  | .truth b => some (Float.ofNat b.toNat)
  | .integer n => some (Float.ofInt n.toInt)
  | .real x => some x
  | .text s =>
      match switch? s with
      | some b => some (Float.ofNat b.toNat)
      | none => Decimal.Entry.real? s.toList
  | .absent => none
  | .list _ _ => none
  | .table _ => none

/-- A text. -/
def toText? : Setting → Option String
  | .truth b => some (if b then "true" else "false")
  | .integer n => some (Decimal.intText n.toInt)
  | .real x => some (Decimal.sampleText x)
  | .text s => some s
  | .absent => none
  | .list _ _ => none
  | .table _ => none

/-- A value that may be absent. -/
def toOption? {α : Type} (decode : Setting → Option α) : Setting → Option (Option α)
  | .absent => some none
  | s => (decode s).map some

end Setting
end FleetScore
