import FleetScore.Json.Value
import FleetScore.Time.Timestamp

/-!
# From trees to fields

A record is written as an object, or as an array of its fields in order.  `fields?`
finds the fields of a record in either form and answers them in the record's own
order; what is then left to do is to read each of them.

## Absent fields

What may be absent depends on the form, so each field says how it takes absence:

* `required`: the field is always there;
* `nullable`: an object may leave it out, an array may not;
* `optional`: an object may leave it out, and so may an array at its end.

A field that is left out is answered as `null`, which is what the fields that may
be left out read as no value.  Names that belong to no field are skipped with
whatever stands under them; a field's name that occurs twice, a name without
content, or more items than fields, refuse the whole record.
-/

namespace FleetScore
namespace Json

/-! ## Single fields -/

/-- A signed 64-bit integer. -/
def toInt64? : Json → Option Int64
  | .number n => n.toInt64?
  | _ => none

/-- A 64-bit count. -/
def toUInt64? : Json → Option UInt64
  | .number n => n.toUInt64?
  | _ => none

/-- A 64-bit count as a natural number. -/
def toCount? (j : Json) : Option Nat := j.toUInt64?.map UInt64.toNat

/-- A measurement; integers are measurements too. -/
def toFloat? : Json → Option Float
  | .number n => n.toFloat?
  | _ => none

/-- A text. -/
def toText? : Json → Option String
  | .string content => content
  | _ => none

/-- An instant, as a timestamp. -/
def toInstant? (j : Json) : Option Instant := j.toText?.bind Timestamp.read?

/-- A list. -/
def toList? {α : Type} (decode : Json → Option α) : Json → Option (List α)
  | .array items => items.mapM decode
  | _ => none

/-- A value that may be `null`. -/
def toOption? {α : Type} (decode : Json → Option α) : Json → Option (Option α)
  | .null => some none
  | j => (decode j).map some

/-! ## Records -/

/-- How a field takes its absence: it must be there, an object may leave it out, or moreover an
array may end before it. -/
inductive Absence where
  | required
  | nullable
  | optional
  deriving DecidableEq, Repr

/-- A field of a record: its name in an object, and how it takes its absence. -/
structure Field where
  name : String
  absence : Absence
  deriving DecidableEq, Repr

/-- The fields of an array, filled up with `null` at the end where that is allowed. -/
def arrayFields? : List Field → List Json → Option (List Json)
  | [], [] => some []
  | [], _ :: _ => none
  | _ :: fields, j :: items => (arrayFields? fields items).map (j :: ·)
  | f :: fields, [] =>
      if f.absence = .optional then (arrayFields? fields []).map (.null :: ·) else none

/-- The values under a name. -/
def valuesOf (name : String) (members : List (Option String × Json)) : List Json :=
  (members.filter fun m => m.1 == some name).map Prod.snd

/-- The value of one field of an object. -/
def memberField? (f : Field) (members : List (Option String × Json)) : Option Json :=
  match valuesOf f.name members with
  | [j] => some j
  | [] => if f.absence = .required then none else some .null
  | _ => none

/-- The fields of an object. -/
def objectFields? (fields : List Field) (members : List (Option String × Json)) :
    Option (List Json) :=
  if members.all fun m => m.1.isSome then fields.mapM fun f => memberField? f members else none

/-- The fields of a record in the record's order. -/
def fields? (fields : List Field) : Json → Option (List Json)
  | .array items => arrayFields? fields items
  | .object members => objectFields? fields members
  | _ => none

end Json
end FleetScore
