import FleetScore.Decimal.Layout
import FleetScore.Decimal.Reading

/-!
# JSON trees

A tree of JSON keeps what a reader of records may still need and no more.

Numbers are kept as numerals.  Whether a numeral is an integer, whether it fits a
field, and to which double it rounds, is asked by the field it is read into.

A string is kept with its content, or with `none` when an escape in it names half
of a surrogate pair without the other half.  Such a string is well-formed text and
may be skipped, but it has no content and no field accepts it.

The members of an object are kept in the order of the text, repeated names
included; what a repetition means is again for the reader to say.
-/

namespace FleetScore

/-- A JSON document.  Numbers are kept as they are spelled, a string without content holds half
a surrogate pair, and the members of an object stand in the order of the text. -/
inductive Json where
  | null
  | bool (value : Bool)
  | number (numeral : Decimal.Numeral)
  | string (content : Option String)
  | array (items : List Json)
  | object (members : List (Option String × Json))

namespace Json

/-! ## Building trees -/

/-- A string. -/
def text (s : String) : Json := .string (some s)

/-- An integer. -/
def int (n : Int) : Json := .number (Decimal.Numeral.ofInt n)

/-- A count. -/
def nat (n : Nat) : Json := int n

/-- A double; `null` if it is infinite or not a number. -/
def float (x : Float) : Json :=
  match Binary64.shape x with
  | .finite negative m q => .number (Decimal.interchange.numeral negative m q)
  | _ => .null

/-- A list of values. -/
def list {α : Type} (encode : α → Json) (items : List α) : Json := .array (items.map encode)

/-- A value that may be absent; `null` if it is. -/
def optional {α : Type} (encode : α → Json) : Option α → Json
  | none => .null
  | some a => encode a

/-- An object with the given members. -/
def record (members : List (String × Json)) : Json :=
  .object (members.map fun m => (some m.1, m.2))

/-! ## What a strict reader requires -/

mutual

/-- Whether a tree has no more than `depth` containers around anything in it, every
number fits a double and every string has content. -/
def isStrict (depth : Nat) : Json → Bool
  | .null => true
  | .bool _ => true
  | .number n => n.toFloat?.isSome
  | .string content => content.isSome
  | .array items => depth != 0 && areStrict (depth - 1) items
  | .object members => depth != 0 && membersAreStrict (depth - 1) members

/-- `isStrict` for each item of a list. -/
def areStrict (depth : Nat) : List Json → Bool
  | [] => true
  | j :: rest => isStrict depth j && areStrict depth rest

/-- `isStrict` for each value of a list of members, whose names must have content. -/
def membersAreStrict (depth : Nat) : List (Option String × Json) → Bool
  | [] => true
  | (name, j) :: rest => name.isSome && isStrict depth j && membersAreStrict depth rest

end

/-- How many containers a strict reader lets stand around anything. -/
def depthLimit : Nat := 127

end Json
end FleetScore
