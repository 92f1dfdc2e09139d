import FleetScore.Settings.Setting

/-!
# The part of the settings that a name means

Settings form a table, and a name says which part of it is set.  Mostly that is a
member: `epochs`.  But a name may go on.  `a.b` is the member `b` of the table `a`, and
`a[2]` the third item of the list `a`; an index below zero counts from the end.  What is
not wholly of this form is a name that means a member spelled just so.

Setting a part makes room for it.  Where a table is needed and something else stands, an
empty table takes its place, and so it is with lists; a list grows to hold the item that
is set.  Only an index from before the beginning, or one beyond what a list can hold,
finds no place at all.

A table that is set where a table is does not replace it: its members are set one by
one.  Every other value replaces what was there.
-/

namespace FleetScore

/-- One step further into a setting: to a member of a table, or to an item of a list. -/
inductive SettingStep where
  | member (name : String)
  | item (index : Int)
  deriving DecidableEq, Repr

/-- The steps from the table of all settings to one part of it. -/
abbrev SettingPath := List SettingStep

namespace SettingPath

/-! ## Reading a name -/

/-- Whether a character may stand in a name that goes on. -/
def isNameChar (c : Char) : Bool := c.isAlphanum || c == '_' || c == '-' || c == ' '

/-- The name at the start of a text, and the rest. -/
def nameRun (s : List Char) : List Char × List Char :=
  (s.takeWhile isNameChar, s.dropWhile isNameChar)

/-- A text without the spaces and tabs it starts with. -/
def dropSpaces (s : List Char) : List Char := s.dropWhile fun c => c == ' ' || c == '\t'

/-- The digits at the start of a text as a number, and the rest. -/
def magnitude? (s : List Char) : Option (Nat × List Char) :=
  match Decimal.Entry.run s with
  | ([], _) => none
  | (ds, rest) => some (Decimal.ofDigits ds, rest)

/-- A number, perhaps after a minus, that fits a signed word. -/
def signed? (s : List Char) : Option (Int × List Char) := do
  let (n, rest) ← match s with
    | '-' :: rest => (magnitude? rest).map fun r => (-(r.1 : Int), r.2)
    | s => (magnitude? s).map fun r => ((r.1 : Int), r.2)
  let n ← Word.int64? n
  some (n.toInt, rest)

/-- An index up to its closing bracket, and the rest. -/
def index? (s : List Char) : Option (Int × List Char) := do
  let (n, rest) ← signed? (dropSpaces s)
  match dropSpaces rest with
  | ']' :: rest => some (n, rest)
  | _ => none

/-- The steps that a text spells after its first name; `fuel` is at least its length. -/
def steps? : Nat → List Char → Option SettingPath
  | _, [] => some []
  | fuel + 1, '.' :: rest =>
      match nameRun rest with
      | ([], _) => none
      | (name, rest) => (steps? fuel rest).map (.member (String.ofList name) :: ·)
  | fuel + 1, '[' :: rest => do
      let (n, rest) ← index? rest
      (steps? fuel rest).map (.item n :: ·)
  | _, _ => none

/-- The part of the settings that a name means. -/
def ofName (name : String) : SettingPath :=
  match nameRun name.toList with
  | ([], _) => [.member name]
  | (first, rest) =>
      match steps? rest.length rest with
      | some steps => .member (String.ofList first) :: steps
      | none => [.member name]

end SettingPath

namespace Setting

/-! ## Setting a part -/

mutual

/-- What is there after a value was set where `old` was. -/
def overlay (old : Option Setting) : Setting → Setting
  | .table members => overlayAll (old.getD (.table [])) members
  | value => value

/-- What is there after all members of a table were set, one by one. -/
def overlayAll (old : Setting) : List (String × Setting) → Setting
  | [] => old
  | (name, value) :: rest =>
      overlayAll (.table (enter name (overlay (old.member? name) value) old.members)) rest

end

/-- The first length that no list has: its items would not fit the memory. -/
def sizeBound : Nat := 96076792050570582

/-- The position in a list that an index means, if the list can hold it. -/
def position? (size : Nat) (index : Int) : Option Nat :=
  let position := if index < 0 then size + index else index
  if 0 ≤ position ∧ position.toNat + 1 < sizeBound then some position.toNat else none

/-- Sets a part of a setting; `none` if an index finds no place. -/
def put? (value old : Setting) : SettingPath → Option Setting
  | [] => some value
  | [.member name] =>
      some (.table (enter name (overlay (old.member? name) value) old.members))
  | .member name :: rest => do
      let inner ← put? value ((old.member? name).getD .absent) rest
      some (.table (enter name inner old.members))
  | .item index :: rest => do
      let position ← position? old.size index
      let inner ← put? value ((old.items.lookup position).getD .absent) rest
      some (.list (max old.size (position + 1)) (enter position inner old.items))

/-- Sets the part of a setting that a name means. -/
def assign? (s : Setting) (name : String) (value : Setting) : Option Setting :=
  put? value s (SettingPath.ofName name)

end Setting
end FleetScore
