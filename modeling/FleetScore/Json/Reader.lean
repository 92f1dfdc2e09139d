import FleetScore.Json.Value

/-!
# Reading JSON

The grammar of JSON, with nothing added: no comments, no trailing commas, no mark
at the start, and nothing but blanks after the value.  Blanks are the space, the
tab, the line feed and the carriage return.

The reader consumes a list of characters.  A value inside a container is read with
one unit of fuel less, and a text of `n` characters needs at most `2 · n + 2`
units, because a nested call either consumes a bracket or follows one; `read?`
supplies them, so that nobody else sees the fuel.

Strings are read in two steps.  First the escapes are resolved one by one into
*code units*, characters or 16-bit numbers; then the numbers are joined to
characters, and a surrogate that stands alone leaves the string without content.
Separating the steps keeps the first one free of look-ahead.
-/

namespace FleetScore
namespace Json

/-! ## Strings -/

/-- What one place of a string's text stands for: a character, or a number from a `\u` escape. -/
inductive CodeUnit where
  | char (c : Char)
  | code (n : Nat)
  deriving DecidableEq

/-- The value of a hexadecimal digit. -/
def hexValue? (c : Char) : Option Nat :=
  if '0' ≤ c ∧ c ≤ '9' then some (c.toNat - '0'.toNat)
  else if 'a' ≤ c ∧ c ≤ 'f' then some (c.toNat - 'a'.toNat + 10)
  else if 'A' ≤ c ∧ c ≤ 'F' then some (c.toNat - 'A'.toNat + 10)
  else none

/-- The number spelled by four hexadecimal digits. -/
def hexCode? (a b c d : Char) : Option Nat := do
  let a ← hexValue? a
  let b ← hexValue? b
  let c ← hexValue? c
  let d ← hexValue? d
  some (((a * 16 + b) * 16 + c) * 16 + d)

/-- The character that a one-letter escape stands for. -/
def escaped? (c : Char) : Option Char :=
  match c with
  | '"' => some '"'
  | '\\' => some '\\'
  | '/' => some '/'
  | 'b' => some '\x08'
  | 'f' => some '\x0c'
  | 'n' => some '\n'
  | 'r' => some '\r'
  | 't' => some '\t'
  | _ => none

/-- The code units up to the closing quote, and what follows it. -/
def codeUnits? : List Char → Option (List CodeUnit × List Char)
  | [] => none
  | '"' :: rest => some ([], rest)
  | '\\' :: 'u' :: a :: b :: c :: d :: rest => do
      let n ← hexCode? a b c d
      let (units, rest) ← codeUnits? rest
      some (.code n :: units, rest)
  | '\\' :: c :: rest => do
      let e ← escaped? c
      let (units, rest) ← codeUnits? rest
      some (.char e :: units, rest)
  | c :: rest =>
      if c.toNat < 0x20 ∨ c = '\\' then none
      else do
        let (units, rest) ← codeUnits? rest
        some (.char c :: units, rest)

/-- Whether a number is the first half of a surrogate pair. -/
def isLeading (n : Nat) : Bool := decide (0xd800 ≤ n ∧ n < 0xdc00)

/-- Whether a number is the second half of a surrogate pair. -/
def isTrailing (n : Nat) : Bool := decide (0xdc00 ≤ n ∧ n < 0xe000)

/-- Joins code units to characters; `none` when a half of a surrogate pair stands
alone. -/
def joinUnits : List CodeUnit → Option (List Char)
  | [] => some []
  | .code hi :: .code lo :: rest =>
      if isLeading hi then
        if isTrailing lo then
          (joinUnits rest).map (Char.ofNat (0x10000 + (hi - 0xd800) * 0x400 + (lo - 0xdc00)) :: ·)
        else none
      else if isTrailing hi then none
      else (joinUnits (.code lo :: rest)).map (Char.ofNat hi :: ·)
  | .code n :: rest =>
      if isLeading n || isTrailing n then none else (joinUnits rest).map (Char.ofNat n :: ·)
  | .char c :: rest => (joinUnits rest).map (c :: ·)

/-- The content of a string, read from after its opening quote, and what follows its
closing quote. -/
def stringBody? (s : List Char) : Option (Option String × List Char) :=
  (codeUnits? s).map fun r => ((joinUnits r.1).map String.ofList, r.2)

/-! ## Values -/

/-- Whether a character may stand between the parts of a document. -/
def isBlank (c : Char) : Bool := c == ' ' || c == '\n' || c == '\t' || c == '\r'

/-- A text without the blanks it starts with. -/
def skipBlanks (s : List Char) : List Char := s.dropWhile isBlank

mutual

/-- A value at the start of a text, and the rest. -/
def value? : Nat → List Char → Option (Json × List Char)
  | 0, _ => none
  | fuel + 1, s =>
      match skipBlanks s with
      | 'n' :: 'u' :: 'l' :: 'l' :: rest => some (.null, rest)
      | 't' :: 'r' :: 'u' :: 'e' :: rest => some (.bool true, rest)
      | 'f' :: 'a' :: 'l' :: 's' :: 'e' :: rest => some (.bool false, rest)
      | '"' :: rest => (stringBody? rest).map fun r => (.string r.1, r.2)
      | '[' :: rest =>
          match skipBlanks rest with
          | ']' :: rest => some (.array [], rest)
          | rest => (items? fuel rest).map fun r => (.array r.1, r.2)
      | '{' :: rest =>
          match skipBlanks rest with
          | '}' :: rest => some (.object [], rest)
          | rest => (members? fuel rest).map fun r => (.object r.1, r.2)
      | s => (Decimal.Numeral.read? s).map fun r => (.number r.1, r.2)

/-- The items of an array up to its bracket, and what follows. -/
def items? : Nat → List Char → Option (List Json × List Char)
  | 0, _ => none
  | fuel + 1, s => do
      let (item, rest) ← value? fuel s
      match skipBlanks rest with
      | ']' :: rest => some ([item], rest)
      | ',' :: rest => (items? fuel rest).map fun r => (item :: r.1, r.2)
      | _ => none

/-- The members of an object up to its brace, and what follows. -/
def members? : Nat → List Char → Option (List (Option String × Json) × List Char)
  | 0, _ => none
  | fuel + 1, s =>
      match skipBlanks s with
      | '"' :: rest => do
          let (name, rest) ← stringBody? rest
          match skipBlanks rest with
          | ':' :: rest => do
              let (value, rest) ← value? fuel rest
              match skipBlanks rest with
              | '}' :: rest => some ([(name, value)], rest)
              | ',' :: rest => (members? fuel rest).map fun r => ((name, value) :: r.1, r.2)
              | _ => none
          | _ => none
      | _ => none

end

/-- The value at the start of a text, and what follows it. -/
def leading? (text : String) : Option (Json × List Char) :=
  let s := text.toList
  value? (2 * s.length + 2) s

/-- Whether nothing but blanks is left. -/
def isEnd (rest : List Char) : Bool := (skipBlanks rest).isEmpty

/-- Reads a document: one value, and nothing but blanks after it. -/
def read? (text : String) : Option Json := do
  let (value, rest) ← leading? text
  if isEnd rest then some value else none

/-- The value at the start of a text, if a strict reader accepts it, and what follows
it. -/
def leadingStrict? (text : String) : Option (Json × List Char) := do
  let (value, rest) ← leading? text
  if value.isStrict depthLimit then some (value, rest) else none

/-- Reads a document that a strict reader accepts. -/
def readStrict? (text : String) : Option Json := do
  let (value, rest) ← leadingStrict? text
  if isEnd rest then some value else none

end Json
end FleetScore
