import FleetScore.Json.Value
import FleetScore.Text.Quoted

/-!
# Writing JSON

Two spellings of the same tree.  The *compact* one has no blanks at all; the
*pretty* one puts each item and each member on a line of its own, indented by two
spaces a level, with a blank after each colon, and leaves empty containers closed
on one line.

Strings escape the quote, the backslash and the control characters, five of these
by a letter and the others by number; everything else is written as it is.  A
string without content is written as an empty one; no encoder builds it.
-/

namespace FleetScore
namespace Json

/-- How a character is written inside a string. -/
def escapeChar (c : Char) : List Char :=
  match c with
  | '"' => ['\\', '"']
  | '\\' => ['\\', '\\']
  | '\x08' => ['\\', 'b']
  | '\t' => ['\\', 't']
  | '\n' => ['\\', 'n']
  | '\x0c' => ['\\', 'f']
  | '\r' => ['\\', 'r']
  | c =>
      if c.toNat < 0x20 then '\\' :: 'u' :: (Text.hexPadded 4 c.toNat).toList else [c]

/-- A string between quotes. -/
def stringChars (s : String) : List Char :=
  '"' :: (s.toList.flatMap escapeChar ++ ['"'])

/-! ## Compact -/

mutual

/-- A document without blanks. -/
def chars : Json → List Char
  | .null => ['n', 'u', 'l', 'l']
  | .bool true => ['t', 'r', 'u', 'e']
  | .bool false => ['f', 'a', 'l', 's', 'e']
  | .number n => n.chars
  | .string content => stringChars (content.getD "")
  | .array items => '[' :: (itemsChars items ++ [']'])
  | .object members => '{' :: (membersChars members ++ ['}'])

/-- Items separated by commas. -/
def itemsChars : List Json → List Char
  | [] => []
  | [j] => chars j
  | j :: rest => chars j ++ ',' :: itemsChars rest

/-- Members separated by commas. -/
def membersChars : List (Option String × Json) → List Char
  | [] => []
  | [(name, j)] => stringChars (name.getD "") ++ ':' :: chars j
  | (name, j) :: rest =>
      stringChars (name.getD "") ++ ':' :: (chars j ++ ',' :: membersChars rest)

end

/-- The compact text of a document. -/
def compact (j : Json) : String := String.ofList j.chars

/-! ## Pretty -/

/-- A new line with the indentation of a level. -/
def newline (level : Nat) : List Char := '\n' :: List.replicate (2 * level) ' '

mutual

/-- A document on several lines, whose own first line stands at `level`. -/
def prettyChars (level : Nat) : Json → List Char
  | .array [] => ['[', ']']
  | .array items =>
      '[' :: (newline (level + 1) ++ prettyItems (level + 1) items ++ newline level ++ [']'])
  | .object [] => ['{', '}']
  | .object members =>
      '{' :: (newline (level + 1) ++ prettyMembers (level + 1) members ++ newline level ++ ['}'])
  | .null => ['n', 'u', 'l', 'l']
  | .bool true => ['t', 'r', 'u', 'e']
  | .bool false => ['f', 'a', 'l', 's', 'e']
  | .number n => n.chars
  | .string content => stringChars (content.getD "")

/-- Items on lines of their own. -/
def prettyItems (level : Nat) : List Json → List Char
  | [] => []
  | [j] => prettyChars level j
  | j :: rest => prettyChars level j ++ ',' :: (newline level ++ prettyItems level rest)

/-- Members on lines of their own. -/
def prettyMembers (level : Nat) : List (Option String × Json) → List Char
  | [] => []
  | [(name, j)] => stringChars (name.getD "") ++ ':' :: ' ' :: prettyChars level j
  | (name, j) :: rest =>
      stringChars (name.getD "")
        ++ ':' :: ' ' :: (prettyChars level j ++ ',' :: (newline level ++ prettyMembers level rest))

end

/-- The pretty text of a document. -/
def pretty (j : Json) : String := String.ofList (prettyChars 0 j)

end Json
end FleetScore
