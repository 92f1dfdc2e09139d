import FleetScore.Text.Printable

/-!
# Quoted text in messages

Names and identifiers in a message are set between quotes so that a reader sees
where they end.  A quote or a backslash inside is escaped, the common blanks
have a letter each, and a character that cannot be shown is given by its code
point in braces.  Sets are written between braces and lists between brackets,
members separated by a comma and a space.
-/

namespace FleetScore
namespace Text

/-- A natural number in lower-case hexadecimal. -/
def hexText (n : Nat) : String := String.ofList (Nat.toDigits 16 n)

/-- A natural number in lower-case hexadecimal, filled with zeros up to a width. -/
def hexPadded (width n : Nat) : String :=
  let digits := Nat.toDigits 16 n
  String.ofList (List.replicate (width - digits.length) '0' ++ digits)

/-- How a character is written between quotes. -/
def quotedChar (c : Char) : String :=
  match c with
  | '"' => "\\\""
  | '\\' => "\\\\"
  | '\t' => "\\t"
  | '\r' => "\\r"
  | '\n' => "\\n"
  | '\x00' => "\\0"
  | c =>
      if isPrintable c then String.singleton c
      else "\\u\x7b" ++ hexText c.toNat ++ "\x7d"

/-- A text between quotes. -/
def quoted (s : String) : String :=
  "\"" ++ String.join (s.toList.map quotedChar) ++ "\""

/-- The members of a set, quoted, between braces. -/
def quotedSet (names : List String) : String :=
  "\x7b" ++ String.intercalate ", " (names.map quoted) ++ "\x7d"

/-- The members of a list, already written, between brackets. -/
def bracketed (items : List String) : String :=
  "[" ++ String.intercalate ", " items ++ "]"

end Text
end FleetScore
