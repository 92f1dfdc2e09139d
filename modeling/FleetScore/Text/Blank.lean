import FleetScore.Text.CodePoints

/-!
# Blank characters

The characters with the Unicode property of white space: the ASCII blanks from
tab to carriage return and the space, the two Latin-1 blanks, and the spaces of
various widths with the line and paragraph separators.
-/

namespace FleetScore
namespace Text

/-- The ranges of code points of blank characters, ascending. -/
def blankRanges : List (Nat × Nat) := [
  (0x09, 0x0d), (0x20, 0x20), (0x85, 0x85), (0xa0, 0xa0), (0x1680, 0x1680), (0x2000, 0x200a),
  (0x2028, 0x2029), (0x202f, 0x202f), (0x205f, 0x205f), (0x3000, 0x3000)]

/-- Whether a character is blank. -/
def isBlank (c : Char) : Bool := isWithin blankRanges c

/-- A text without the blanks it starts with. -/
def dropBlanks (s : List Char) : List Char := s.dropWhile isBlank

end Text
end FleetScore
