/-!
# Colours

What a person should look at first is coloured, and only where the reader can show
colours.  A coloured text begins with a sequence that names its style and ends with
one that resets it.  Where a text brings a reset of its own, the style is named again
behind it, so that the colour reaches to the end.
-/

namespace FleetScore
namespace Console

/-- A colour of the terminal: red for what is wrong, green for what is right, yellow for what
deserves attention, blue for notes, and cyan for names. -/
inductive Colour where
  | red
  | green
  | yellow
  | blue
  | cyan
  deriving DecidableEq, Repr

/-- The number of a colour in a style sequence. -/
def Colour.code : Colour → String
  | .red => "31"
  | .green => "32"
  | .yellow => "33"
  | .blue => "34"
  | .cyan => "36"

/-- How a text is shown: in bold type, in a colour, or in both. -/
inductive Style where
  | bold
  | coloured (c : Colour)
  | strong (c : Colour)
  deriving DecidableEq, Repr

/-- The numbers of a style. -/
def Style.code : Style → String
  | .bold => "1"
  | .coloured c => c.code
  | .strong c => "1;" ++ c.code

/-- The sequence that begins a style. -/
def Style.opening (s : Style) : String := "\x1b[" ++ s.code ++ "m"

/-- The sequence that ends all styles. -/
def closing : String := "\x1b[0m"

/-- A text in a style, where colours are on. -/
def paint (colours : Bool) (style : Style) (text : String) : String :=
  if colours then
    style.opening ++ String.intercalate (closing ++ style.opening) (text.splitOn closing)
      ++ closing
  else text

end Console
end FleetScore
