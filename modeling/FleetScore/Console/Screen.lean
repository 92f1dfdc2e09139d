import FleetScore.Console.CommandLine
import FleetScore.Console.Style
import FleetScore.Console.Table
import FleetScore.Json.Printer

/-!
# What a command says

A command answers an exit code, what it has to show, and what it has to complain about.
Both are lists of lines until they are written.

The rest of this module is the handful of forms in which results are shown: headings,
marked sentences, tables, numbers with a set number of places, and JSON.
-/

namespace FleetScore
namespace Console

/-- What a command leaves behind: its exit code, what it shows, and what it complains about. -/
structure Transcript where
  exitCode : Nat
  shown : List String
  complaints : List String

namespace Transcript

/-- A command that did what it should. -/
def success (shown : List String) : Transcript := ⟨0, shown, []⟩

/-- A command that could not be carried out. -/
def failure (reason : String) : Transcript := ⟨1, [], ["Error: " ++ reason]⟩

/-- Lines as text. -/
def textOf (lines : List String) : String := String.join (lines.map fun line => line ++ "\n")

/-- What is shown, as text. -/
def output (t : Transcript) : String := textOf t.shown

/-- The complaints, as text. -/
def complaint (t : Transcript) : String := textOf t.complaints

end Transcript

/-- How results are shown on a screen: in which format, and whether in colours. -/
structure Screen where
  format : OutputFormat
  colours : Bool

namespace Screen

/-- The width of the rule below a heading. -/
def ruleWidth : Nat := 60

/-- A rule of a given character. -/
def rule (c : Char) : String := String.ofList (List.replicate ruleWidth c)

/-- A text in a style. -/
def paint (s : Screen) (style : Style) (text : String) : String :=
  Console.paint s.colours style text

/-- A heading with a rule of a given character. -/
def heading (s : Screen) (c : Char) (title : String) : List String := [s.paint .bold title, rule c]

/-- A sentence behind a mark. -/
def marked (s : Screen) (mark : String) (colour : Colour) (sentence : String) : String :=
  s.paint (.strong colour) mark ++ " " ++ sentence

/-- Good news. -/
def success (s : Screen) : String → String := s.marked "✓" .green

/-- Bad news. -/
def failure (s : Screen) : String → String := s.marked "✗" .red

/-- A warning. -/
def warning (s : Screen) : String → String := s.marked "⚠" .yellow

/-- A note. -/
def note (s : Screen) : String → String := s.marked "ℹ" .blue

/-- A table, or a sentence in place of a table without rows. -/
def table (s : Screen) (t : Table) : List String :=
  if t.rows.isEmpty then [s.paint (.coloured .yellow) "No items found"] else t.lines

/-- A measurement. -/
def measure (x : Float) : String := Decimal.fixed 3 x

/-- A time in milliseconds. -/
def milliseconds (x : Float) : String := Decimal.fixed 1 x ++ "ms"

/-- A part of a whole, in percent. -/
def percent (x : Float) : String := Decimal.fixed 1 (x * 100.0) ++ "%"

/-- Names, or a dash for none. -/
def names (ns : List String) : String := if ns.isEmpty then "-" else String.intercalate ", " ns

end Screen
end Console
end FleetScore
