import FleetScore.Console.Artifacts
import FleetScore.Console.Features

/-!
# The program at the console

The command line tool as a function: from its arguments, its environment and the files
it may read to what it shows.  It writes no files and asks no database.
-/

namespace FleetScore
namespace Console

/-- The name and the version of the program. -/
def version : String := "nbctl 0.1.0"

/-- What the program can do. -/
def usage : List String := [
  "Usage: nbctl [--format table|json] <command>",
  "",
  "  verify <manifest>      check a manifest against the training features",
  "  show manifest <path>   show a feature manifest",
  "  show scaler <path>     show scaler parameters",
  "  show model <path>      show a trained model",
  "  features <rows>        compute features and labels from joined rows",
  "  schema                 list the canonical features"]

/-- The variable that holds the format. -/
def formatVariable : String := "NBCTL_FORMAT"

/-- The variable that asks for colours. -/
def colourVariable : String := "CLICOLOR_FORCE"

/-- Whether colours are shown: only where they are asked for, since the output need not
be a terminal. -/
def coloursOf (env : List (String × String)) : Bool :=
  match env.lookup colourVariable with
  | none => false
  | some value => value != "0"

/-- The canonical features. -/
def Screen.schema (s : Screen) : List String :=
  match s.format with
  | .json => [(Json.list Json.text FeatureName.names).pretty]
  | .table => FeatureName.names.zipIdx.map fun f => Decimal.natText f.2 ++ " " ++ f.1

/-- Carries out a command; `none` when the connections of a server do not fit 64
bits. -/
def Screen.carryOut? (s : Screen) (files : FileTree) : Command → Option Transcript
  | .verify path => some (s.verify files path)
  | .present kind path => some (s.present files kind path)
  | .features path => s.features? files path
  | .schema => some (.success s.schema)

/-- What the program says when there is nothing to carry out. -/
def stopped : Stop → Transcript
  | .usage => ⟨2, [], usage⟩
  | .version => .success [version]
  | .help => .success usage

/-- Runs the program; `none` when the connections of a server do not fit 64 bits. -/
def run? (env : List (String × String)) (arguments : List String) (files : FileTree) :
    Option Transcript :=
  match parse (env.lookup formatVariable) arguments with
  | .error stop => some (stopped stop)
  | .ok request => Screen.carryOut? ⟨request.format, coloursOf env⟩ files request.command

end Console
end FleetScore
