import FleetScore.Storage.Path

/-!
# The command line

The program knows six commands.  Three of them stand in a group, `show`; all but
`schema` take a path.  One option, the format of the output, may stand anywhere.

## Levels

Each command name opens a *level*: the program, perhaps the group, and the command.
On a level the format may be given once, and where several levels give it the innermost
counts.  A level that does not give it takes it from the environment, and so a value
there that is no format is an error unless every level gives the format.

## Reading

Arguments are read one by one, and the first that makes no sense ends the reading.
Asking for the version or for help ends it too, with what came before already checked
and what comes after never looked at.  After a double dash everything is a path.
-/

namespace FleetScore
namespace Console

/-- How results are shown: as tables and sentences for people, or as JSON for programs. -/
inductive OutputFormat where
  | table
  | json
  deriving DecidableEq, Repr

/-- The format of a given name. -/
def OutputFormat.ofText? : String → Option OutputFormat
  | "table" => some .table
  | "json" => some .json
  | _ => none

/-- The kinds of artifacts that can be shown. -/
inductive Kind where
  | manifest
  | scaler
  | model
  deriving DecidableEq, Repr

/-- What the program is to do: check a manifest against the canonical features, show an
artifact, compute features and labels from rows, or list the canonical features. -/
inductive Command where
  | verify (path : Path)
  | present (kind : Kind) (path : Path)
  | features (path : Path)
  | schema
  deriving DecidableEq, Repr

/-- A command and how its result is shown. -/
structure Request where
  command : Command
  format : OutputFormat
  deriving DecidableEq, Repr

/-- Why there is no command to carry out: the arguments make no sense, or somebody asked for the
version or for help. -/
inductive Stop where
  | usage
  | version
  | help
  deriving DecidableEq, Repr

/-- How far the command names have been read: no name yet, the name of the group, the name of a
command that takes a path, or that of the one that takes none. -/
inductive Position where
  | program
  | group
  | command (make : Path → Command)
  | schema

namespace Position

/-- The position after a name, where names are expected. -/
def enter? : Position → String → Option Position
  | .program, "verify" => some (.command .verify)
  | .program, "show" => some .group
  | .program, "features" => some (.command .features)
  | .program, "schema" => some .schema
  | .group, "manifest" => some (.command (.present .manifest))
  | .group, "scaler" => some (.command (.present .scaler))
  | .group, "model" => some (.command (.present .model))
  | _, _ => none

/-- Whether `help` is a command here. -/
def hasHelp : Position → Bool
  | .program => true
  | .group => true
  | _ => false

end Position

/-- The names that may follow `help`, from a position. -/
def helpTopic : Position → List String → Bool
  | _, [] => true
  | p, name :: rest =>
      match p.enter? name with
      | some p => helpTopic p rest
      | none => p.hasHelp && name == "help" && rest.isEmpty

/-- What has been read: the innermost level, and the format on each level where it was given,
the innermost first.  The next argument is a format if one is awaited, and everything that
follows is a path if arguments are taken literally. -/
structure Reading where
  position : Position
  formats : List (Option OutputFormat)
  awaiting : Bool
  literal : Bool
  path : Option Path

namespace Reading

/-- Nothing has been read. -/
def start : Reading := ⟨.program, [none], false, false, none⟩

/-- Gives the format on the innermost level. -/
def giveFormat (r : Reading) (value : String) : Except Stop Reading :=
  match OutputFormat.ofText? value, r.formats with
  | some f, none :: outer => .ok { r with formats := some f :: outer, awaiting := false }
  | _, _ => .error .usage

/-- Takes an argument that is neither a name nor an option. -/
def givePath (r : Reading) (value : String) : Except Stop Reading :=
  match r.position, r.path with
  | .command _, none => if value = "" then .error .usage else .ok { r with path := some ⟨value⟩ }
  | _, _ => .error .usage

/-- Takes an option that is spelled out, without its two dashes. -/
def giveLong (r : Reading) (option : List Char) : Except Stop Reading :=
  match option with
  | 'f' :: 'o' :: 'r' :: 'm' :: 'a' :: 't' :: '=' :: value => r.giveFormat (String.ofList value)
  | option =>
      match String.ofList option, r.position with
      | "format", _ => .ok { r with awaiting := true }
      | "help", _ => .error .help
      | "version", .program => .error .version
      | _, _ => .error .usage

/-- Takes an option of one letter, without its dash. -/
def giveShort (r : Reading) (letters : List Char) : Except Stop Reading :=
  match letters, r.position with
  | ['f'], _ => .ok { r with awaiting := true }
  | 'f' :: '=' :: value, _ => r.giveFormat (String.ofList value)
  | 'f' :: value, _ => r.giveFormat (String.ofList value)
  | 'h' :: _, _ => .error .help
  | 'V' :: _, .program => .error .version
  | _, _ => .error .usage

/-- Takes an argument that is no command name. -/
def giveOther (r : Reading) (argument : String) : Except Stop Reading :=
  match argument.toList with
  | ['-', '-'] => .ok { r with literal := true }
  | '-' :: '-' :: option => r.giveLong option
  | '-' :: c :: letters => r.giveShort (c :: letters)
  | _ => r.givePath argument

/-- Takes one argument. -/
def give (r : Reading) (argument : String) : Except Stop Reading :=
  if r.awaiting then r.giveFormat argument
  else if r.literal then r.givePath argument
  else
    match r.position.enter? argument with
    | some p => .ok { r with position := p, formats := none :: r.formats }
    | none => r.giveOther argument

/-- Takes all arguments.  A request for help takes the rest as what it is about. -/
def giveAll : Reading → List String → Except Stop Reading
  | r, [] => .ok r
  | r, argument :: rest =>
      if argument = "help" ∧ r.position.hasHelp = true ∧ r.awaiting = false ∧ r.literal = false then
        .error (if helpTopic r.position rest then .help else .usage)
      else
        match r.give argument with
        | .error stop => .error stop
        | .ok r => giveAll r rest

/-- The command that was given, if it is complete. -/
def command? (r : Reading) : Option Command :=
  match r.position, r.path with
  | .command make, some path => some (make path)
  | .schema, _ => some .schema
  | _, _ => none

/-- The format that counts: the innermost given one, else that of the environment, else
tables.  `none` if the environment is asked and has no format. -/
def format? (r : Reading) (ambient : Option String) : Option OutputFormat :=
  let given := r.formats.findSome? id
  match ambient with
  | none => some (given.getD .table)
  | some value =>
      if r.formats.all Option.isSome then some (given.getD .table)
      else (OutputFormat.ofText? value).map given.getD

end Reading

/-- Reads the command line; `ambient` is the format in the environment. -/
def parse (ambient : Option String) (arguments : List String) : Except Stop Request := do
  let r ← Reading.start.giveAll arguments
  if r.awaiting then .error .usage
  else
    match r.command?, r.format? ambient with
    | some command, some format => .ok ⟨command, format⟩
    | _, _ => .error .usage

end Console
end FleetScore
