import FleetScore.Settings.SettingPath
import FleetScore.Json.Reader
import FleetScore.Storage.FileTree

/-!
# Settings of one origin

Settings come from the environment and from a file.  What one of them says is a *layer*, its
settings by name in the order in which they are put.

Any variable that begins with a mark is a setting.  A settings file is found by its name, or by its
name with an extension added, and it is the extension that tells the format.  There are six formats,
and only JSON is read here.  What a text of another format says is left open, and so is the order
in which the formats are tried, which is different from one call to the next: `SettingsFormats` is
any answer to both.
-/

namespace FleetScore

/-- Variables and their values. -/
abbrev Environment := List (String × String)

/-- Settings by name, of one origin, in the order in which they are put. -/
abbrev SettingsLayer := List (String × Setting)

namespace SettingsLayer

/-- A letter in lower case.  Beside the capital letters, the Kelvin sign is the one
character whose lower case a name of a setting can hold. -/
def lower (c : Char) : Char := if c = '\u212a' then 'k' else c.toLower

/-- A name without regard to case. -/
def fold (name : String) : List Char := name.toList.map lower

/-- What the names of variables begin with. -/
def mark : List Char := "trainer_".toList

/-- The setting a variable holds, if it holds one. -/
def ofVariable? (v : String × String) : Option (String × Setting) :=
  let name := fold v.1
  if mark.isPrefixOf name then
    some (String.ofList (name.drop mark.length), Setting.ofVariable v.2)
  else none

/-- The settings in the environment. -/
def ofEnvironment (env : Environment) : SettingsLayer := env.filterMap ofVariable?

/-- The settings in a document. -/
def ofJson? (j : Json) : Option SettingsLayer :=
  match Setting.ofJson j with
  | .table members => some (members.map fun m => (String.ofList (fold m.1), m.2))
  | _ => none

/-- The settings in the text of a document. -/
def ofText? (text : String) : Option SettingsLayer := do ofJson? (← Json.readStrict? text)

/-- The table of settings after those of a layer were put into it; `none` if an index
finds no place. -/
def putInto? (layer : SettingsLayer) (table : Setting) : Option Setting :=
  layer.foldlM (fun table s => table.assign? s.1 s.2) table

end SettingsLayer

/-- The formats of settings files. -/
inductive SettingsFormat where
  | json
  | toml
  | yaml
  | ini
  | ron
  | json5
  deriving DecidableEq, Repr

namespace SettingsFormat

/-- All formats. -/
def all : List SettingsFormat := [.json, .toml, .yaml, .ini, .ron, .json5]

/-- The extensions of the files of a format. -/
def extensions : SettingsFormat → List String
  | .json => ["json"]
  | .toml => ["toml"]
  | .yaml => ["yaml", "yml"]
  | .ini => ["ini"]
  | .ron => ["ron"]
  | .json5 => ["json5"]

/-- The format that an extension tells, if it tells one. -/
def ofExtension? (extension : String) : Option SettingsFormat :=
  all.find? fun format => format.extensions.contains extension

end SettingsFormat

/-- An order in which the formats are tried, and what the texts of each say.  A text in JSON says
what its document does. -/
structure SettingsFormats where
  order : List SettingsFormat
  perm_all : order.Perm SettingsFormat.all
  read? : SettingsFormat → String → Option SettingsLayer
  read?_json : read? .json = SettingsLayer.ofText?

namespace SettingsFormats

/-- The formats if only JSON can be read, and is tried first. -/
def jsonOnly : SettingsFormats where
  order := SettingsFormat.all
  perm_all := .refl _
  read?
    | .json => SettingsLayer.ofText?
    | _ => fun _ => none
  read?_json := rfl

/-- The files that a path can mean if it leads to none, with their formats. -/
def candidates (formats : SettingsFormats) (path : Path) : List (Path × SettingsFormat) :=
  formats.order.flatMap fun format =>
    format.extensions.map fun extension => (path.addExtension extension, format)

/-- The file that a path means, and its format: the file that it leads to, if the extension tells
its format, or, where there is none, the first of the candidates. -/
def locate? (formats : SettingsFormats) (files : FileTree) (path : Path) :
    Option (Path × SettingsFormat) :=
  if files.holdsFile path then
    (SettingsFormat.ofExtension? path.extension).map fun format => (path, format)
  else (formats.candidates path).find? fun c => files.holdsFile c.1

/-- The settings in the file that a path means. -/
def ofFile? (formats : SettingsFormats) (files : FileTree) (path : Path) :
    Option SettingsLayer := do
  let (found, format) ← formats.locate? files path
  formats.read? format (← (files.readText found).toOption)

end SettingsFormats
end FleetScore
