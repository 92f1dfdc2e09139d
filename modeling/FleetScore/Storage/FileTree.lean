import FleetScore.Storage.Place

/-!
# Files as a value

The files a run works on are one value: a finite map from places to entries, each
a directory or a file with its bytes.  The bases need no entries.

A path is *walked*, name by name: every name before the last has to be a directory that
is there, also one that double dots leave again.  The walk ends at a *spot*, the
directory in which the last name is looked up, and that name.  What becomes of the last
name, and of a separator behind it, is for each operation to say.

Each operation is what one call to a file system does, and either answers the tree
afterwards or a *fault*, the reason why nothing happened.  An operation looks only
at the entries on the way of its paths and at the last ones, and changes only the
last ones.  That is what makes it possible to say which files an interrupted export may
have touched.

There are directories and files with their bytes, and nothing else: no links, no
permissions, and no end of the space.  So an operation that is not at fault here may be at
fault on a real file system, where it may be not permitted or find the disk full.
-/

namespace FleetScore

/-- Why an operation on files did not happen.  A path is `busy` if it ends in dots where a name
is needed, and no name can hold the character zero. -/
inductive FileFault where
  | notFound
  | notADirectory
  | isADirectory
  | alreadyExists
  | busy
  | nameTooLong
  | zeroCharacter
  | notText
  deriving DecidableEq, Repr

namespace FileFault

/-- The wording of a fault. -/
def message : FileFault → String
  | .notFound => "No such file or directory (os error 2)"
  | .notADirectory => "Not a directory (os error 20)"
  | .isADirectory => "Is a directory (os error 21)"
  | .alreadyExists => "File exists (os error 17)"
  | .busy => "Device or resource busy (os error 16)"
  | .nameTooLong => "File name too long (os error 36)"
  | .zeroCharacter => "file name contained an unexpected NUL byte"
  | .notText => "stream did not contain valid UTF-8"

end FileFault

/-- What stands at a place: a directory, or a file with its bytes. -/
inductive Entry where
  | directory
  | file (bytes : ByteArray)

/-- All directories and files, by place; of several entries for one place the first counts. -/
structure FileTree where
  entries : List (Place × Entry)

namespace FileTree

/-- A tree without entries. -/
def empty : FileTree := ⟨[]⟩

/-- What stands at a place; bases are always there. -/
def find? (t : FileTree) (place : Place) : Option Entry :=
  if place.isBase then some .directory else t.entries.lookup place

/-- Puts an entry at a place. -/
def put (t : FileTree) (place : Place) (entry : Entry) : FileTree :=
  ⟨(place, entry) :: t.entries.filter fun e => decide (e.1 ≠ place)⟩

/-- Leaves nothing at a place. -/
def remove (t : FileTree) (place : Place) : FileTree :=
  ⟨t.entries.filter fun e => decide (e.1 ≠ place)⟩

/-! ## Walking -/

/-- How many bytes a name may have. -/
def nameLimit : Nat := 255

/-- How many bytes a path may have. -/
def pathLimit : Nat := 4095

/-- What stands one name further, if the name is not too long. -/
def look (t : FileTree) (place : Place) (name : String) : Except FileFault (Option Entry) :=
  if nameLimit < name.utf8ByteSize then .error .nameTooLong
  else .ok (t.find? (place.step name))

/-- Goes one name further, into a directory. -/
def enter (t : FileTree) (place : Place) (name : String) : Except FileFault Place := do
  match ← t.look place name with
  | some .directory => .ok (place.step name)
  | some (.file _) => .error .notADirectory
  | none => .error .notFound

/-- Where a walk ends: the directory of the last name, the last name --- a dot, if there
is none ---, and whether a separator stands behind it. -/
structure Spot where
  dir : Place
  name : String
  closed : Bool
  deriving DecidableEq, Repr

/-- The place that a spot means. -/
def Spot.place (s : Spot) : Place := s.dir.step s.name

/-- Whether a file may be made at a spot, going by its last name. -/
def Spot.takesFile (s : Spot) : Bool := Place.isName s.name && !s.closed

/-- Walks a path up to its last name. -/
def walk (t : FileTree) (path : Path) : Except FileFault Spot :=
  if path.text.toList.contains '\x00' then .error .zeroCharacter
  else if path.text = "" then .error .notFound
  else if pathLimit < path.text.utf8ByteSize then .error .nameTooLong
  else do
    let dir ← path.names.dropLast.foldlM t.enter path.start
    .ok ⟨dir, path.names.getLast?.getD ".", path.isClosed⟩

/-! ## Operations -/

/-- Makes sure that there is a directory at the end of a path. -/
def makeDirectory (t : FileTree) (path : Path) : Except FileFault FileTree := do
  let spot ← t.walk path
  match ← t.look spot.dir spot.name with
  | some .directory => .ok t
  | some (.file _) => .error .alreadyExists
  | none => .ok (t.put spot.place .directory)

/-- Makes an empty file, in place of a file that is there. -/
def create (t : FileTree) (path : Path) : Except FileFault FileTree := do
  let spot ← t.walk path
  if spot.takesFile then
    match ← t.look spot.dir spot.name with
    | some .directory => .error .isADirectory
    | _ => .ok (t.put spot.place (.file ByteArray.empty))
  else .error .isADirectory

/-- Appends bytes to a file. -/
def append (t : FileTree) (path : Path) (bytes : ByteArray) : Except FileFault FileTree := do
  let spot ← t.walk path
  match ← t.look spot.dir spot.name with
  | some (.file old) => .ok (t.put spot.place (.file (old ++ bytes)))
  | some .directory => .error .isADirectory
  | none => .error .notFound

/-- Moves a file, in place of a file that is there. -/
def rename (t : FileTree) (source target : Path) : Except FileFault FileTree := do
  let source ← t.walk source
  let target ← t.walk target
  if Place.isName target.name then
    let replaced ← t.look target.dir target.name
    match ← t.look source.dir source.name with
    | some (.file bytes) =>
        if target.closed then .error .notADirectory
        else match replaced with
          | some .directory => .error .isADirectory
          | _ => .ok ((t.remove source.place).put target.place (.file bytes))
    | some .directory => .error .isADirectory
    | none => .error .notFound
  else .error .busy

/-- The bytes of the file a path leads to. -/
def read (t : FileTree) (path : Path) : Except FileFault ByteArray := do
  let spot ← t.walk path
  match ← t.look spot.dir spot.name with
  | some (.file bytes) => if spot.closed then .error .notADirectory else .ok bytes
  | some .directory => .error .isADirectory
  | none => .error .notFound

/-- The text of the file a path leads to. -/
def readText (t : FileTree) (path : Path) : Except FileFault String := do
  let bytes ← t.read path
  match String.fromUTF8? bytes with
  | some text => .ok text
  | none => .error .notText

/-- Whether a path leads to a file. -/
def holdsFile (t : FileTree) (path : Path) : Bool := (t.read path).isOk

/-! ## Setting up and looking around -/

/-- Goes one name further and makes a directory there if nothing is there. -/
def enterMaking (s : FileTree × Place) (name : String) : FileTree × Place :=
  let place := s.2.step name
  (if (s.1.find? place).isSome then s.1 else s.1.put place .directory, place)

/-- Puts an entry at the end of a path and makes the directories on the way. -/
def install (t : FileTree) (path : Path) (entry : Entry) : FileTree :=
  let way := path.names.dropLast.foldl enterMaking (t, path.start)
  let place := way.2.step (path.names.getLast?.getD ".")
  if place.isBase then way.1 else way.1.put place entry

/-- Removes what a path leads to and everything below it. -/
def prune (t : FileTree) (path : Path) : FileTree :=
  match t.walk path with
  | .ok spot => ⟨t.entries.filter fun e => !spot.place.isPrefixOf e.1⟩
  | .error _ => t

/-- The text of an entry in a listing; a directory ends in a slash. -/
def listed (place : Place) (entry : Entry) : String :=
  String.intercalate "/" place ++ (match entry with | .directory => "/" | .file _ => "")

/-- Everything there is in the working directory, in ascending order of its text. -/
def listing (t : FileTree) : List String :=
  ((t.entries.filter fun e => Place.isInside e.1).map fun e => listed e.1 e.2).mergeSort
    fun a b => decide (a ≤ b)

end FileTree
end FleetScore
