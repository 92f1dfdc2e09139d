/-!
# Paths

A path is the text an operator wrote.  It is kept as it was written, because
messages show it that way, and it is taken apart only where files are looked up.

Nothing is simplified here.  Where `a/..` leads depends on what `a` is, so the names of
a path are all its names, single and double dots among them, and only the empty ones
are left out.  What can be done on the text alone is to look at the last name: to find
its extension, to change it, and to drop it.
-/

namespace FleetScore

/-- A path, as it was written. -/
structure Path where
  text : String
  deriving DecidableEq, Repr

namespace Path

/-- The pieces of a text between separators. -/
def pieces (separator : Char) : List Char → List (List Char)
  | [] => [[]]
  | c :: rest =>
      if c = separator then [] :: pieces separator rest
      else match pieces separator rest with
        | [] => [[c]]
        | piece :: more => (c :: piece) :: more

/-- The names in a path, in order. -/
def names (p : Path) : List String :=
  ((pieces '/' p.text.toList).filter fun piece => !piece.isEmpty).map String.ofList

/-- Whether a path starts at the root and not at the working directory. -/
def isAbsolute (p : Path) : Bool := p.text.toList.head? == some '/'

/-- Whether a separator stands behind the last name. -/
def isClosed (p : Path) : Bool := p.text.toList.getLast? == some '/'

/-- A file in a directory. -/
def child (dir : Path) (name : String) : Path :=
  match dir.text.toList.reverse with
  | [] => ⟨name⟩
  | '/' :: _ => ⟨dir.text ++ name⟩
  | _ => ⟨dir.text ++ "/" ++ name⟩

/-- Removes separators and lone dots from the end of a text, given backwards. -/
def trimEnd : List Char → List Char
  | '/' :: rest => trimEnd rest
  | '.' :: '/' :: rest => trimEnd ('/' :: rest)
  | s => s

/-- A name, given backwards, without its extension; a dot at the start of a name is
no mark of an extension. -/
def stem (name : List Char) : List Char :=
  match name.dropWhile fun c => c != '.' with
  | '.' :: c :: rest => c :: rest
  | _ => name

/-- The last name of a path and what stands before it, both backwards; none if the
path ends in no name. -/
def lastName? (p : Path) : Option (List Char × List Char) :=
  let backwards := trimEnd p.text.toList.reverse
  let name := backwards.takeWhile fun c => c != '/'
  if name = [] ∨ name = ['.'] ∨ name = ['.', '.'] then none
  else some (name, backwards.drop name.length)

/-- The extension of the last name, without its dot; empty if there is none. -/
def extension (p : Path) : String :=
  match p.lastName? with
  | none => ""
  | some (name, _) =>
      if stem name = name then ""
      else String.ofList (name.takeWhile fun c => c != '.').reverse

/-- The path with another extension on its last name.  A path that ends in no name
stays as it is.  So does one whose last name begins with two dots and has no others: it
loses the old extension first, and what is left of the name is the directory above. -/
def withExtension (p : Path) (extension : String) : Path :=
  match p.lastName? with
  | none => p
  | some (name, before) =>
      if stem name = ['.'] ∧ p.text.toList.getLast? = name.head? then
        ⟨String.ofList before.reverse ++ ".."⟩
      else ⟨String.ofList (stem name ++ before).reverse ++ "." ++ extension⟩

/-- The path with one more extension on its last name.  A path that ends in no name
stays as it is. -/
def addExtension (p : Path) (extension : String) : Path :=
  match p.lastName? with
  | none => p
  | some (name, before) => ⟨String.ofList (name ++ before).reverse ++ "." ++ extension⟩

/-- A text, given backwards, and what is left of it when its last name is dropped again
and again, as long as something is left. -/
def shortenings : Nat → List Char → List (List Char)
  | 0, _ => []
  | fuel + 1, s =>
      if s = [] then []
      else s :: shortenings fuel (trimEnd ((trimEnd s).dropWhile fun c => c != '/'))

/-- A path and the paths to what lies above it, the longest first. -/
def upwards (p : Path) : List Path :=
  (shortenings p.text.length p.text.toList.reverse).map fun s => ⟨String.ofList s.reverse⟩

end Path
end FleetScore
