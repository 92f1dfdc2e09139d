import FleetScore.Storage.Path

/-!
# Places

A *place* says where something is, and unlike a path it says so in one way only: it is
the list of names on the way down from the directory the program works in.  Double dots
lead such a list only as the names of the directories above, and the list of a place
outside altogether begins with the root, a slash.

The directories above the working directory, the root and the working directory itself
are the *bases*.  They are always there, for a program that runs at all runs inside them.
-/

namespace FleetScore

/-- Where something is, from the directory the program works in. -/
abbrev Place := List String

namespace Place

/-- The root. -/
def root : Place := ["/"]

/-- Whether a place is the working directory, a directory above it, or the root. -/
def isBase (place : Place) : Bool :=
  decide (place = root) || place.all fun name => name == ".."

/-- Whether a place lies in the working directory. -/
def isInside (place : Place) : Bool :=
  match place with
  | [] => false
  | name :: _ => name != ".." && name != "/"

/-- The directory that holds a place; the root is above itself. -/
def parent (place : Place) : Place :=
  if place = root then root
  else if place.isBase then place ++ [".."]
  else place.dropLast

/-- Whether a name names something, and is not one or two dots. -/
def isName (name : String) : Bool := name != "." && name != ".."

/-- One name further: a dot stays, and two dots go up. -/
def step (place : Place) (name : String) : Place :=
  if name = "." then place
  else if name = ".." then place.parent
  else place ++ [name]

end Place

namespace Path

/-- The place where a path starts. -/
def start (p : Path) : Place := if p.isAbsolute then Place.root else []

end Path
end FleetScore
