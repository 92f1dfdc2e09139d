import FleetScore.Storage.FileTree

/-!
# Plans

A write that others may watch is a *plan*: a list of steps, each one call to the
file system.  Running a plan carries out its steps in order and stops at the first
that fails.  What an observer may find, or what a crash may leave behind, is then
the tree after any number of steps, `after`, and a part of a file is an `append` of
a part of its bytes.

A plan knows for each step which path to blame if it fails.  A file is replaced by
writing a temporary sibling, flushing it and moving it into place, so that the file
itself holds its old or its new bytes at any time and never a part of either.

Which directories a plan has to make depends on which are there.  So the plan for a
directory is drawn up for given files: it goes upwards until a directory can be made or
is there, and makes the ones it passed from there downwards.
-/

namespace FleetScore

/-- One call to the file system: to make a directory unless there is one, to make an empty file,
to append bytes to a file, to make sure that what was written to it lasts, or to move it. -/
inductive FileStep where
  | makeDirectory (path : Path)
  | create (path : Path)
  | append (path : Path) (bytes : ByteArray)
  | sync (path : Path)
  | rename (source target : Path)

namespace FileStep

/-- Carries out a step. -/
def run (step : FileStep) (t : FileTree) : Except FileFault FileTree :=
  match step with
  | .makeDirectory path => t.makeDirectory path
  | .create path => t.create path
  | .append path bytes => t.append path bytes
  | .sync _ => .ok t
  | .rename source target => t.rename source target

end FileStep

/-- A step with the path to blame if it fails. -/
structure PlannedStep where
  step : FileStep
  blamed : Path

/-- Steps in order. -/
abbrev Plan := List PlannedStep

/-- The files after a plan was run, with the path and the reason if a step failed. -/
structure PlanOutcome where
  tree : FileTree
  fault : Option (Path × FileFault)

namespace Plan

/-- Carries out a plan up to its first failure. -/
def run : Plan → FileTree → PlanOutcome
  | [], t => ⟨t, none⟩
  | p :: rest, t =>
      match p.step.run t with
      | .ok t => run rest t
      | .error fault => ⟨t, some (p.blamed, fault)⟩

/-- The files after the first `n` steps of a plan. -/
def after (plan : Plan) (n : Nat) (t : FileTree) : FileTree := (run (plan.take n) t).tree

/-- Whether a directory cannot be made because what it would lie in is not there. -/
def isStranded (t : FileTree) (path : Path) : Bool :=
  match t.makeDirectory path with
  | .error .notFound => true
  | _ => false

/-- Makes a directory and, as far as they are missing from the files, the directories on
the way to it. -/
def makeDirectories (t : FileTree) (dir : Path) : Plan :=
  let stranded := dir.upwards.takeWhile (isStranded t)
  let first := (dir.upwards.drop stranded.length).head?
  (first.toList ++ stranded.reverse).map fun path => ⟨.makeDirectory path, dir⟩

/-- Replaces a file by way of a temporary sibling that is flushed before it is moved
into place. -/
def replace (target temporary : Path) (bytes : ByteArray) : Plan := [
  ⟨.create temporary, temporary⟩,
  ⟨.append temporary bytes, temporary⟩,
  ⟨.sync temporary, temporary⟩,
  ⟨.rename temporary target, target⟩]

/-- Replaces a file by way of a temporary sibling, without flushing. -/
def replaceQuickly (target temporary : Path) (bytes : ByteArray) : Plan := [
  ⟨.create temporary, temporary⟩,
  ⟨.append temporary bytes, temporary⟩,
  ⟨.rename temporary target, target⟩]

@[simp] theorem run_nil (t : FileTree) : run [] t = ⟨t, none⟩ := rfl

end Plan
end FleetScore
