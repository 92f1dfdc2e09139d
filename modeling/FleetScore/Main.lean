import FleetScore.Console.Program

/-!
# Entry point of the console tool

Everything the tool decides is decided by `Console.run?`.  What is left for this module
is to fetch what that function is given, the environment and the file that the command
names, and to pass on what it answers.
-/

namespace FleetScore
namespace Console

/-- What a failed attempt to read a file says about the file. -/
def faultOf : IO.Error → FileFault
  | .noFileOrDirectory .. => .notFound
  | .inappropriateType _ code _ => if code = 20 then .notADirectory else .isADirectory
  | .invalidArgument .. => .nameTooLong
  | _ => .isADirectory

/-- A path up to its first name that is no dots. -/
def firstPart (path : Path) : Path :=
  let dots := path.names.takeWhile fun name => !Place.isName name
  let start := if path.isAbsolute then "/" else ""
  ⟨start ++ String.intercalate "/" (path.names.take (dots.length + 1))⟩

/-- The files as far as the command can see them: the one at its path, or what stands
in its place. -/
def surroundings (path : Path) : IO FileTree := do
  let found ← (IO.FS.readBinFile path.text).toBaseIO
  match found with
  | .ok bytes => return FileTree.empty.install path (.file bytes)
  | .error e =>
      match faultOf e with
      | .notFound => return .empty
      | .notADirectory => return FileTree.empty.install (firstPart path) (.file ByteArray.empty)
      | _ => return FileTree.empty.install path .directory

/-- The path that a command reads. -/
def Command.path? : Command → Option Path
  | .verify path => some path
  | .present _ path => some path
  | .features path => some path
  | .schema => none

/-- The variables the tool looks at. -/
def environment : IO (List (String × String)) := do
  let mut env := []
  for name in [formatVariable, colourVariable] do
    if let some value ← IO.getEnv name then
      env := (name, value) :: env
  return env

end Console
end FleetScore

open FleetScore Console in
/-- The console tool. -/
def main (arguments : List String) : IO UInt32 := do
  let env ← environment
  let files ← match parse (env.lookup formatVariable) arguments with
    | .ok request => (request.command.path?.map surroundings).getD (pure .empty)
    | .error _ => pure .empty
  match run? env arguments files with
  | some t =>
      (← IO.getStdout).putStr t.output
      (← IO.getStderr).putStr t.complaint
      return UInt32.ofNat t.exitCode
  | none =>
      (← IO.getStderr).putStrLn "Error: the connections of a server do not fit 64 bits"
      return 101
