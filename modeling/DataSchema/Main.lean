import DataSchema.CommandLine.Run

/-!
The command line. A first argument `suites` calls the program that runs suites; all other
arguments go to the one that handles schemas.
-/
namespace DataSchema.CommandLine

/-- The error of a file operation, by the number that the system gives it. -/
def fileErrorOf : IO.Error → FileError
  | .noFileOrDirectory .. => .notFound
  | .alreadyExists .. => .alreadyExists
  | .inappropriateType _ code _ => if code = 21 then .isDirectory else .notDirectory
  | error => .other (toString error)

/-- A file operation with its error as a value. -/
def attempted {α : Type} (action : IO α) : IO (Except FileError α) := do
  try return .ok (← action)
  catch error => return .error (fileErrorOf error)

def namesInDirectory (path : String) : IO (List String) := do
  let entries ← (← IO.FS.realPath path).readDir
  return (entries.toList.map fun entry => entry.fileName).mergeSort fun a b => !(b < a)

instance : FileReading IO where
  read path := attempted (IO.FS.readFile path)
  isThere path := do return (← attempted (IO.FS.Handle.mk path .read)).isOk
  isDirectory path := do return (← attempted (namesInDirectory path)).isOk
  names path := do return (← attempted (namesInDirectory path)).toOption.getD []

/-- The directory that a path lies in. -/
def outerPath (path : String) : String :=
  (if PathText.isRooted path then "/" else "") ++ "/".intercalate (PathText.names path).dropLast

/-- Writes a file in a directory that is made if it is not there. A failure has its text. -/
def saveFile (path text : String) : IO (Option String) := do
  let outer := outerPath path
  match ← attempted (if outer.isEmpty then pure () else IO.FS.createDirAll outer) with
  | .error error => return some error.text
  | .ok _ =>
    match ← attempted (IO.FS.writeFile path text) with
    | .error error => return some s!"failed to write {path}: {error.text}"
    | .ok _ => return none

/-- Runs a program and gives its exit status. -/
def runProgram (program : Program) (name : String) (arguments : List String) : IO UInt32 := do
  let answer : Answer ← program.answer name arguments
  IO.print answer.stdout
  let failed ← match answer.output with
    | some (path, text) => saveFile path text
    | none => pure none
  let final := answer.written failed
  IO.eprint final.stderr
  return final.exit.toUInt32

end DataSchema.CommandLine

open DataSchema.CommandLine in
def main : List String → IO UInt32
  | "suites" :: arguments => runProgram .suites "data-schema suites" arguments
  | arguments => runProgram .schemas "data-schema" arguments
