import DataSchema.CommandLine.FileTree

/-!
Answers of commands. A command reads first and answers then; the file that it writes, if any, is
part of its answer, so nothing is changed before all is known.
-/
namespace DataSchema.CommandLine

/-- `output` is the path of a file to write, and its text. `stderr` is what a command itself writes
there. A program that logs its findings as they are made also writes a line there for each of them,
with the time, before all else; the log is no part of an answer. -/
structure Answer where
  exit : Nat := 0
  stdout : String := ""
  stderr : String := ""
  output : Option (String × String) := none
deriving DecidableEq, Repr

def failureLine (reason : String) : String := "error: " ++ reason ++ "\n"

/-- The exit status of a program that could not do its work. -/
def failureExit : Nat := 2

namespace Answer

def failure (reason : String) : Answer := { exit := failureExit, stderr := failureLine reason }

/-- A text as the output of a command: in a file, or else on a line of its own. -/
def ofText (out : Option String) (text : String) : Answer :=
  match out with
  | some path => { output := some (path, text) }
  | none => { stdout := text ++ "\n" }

/-- The answer after the attempt to write its output. -/
def written (a : Answer) (failed : Option String) : Answer :=
  match failed with
  | none => { a with output := none }
  | some reason =>
    { exit := failureExit, stdout := a.stdout, stderr := a.stderr ++ failureLine reason }

/-- Writes the output into a file tree. -/
def deliver (a : Answer) (tree : FileTree) : Answer × FileTree :=
  match a.output with
  | none => (a, tree)
  | some (path, text) =>
    let (tree, failed) := tree.save path text
    (a.written failed, tree)

end Answer
end DataSchema.CommandLine
