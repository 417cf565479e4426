import DataSchema.CommandLine.Answer
import DataSchema.CommandLine.Source

/-!
The command that checks values against one schema. All values are loaded before the first of them
is checked.
-/
namespace DataSchema.CommandLine

/-- A value with the label of its place. -/
structure Instance where
  source : String
  value : Json
deriving Repr

def withoutReturn (line : List Char) : List Char :=
  if line.getLast? == some '\r' then line.dropLast else line

/-- Lines of a text. A line that is ended loses a carriage return before its end, and a text that
ends with a line has no further one. -/
def linesOf (text : List Char) : List (List Char) :=
  let parts := Text.parts (· == '\n') text
  parts.dropLast.map withoutReturn ++ (parts.getLast?.toList.filter fun last => !last.isEmpty)

def isBlank (line : List Char) : Bool := line.all Unicode.isWhiteSpace

/-- Lines that are not blank, with their numbers from one. -/
def numberedLines (text : String) : List (String × Nat) :=
  ((linesOf text.toList).zipIdx 1).filterMap fun (line, number) =>
    if isBlank line then none else some (String.ofList line, number)

def readValue (text : String) : Except TextError Json :=
  Json.Reader.whole Json.Reader.value Json.Reader.usualRoom text

namespace InputSource

/-- What the pointer selects in a value, or the value itself without one. -/
def select (s : InputSource) (label : String) (value : Json) : Except String Instance :=
  match s.pointer with
  | none => .ok ⟨label, value⟩
  | some pointer =>
    match Json.Pointer.select? value pointer with
    | some selected => .ok ⟨label, selected⟩
    | none => .error s!"{label}: JSON pointer {pointer} selects nothing"

def lineInstance (s : InputSource) (path : String) (line : String × Nat) :
    Except String Instance := do
  let label := s!"{path}:{line.2}"
  let value ← explain s!"failed to parse JSON ({label})" TextError.message (readValue line.1)
  s.select label value

def fileInstance (s : InputSource) (path text : String) : Except String Instance := do
  let value ← explain s!"failed to parse JSON source file ({path})" TextError.message
    (readValue text)
  s.select path value

/-- The instances of a file. -/
def instances (s : InputSource) (path text : String) : Except String (List Instance) :=
  if s.lines then (numberedLines text).mapM (s.lineInstance path)
  else (s.fileInstance path text).map fun one => [one]

variable {m : Type → Type} [Monad m] [FileReading m]

def loadFile (s : InputSource) (path : String) : Attempt m (List Instance) := do
  liftExcept (s.instances path (← readSource path))

def load (s : InputSource) : Attempt m (List Instance) := do
  return (← (← resolveInputs s.inputs).mapM s.loadFile).flatten

end InputSource

/-- An instance that has been checked. -/
structure Verdict where
  source : String
  outcome : Outcome
deriving Repr

namespace Verdict

def lines (v : Verdict) : List String :=
  match v.outcome with
  | .accepted _ => ["✔ " ++ v.source]
  | .rejected issues => ("✘ " ++ v.source) :: issues.map fun issue => "    " ++ issue.text

def toJson (v : Verdict) : Json := .object (v.outcome.members ++ [("source", .string v.source)])

end Verdict

def textOfLines (lines : List String) : String := String.join (lines.map (· ++ "\n"))

/-- The answer on verdicts: headings and issues, the count, and the report if one is asked for. The
findings of the schema are not told here: they are in the log, which is no part of an answer. -/
def verdictAnswer (verdicts : List Verdict) (out : Option String) : Answer :=
  let accepted := (verdicts.filter fun v => v.outcome.isAccepted).length
  { exit := if accepted = verdicts.length then 0 else 1
    stdout := textOfLines (verdicts.flatMap Verdict.lines)
    stderr := s!"{accepted} of {verdicts.length} instances valid\n"
    output := out.map fun path => (path, (Json.array (verdicts.map Verdict.toJson)).indented) }

def validate {m : Type → Type} [Monad m] [FileReading m] (schema name : String)
    (source : InputSource) (options : OptionSource) (out : Option String) : Attempt m Answer := do
  let registry ← loadRegistry schema (← options.load)
  match registry.slot? name with
  | none => throw (unknownSchemaText name)
  | some slot =>
    let instances ← source.load
    pure (verdictAnswer
      (instances.map fun one => ⟨one.source, registry.validateSlot slot one.value⟩) out)

end DataSchema.CommandLine
