import DataSchema.CommandLine.Suites
import DataSchema.CommandLine.Validate
import DataSchema.Schema.Writing

/-!
Programs from their arguments to their answers.
-/
namespace DataSchema.CommandLine

section Commands

variable {m : Type → Type} [Monad m] [FileReading m]

/-- Loads and compiles one document. A refusal of the compilation stands for itself. -/
def checkDocument (path : String) (options : Options) : Attempt m Registry := do
  let document ← loadDocument path
  liftExcept ((Registry.build options document).mapError SchemaError.text)

def checkedText (path : String) : Except String Registry → String
  | .ok registry =>
    textOfLines (s!"ok {path} ({registry.checks.length} schemas)"
      :: registry.findings.map fun finding => "  warning: " ++ finding.text)
  | .error reason => s!"error {path}: {reason}\n"

def check (inputs : List String) (options : OptionSource) : Attempt m Answer := do
  let options ← options.load
  let paths ← resolveInputs inputs
  let results ← paths.mapM fun path => do
    let result ← ExceptT.lift (checkDocument path options : Attempt m Registry).run
    pure (path, result)
  pure
    { exit := if results.all fun entry => entry.2.isOk then 0 else 1
      stdout := String.join (results.map fun entry => checkedText entry.1 entry.2) }

def shape (schema : String) (name out : Option String) : Attempt m Answer := do
  let registry ← loadRegistry schema {}
  match name with
  | some name =>
    match registry.shape? name with
    | some shape => pure (Answer.ofText out shape.toJson.indented)
    | none => throw (unknownSchemaText name)
  | none =>
    let shapes := registry.names.zip (registry.shapes.map Shape.toJson)
    pure (Answer.ofText out (Json.object shapes).indented)

def emit (schema : String) (out : Option String) : Attempt m Answer := do
  let document ← loadDocument schema
  pure (Answer.ofText out document.toJson.indented)

/-- The answer of an attempt, or the report of its failure. -/
def answerOf (attempt : Attempt m Answer) : m Answer := do
  match ← attempt.run with
  | .ok answer => pure answer
  | .error reason => pure (Answer.failure reason)

def Command.run : Command → m Answer
  | .check inputs options => answerOf (CommandLine.check inputs options)
  | .validate schema name source options out =>
    answerOf (CommandLine.validate schema name source options out)
  | .shape schema name out => answerOf (CommandLine.shape schema name out)
  | .emit schema out => answerOf (CommandLine.emit schema out)
  | .suites paths filter verbose =>
    match selection filter with
    | .ok selected => runSuites selected verbose paths {}
    | .error reason => pure (Answer.failure reason)

end Commands

/-- The answer to arguments that give no command. -/
def Halt.answer (h : Halt) (program : String) : Answer :=
  let usage := h.usage program
  match h.stop with
  | .help => { stdout := s!"Usage: {usage}\n" }
  | .version => { stdout := s!"{program} {Halt.version}\n" }
  | .refused refusal => { exit := failureExit, stderr := refusal.text usage }

/-- Runs a program, under the name that it is called by, on its arguments. -/
def Program.answer {m : Type → Type} [Monad m] [FileReading m] (program : Program) (name : String)
    (arguments : List String) : m Answer :=
  match program.read arguments with
  | .ok command => command.run
  | .error halt => pure (halt.answer name)

/-- Runs a program in a file tree. -/
def Program.runIn (program : Program) (name : String) (arguments : List String) (tree : FileTree) :
    Answer × FileTree :=
  ((program.answer name arguments : ReaderM FileTree Answer).run tree).deliver tree

end DataSchema.CommandLine
