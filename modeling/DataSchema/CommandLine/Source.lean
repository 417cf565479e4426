import DataSchema.CommandLine.Command
import DataSchema.CommandLine.Glob
import DataSchema.Registry

/-!
What commands load from files. A failure says what was tried before it says why it failed.
-/
namespace DataSchema.CommandLine

/-- Work that reads files and may fail with a reason. -/
abbrev Attempt (m : Type → Type) := ExceptT String m

/-- Puts what was tried before the reason of a failure. -/
def explain {ε α : Type} (tried : String) (reason : ε → String) (result : Except ε α) :
    Except String α :=
  result.mapError fun error => tried ++ ": " ++ reason error

section Load

variable {m : Type → Type} [Monad m] [FileReading m]

def readSource (path : String) : Attempt m String := do
  let result ← (FileReading.read path : m (Except FileError String))
  liftExcept (explain s!"failed to read {path}" FileError.text result)

def loadDocument (path : String) : Attempt m Document := do
  let source ← readSource path
  liftExcept
    (explain s!"failed to load schema document {path}" LoadError.message (Document.ofText source))

def loadRegistry (path : String) (options : Options) : Attempt m Registry := do
  let document ← loadDocument path
  liftExcept (explain s!"failed to compile {path}" SchemaError.text
    (Registry.build options document))

def loadConfig (path : String) : Attempt m Options := do
  let source ← readSource path
  liftExcept
    (explain s!"invalid config {path}" (fun error => LoadError.message (.text error))
      (Options.ofText source))

/-- Options of a file or else the usual ones, with what takes the place of their settings. -/
def OptionSource.load (s : OptionSource) : Attempt m Options := do
  let options ← match s.config with
    | some path => loadConfig path
    | none => pure {}
  pure
    { maxDepth := s.maxDepth.getD options.maxDepth
      unknownKeys := if s.stripUnknown then .strip else options.unknownKeys }

/-- The paths that an input stands for. A pattern has to stand for one at least. -/
def resolveInput (input : String) : Attempt m (List String) := do
  if !Glob.hasWildcards input then return [input]
  let glob ← liftExcept (explain s!"invalid glob pattern: {input}" Glob.Fault.text
    (Glob.ofText input))
  match ← (glob.paths : m (List String)) with
  | [] => throw s!"glob pattern matched no files: {input}"
  | paths => pure paths

def resolveInputs (inputs : List String) : Attempt m (List String) := do
  return (← inputs.mapM resolveInput).flatten

end Load
end DataSchema.CommandLine
