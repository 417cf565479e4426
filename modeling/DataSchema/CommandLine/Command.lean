import DataSchema.CommandLine.Arguments

/-!
Commands and how they are written. One program handles schemas and values, the other runs suites.
-/
namespace DataSchema.CommandLine

/-- Where options come from: a file, and what takes the place of its settings. -/
structure OptionSource where
  config : Option String := none
  maxDepth : Option Nat := none
  stripUnknown : Bool := false
deriving DecidableEq, Repr

/-- Which values to check: those of files, or of their lines, or what a pointer selects in each. -/
structure InputSource where
  inputs : List String
  lines : Bool := false
  pointer : Option String := none
deriving DecidableEq, Repr

inductive Command where
  | check (inputs : List String) (options : OptionSource)
  | validate (schema name : String) (source : InputSource) (options : OptionSource)
      (out : Option String)
  | shape (schema : String) (name out : Option String)
  | emit (schema : String) (out : Option String)
  | suites (paths : List String) (filter : Option String) (verbose : Bool)
deriving DecidableEq, Repr

def helpFlag : Parameter := { name := "help", letter := some 'h', arity := .none }
def versionFlag : Parameter := { name := "version", letter := some 'V', arity := .none }

def inputParameter : Parameter :=
  { name := "input", letter := some 'i', arity := .many, required := true }

def schemaParameter : Parameter :=
  { name := "schema", letter := some 's', form := .path, required := true }

def nameParameter : Parameter := { name := "name", letter := some 'n' }
def outParameter : Parameter := { name := "out", letter := some 'o', form := .path }

def optionParameters : List Parameter :=
  [{ name := "config", form := .path }, { name := "max-depth", form := .count },
    { name := "strip-unknown", arity := .none }]

namespace Command

/-- Parameters of each command of the first program. -/
def parameters : List (String × List Parameter) :=
  [("check", inputParameter :: optionParameters ++ [helpFlag]),
    ("validate",
      [schemaParameter, { nameParameter with required := true },
        { name := "ndjson", arity := .none }, { name := "json-pointer" }, inputParameter]
        ++ optionParameters ++ [outParameter, helpFlag]),
    ("shape", [schemaParameter, nameParameter, outParameter, helpFlag]),
    ("emit", [schemaParameter, outParameter, helpFlag])]

def suiteParameters : List Parameter :=
  [{ name := "paths", arity := .many, form := .path, positional := true }, { name := "filter" },
    { name := "verbose", letter := some 'v', arity := .none }, helpFlag]

def optionSource (given : Given) : OptionSource :=
  ⟨given.text? "config", given.count? "max-depth", given.has "strip-unknown"⟩

/-- The command of a name with what is given to it. -/
def ofGiven (name : String) (given : Given) : Command :=
  match name with
  | "check" => .check (given.texts "input") (optionSource given)
  | "validate" =>
    .validate (given.text "schema") (given.text "name")
      ⟨given.texts "input", given.has "ndjson", given.text? "json-pointer"⟩ (optionSource given)
      (given.text? "out")
  | "shape" => .shape (given.text "schema") (given.text? "name") (given.text? "out")
  | _ => .emit (given.text "schema") (given.text? "out")

def suitesOf (given : Given) : Command :=
  .suites (given.texts "paths") (given.text? "filter") (given.has "verbose")

end Command

/-- Arguments that ask for something, or are refused, with the parameters to show for them. -/
structure Halt where
  stop : Stop
  command : Option String
  parameters : List Parameter
deriving Repr

inductive Program where
  | schemas | suites
deriving DecidableEq, Repr

/-- Before the name of a command there may only be a flag. -/
def readCommand : List String → Except Halt Command
  | [] => .error ⟨.refused .noCommand, none, []⟩
  | first :: rest =>
    match Command.parameters.find? fun entry => entry.1 == first with
    | some (name, parameters) =>
      ((readArguments parameters rest).map (Command.ofGiven name)).mapError fun stop =>
        ⟨stop, some name, parameters⟩
    | none =>
      let stop : Stop :=
        if first == "help" then .help
        else
          match Taken.arguments [helpFlag, versionFlag] {} [first] with
          | .ok _ => .refused .noCommand
          | .error (.refused (.unexpected argument)) =>
            .refused (if first.startsWith "-" then .unexpected argument else .unknownCommand first)
          | .error stop => stop
      .error ⟨stop, none, []⟩

def Program.read (program : Program) (arguments : List String) : Except Halt Command :=
  match program with
  | .schemas => readCommand arguments
  | .suites =>
    ((readArguments Command.suiteParameters arguments).map Command.suitesOf).mapError fun stop =>
      ⟨stop, none, Command.suiteParameters⟩

namespace Halt

/-- How a command is used. -/
def usage (h : Halt) (program : String) : String :=
  let shown :=
    if h.parameters.isEmpty then ["<COMMAND>"]
    else
      (if h.parameters.any fun p => !p.required && !p.positional then ["[OPTIONS]"] else [])
        ++ (h.parameters.filter fun p => p.required || p.positional).map Parameter.shown
  " ".intercalate (program :: h.command.toList ++ shown)

def version : String := "0.1.0"

end Halt
end DataSchema.CommandLine
