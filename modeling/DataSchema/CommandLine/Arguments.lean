import DataSchema.Text.Digit

/-!
Arguments of a command line. Options have a long name and may have a letter; a value follows its
option, or is joined to it. Arguments are taken in order, and an option is settled when the next
one begins.
-/
namespace DataSchema.CommandLine

/-- How many values a parameter takes each time. -/
inductive Arity where
  | none | one | many
deriving DecidableEq, Repr

/-- What a value has to be: any text, a path, which is not empty, or a number of 64 bits. -/
inductive ValueForm where
  | text | path | count
deriving DecidableEq, Repr

/-- A parameter of a command. Values of a positional one stand without its name. -/
structure Parameter where
  name : String
  letter : Option Char := none
  arity : Arity := .one
  form : ValueForm := .text
  required : Bool := false
  positional : Bool := false
deriving DecidableEq, Repr

namespace Parameter

def placeholder (p : Parameter) : String :=
  String.ofList (p.name.toList.map fun c => if c == '-' then '_' else c.toUpper)

/-- The parameter as messages name it. -/
def shown (p : Parameter) : String :=
  if p.positional then s!"[{p.placeholder}]..."
  else
    match p.arity with
    | .none => s!"--{p.name}"
    | .one => s!"--{p.name} <{p.placeholder}>"
    | .many => s!"--{p.name} <{p.placeholder}>..."

end Parameter

/-- Why arguments are refused. -/
inductive Refusal where
  | noCommand
  | unknownCommand (name : String)
  | unexpected (argument : String)
  | repeated (parameter : Parameter)
  | needsNoValue (parameter : Parameter) (value : String)
  | missing (parameters : List Parameter)
  | noValue (parameter : Parameter)
  | badValue (parameter : Parameter) (value : String) (reason : String)
deriving DecidableEq, Repr

namespace Refusal

def cause : Refusal → String
  | .noCommand => "a command is required"
  | .unknownCommand name => s!"unrecognized subcommand '{name}'"
  | .unexpected argument => s!"unexpected argument '{argument}' found"
  | .repeated parameter =>
    "the argument '" ++ parameter.shown ++ "' cannot be used multiple times"
  | .needsNoValue parameter value =>
    s!"unexpected value '{value}' for '" ++ parameter.shown ++ "' found; no more were expected"
  | .missing parameters =>
    "the following required arguments were not provided:"
      ++ String.join (parameters.map fun parameter => "\n  " ++ parameter.shown)
  | .noValue parameter =>
    "a value is required for '" ++ parameter.shown ++ "' but none was supplied"
  | .badValue parameter value reason =>
    s!"invalid value '{value}' for '" ++ parameter.shown ++ "': " ++ reason

/-- A bad value says all that there is to say; other mistakes show how the command is used. -/
def showsUsage : Refusal → Bool
  | .noValue _ | .badValue .. => false
  | _ => true

def text (usage : String) (r : Refusal) : String :=
  "error: " ++ r.cause ++ (if r.showsUsage then "\n\nUsage: " ++ usage else "")
    ++ "\n\nFor more information, try '--help'.\n"

end Refusal

/-- Why the arguments give no command to run. -/
inductive Stop where
  | help
  | version
  | refused (refusal : Refusal)
deriving DecidableEq, Repr

def refuse {α : Type} (refusal : Refusal) : Except Stop α := .error (.refused refusal)

/-- The greatest number of 64 bits. -/
def greatestCount : Nat := 0xFFFFFFFFFFFFFFFF

def countFrom : Nat → List Char → Except String Nat
  | n, [] => .ok n
  | n, c :: rest =>
    if !Text.isDecimal c then .error "invalid digit found in string"
    else
      let n := 10 * n + Text.digitValue c
      if greatestCount < n then .error "number too large to fit in target type"
      else countFrom n rest

/-- Reads a number in decimal digits, a plus in front being allowed. -/
def countOf (text : String) : Except String Nat :=
  match text.toList with
  | [] => .error "cannot parse integer from empty string"
  | ['+'] => .error "invalid digit found in string"
  | '+' :: digits => countFrom 0 digits
  | digits => countFrom 0 digits

def Parameter.checkValue (p : Parameter) (value : String) : Except Stop Unit :=
  match p.form with
  | .text => .ok ()
  | .path => if value.isEmpty then refuse (.noValue p) else .ok ()
  | .count =>
    match countOf value with
    | .ok _ => .ok ()
    | .error reason => refuse (.badValue p value reason)

/-- Values by the names of their parameters. -/
abbrev Given := List (String × List String)

namespace Given

def has (given : Given) (name : String) : Bool := given.any fun entry => entry.1 == name

/-- The values of a parameter, from each time that it is there. -/
def texts (given : Given) (name : String) : List String :=
  (given.filter fun entry => entry.1 == name).flatMap fun entry => entry.2

def text? (given : Given) (name : String) : Option String := (given.texts name).head?

def text (given : Given) (name : String) : String := (given.text? name).getD ""

def count? (given : Given) (name : String) : Option Nat :=
  (given.text? name).bind fun value => (countOf value).toOption

end Given

/-- Arguments that have been taken. The values of the pending parameter are not settled yet. -/
structure Taken where
  given : Given := []
  pending : Option (Parameter × List String) := none
deriving Repr

namespace Taken

/-- Settles values of a parameter. -/
def settleValues (given : Given) (p : Parameter) (values : List String) : Except Stop Given := do
  if p.arity != .none && values.isEmpty then refuse (.noValue p)
  else if p.arity != .many && given.has p.name then refuse (.repeated p)
  else
    values.forM p.checkValue
    .ok (given ++ [(p.name, values)])

def settle (t : Taken) : Except Stop Given :=
  match t.pending with
  | none => .ok t.given
  | some (p, values) => settleValues t.given p values

def flag (t : Taken) (p : Parameter) : Except Stop Taken := do
  let given ← t.settle
  if p.name == "help" then .error .help
  else if p.name == "version" then .error .version
  else .ok ⟨← settleValues given p [], none⟩

/-- Begins an option whose values follow. -/
def begin (t : Taken) (p : Parameter) : Except Stop Taken := do
  .ok ⟨← t.settle, some (p, [])⟩

/-- Takes an option with the value that is joined to it. -/
def joined (t : Taken) (p : Parameter) (value : String) : Except Stop Taken := do
  .ok ⟨← settleValues (← t.settle) p [value], none⟩

/-- Takes letters after a dash. -/
def letters (parameters : List Parameter) : Taken → List Char → Except Stop Taken
  | t, [] => .ok t
  | t, c :: rest =>
    match parameters.find? fun p => p.letter == some c with
    | none => refuse (.unexpected (String.ofList ['-', c]))
    | some p =>
      if p.arity == .none then do letters parameters (← t.flag p) rest
      else
        match rest with
        | [] => t.begin p
        | '=' :: value => t.joined p (String.ofList value)
        | value => t.joined p (String.ofList value)

/-- Takes a long name after two dashes, with a value after an equals sign or without. -/
def long (parameters : List Parameter) (t : Taken) (text : List Char) : Except Stop Taken :=
  let (name, joinedValue) := text.span (· != '=')
  match parameters.find? fun p => !p.positional && p.name == String.ofList name with
  | none => refuse (.unexpected ("--" ++ String.ofList name))
  | some p =>
    match p.arity, joinedValue with
    | .none, [] => t.flag p
    | .none, _ :: value => refuse (.needsNoValue p (String.ofList value))
    | _, [] => t.begin p
    | _, _ :: value => t.joined p (String.ofList value)

def positional (parameters : List Parameter) (t : Taken) (text : String) : Except Stop Taken := do
  match parameters.find? Parameter.positional with
  | none => refuse (.unexpected text)
  | some p =>
    match t.pending with
    | some (q, values) =>
      if p = q then .ok { t with pending := some (q, values ++ [text]) }
      else .ok ⟨← t.settle, some (p, [text])⟩
    | none => .ok { t with pending := some (p, [text]) }

/-- Takes a text that is no option: a value of the pending option, or a positional one. -/
def plain (parameters : List Parameter) (t : Taken) (text : String) : Except Stop Taken :=
  match t.pending with
  | some (p, values) =>
    if !p.positional && (p.arity == .many || values.isEmpty) then
      .ok { t with pending := some (p, values ++ [text]) }
    else positional parameters t text
  | none => positional parameters t text

def argument (parameters : List Parameter) (t : Taken) (text : String) : Except Stop Taken :=
  match text.toList with
  | '-' :: '-' :: name => long parameters t name
  | '-' :: c :: rest => letters parameters t (c :: rest)
  | _ => plain parameters t text

/-- After two dashes alone, all that follows is positional. -/
def arguments (parameters : List Parameter) : Taken → List String → Except Stop Taken
  | t, [] => .ok t
  | t, "--" :: rest => rest.foldlM (positional parameters) t
  | t, text :: rest => do arguments parameters (← argument parameters t text) rest

end Taken

/-- Reads all arguments of a command. -/
def readArguments (parameters : List Parameter) (texts : List String) : Except Stop Given := do
  let given ← (← Taken.arguments parameters {} texts).settle
  match parameters.filter fun p => p.required && !given.has p.name with
  | [] => .ok given
  | missing => refuse (.missing missing)

end DataSchema.CommandLine
