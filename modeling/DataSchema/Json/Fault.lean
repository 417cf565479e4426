import DataSchema.Json.Text
import DataSchema.Text.Shown

/-!
What can be wrong with JSON text: faults of the text itself, and values that are not of the
expected form.
-/
namespace DataSchema

/-- What stands in the place of an expected value. -/
inductive Found where
  | null
  | bool (value : Bool)
  | integer (value : Int)
  | float (value : Binary64)
  | string (value : String)
  | list
  | map
deriving Repr

def Found.text : Found → String
  | .null => "null"
  | .bool value => s!"boolean `{value}`"
  | .integer value => s!"integer `{value}`"
  | .float value => "floating point `" ++ value.format .json ++ "`"
  | .string value => "string " ++ Text.shown value
  | .list => "sequence"
  | .map => "map"

def Found.ofNumber : Number → Found
  | .int value => .integer value
  | .float value => .float value

def Found.ofJson : Json → Found
  | .null => .null
  | .bool value => .bool value
  | .number value => .ofNumber value
  | .string value => .string value
  | .array _ => .list
  | .object _ => .map

inductive Mismatch where
  | kind (found : Found) (expected : String)
  | value (found : Found) (expected : String)
  | length (found : Nat) (expected : String)
  | unknownField (name : String) (known : List String)
  | unknownChoice (name : String) (known : List String)
  | missingField (name : String)
  | duplicateField (name : String)
  | noVariant (name : String)
deriving Repr

def quotedName (name : String) : String := "`" ++ name ++ "`"

/-- The end of a message about an unknown name. -/
def knownNames : List String → String
  | [a] => "expected " ++ quotedName a
  | [a, b] => "expected " ++ quotedName a ++ " or " ++ quotedName b
  | names => "expected one of " ++ ", ".intercalate (names.map quotedName)

def Mismatch.message : Mismatch → String
  | .kind found expected => "invalid type: " ++ found.text ++ ", expected " ++ expected
  | .value found expected => "invalid value: " ++ found.text ++ ", expected " ++ expected
  | .length found expected => s!"invalid length {found}, expected " ++ expected
  | .unknownField name known => "unknown field " ++ quotedName name ++ ", " ++ knownNames known
  | .unknownChoice name known =>
    "unknown variant " ++ quotedName name ++ ", " ++ knownNames known
  | .missingField name => "missing field " ++ quotedName name
  | .duplicateField name => "duplicate field " ++ quotedName name
  | .noVariant name => "data did not match any variant of untagged enum " ++ name

inductive Fault where
  | endInValue | endInList | endInObject | endInString
  | expectedColon | expectedListEnd | expectedObjectEnd | expectedIdent | expectedValue
  | invalidEscape | invalidNumber | numberOutOfRange | controlCharacter | keyNotString
  | loneSurrogate | unfinishedSurrogate | trailingComma | trailingCharacters | tooDeep
  | mismatch (mismatch : Mismatch)
deriving Repr

def Fault.message : Fault → String
  | .endInValue => "EOF while parsing a value"
  | .endInList => "EOF while parsing a list"
  | .endInObject => "EOF while parsing an object"
  | .endInString => "EOF while parsing a string"
  | .expectedColon => "expected `:`"
  | .expectedListEnd => "expected `,` or `]`"
  | .expectedObjectEnd => "expected `,` or `\x7d`"
  | .expectedIdent => "expected ident"
  | .expectedValue => "expected value"
  | .invalidEscape => "invalid escape"
  | .invalidNumber => "invalid number"
  | .numberOutOfRange => "number out of range"
  | .controlCharacter => "control character (\\u0000-\\u001F) found while parsing a string"
  | .keyNotString => "key must be a string"
  | .loneSurrogate => "lone leading surrogate in hex escape"
  | .unfinishedSurrogate => "unexpected end of hex escape"
  | .trailingComma => "trailing comma"
  | .trailingCharacters => "trailing characters"
  | .tooDeep => "recursion limit exceeded"
  | .mismatch m => m.message

/-- A step from a value to a part of it; `unknown` leads to a member whose name was not read. -/
inductive Step where
  | member (name : String)
  | index (index : Nat)
  | unknown
deriving Repr, DecidableEq

def Step.text : Step → String
  | .member name => name
  | .index place => s!"[{place}]"
  | .unknown => "?"

/-- Steps joined by dots; an index follows without one, and the root is a dot. -/
def Step.pathText : List Step → String
  | [] => "."
  | first :: rest =>
    rest.foldl (fun text step =>
      match step with
      | .index _ => text ++ step.text
      | _ => text ++ "." ++ step.text) first.text

/-- A fault at a place of a text. `path` leads from the root, innermost step first; `unread` counts
the bytes after the place. -/
structure ReadError where
  path : List Step
  fault : Fault
  unread : Nat
deriving Repr

/-- Line and column after a number of bytes. Lines count from one, and a column is the number of
bytes since the last line break. -/
def placeAfter : List Char → Nat → Nat → Nat → Nat × Nat
  | [], line, column, _ => (line, column)
  | c :: rest, line, column, bytes =>
    if bytes < c.utf8Size then (line, column + bytes)
    else if c = '\n' then placeAfter rest (line + 1) 0 (bytes - 1)
    else placeAfter rest line (column + c.utf8Size) (bytes - c.utf8Size)

/-- A fault with its line and column. -/
structure TextError where
  path : List Step
  fault : Fault
  line : Nat
  column : Nat
deriving Repr

def ReadError.locate (source : String) (e : ReadError) : TextError :=
  let (line, column) := placeAfter source.toList 1 0 (source.utf8ByteSize - e.unread)
  ⟨e.path.reverse, e.fault, line, column⟩

def TextError.pathText (e : TextError) : String := Step.pathText e.path

def TextError.message (e : TextError) : String :=
  e.fault.message ++ s!" at line {e.line} column {e.column}"

end DataSchema
