import DataSchema.Json.Value
import DataSchema.Text.Digit
import DataSchema.Text.Part

/-!
JSON pointers: segments after slashes, with `~` written `~0` and `/` written `~1` inside them.
-/
namespace DataSchema.Json.Pointer

def escapedChar (c : Char) : List Char :=
  if c = '~' then ['~', '0'] else if c = '/' then ['~', '1'] else [c]

def escapeChars (cs : List Char) : List Char := cs.flatMap escapedChar

/-- A `~` before any other character stands for itself. -/
def unescapeChars : List Char → List Char
  | [] => []
  | '~' :: '1' :: rest => '/' :: unescapeChars rest
  | '~' :: '0' :: rest => '~' :: unescapeChars rest
  | c :: rest => c :: unescapeChars rest

def escape (s : String) : String := String.ofList (escapeChars s.toList)
def unescape (s : String) : String := String.ofList (unescapeChars s.toList)

/-- The text of a position. -/
def renderChars : List String → List Char
  | [] => []
  | segment :: rest => '/' :: (escapeChars segment.toList ++ renderChars rest)

def render (segments : List String) : String := String.ofList (renderChars segments)

/-- The segments of a pointer; a text that is not empty has to begin with a slash. -/
def parseChars? : List Char → Option (List String)
  | [] => some []
  | '/' :: rest =>
    some ((Text.parts (· == '/') rest).map fun part => String.ofList (unescapeChars part))
  | _ :: _ => none

def parse? (s : String) : Option (List String) := parseChars? s.toList

/-- An array index has no sign and no leading zero. -/
def index? (segment : String) : Option Nat :=
  match segment.toList with
  | [] => none
  | ['0'] => some 0
  | c :: rest =>
    if c ≠ '0' && Text.isDecimal c && rest.all Text.isDecimal then
      some (Text.ofDecimalDigits (c :: rest))
    else none

def step? (v : Json) (segment : String) : Option Json :=
  match v with
  | .object members => member? members segment
  | .array items => (index? segment).bind fun i => items[i]?
  | _ => none

def resolve? : Json → List String → Option Json
  | v, [] => some v
  | v, segment :: rest => (step? v segment).bind fun w => resolve? w rest

def select? (v : Json) (pointer : String) : Option Json :=
  (parse? pointer).bind (resolve? v)

end DataSchema.Json.Pointer
