import DataSchema.Json.Value
import DataSchema.Number.Decimal
import DataSchema.Text.Digit

/-!
Written JSON, compact and indented.
-/
namespace DataSchema.Json

/-- Two digits after `\u00`, the letters being small. -/
def escapedControl (c : Char) : List Char :=
  ['\\', 'u', '0', '0', Nat.digitChar (c.toNat / 16), Nat.digitChar (c.toNat % 16)]

/-- Quotes, backslashes and control characters are escaped; every other character stands for
itself. -/
def escaped (c : Char) : List Char :=
  if c = '"' then ['\\', '"']
  else if c = '\\' then ['\\', '\\']
  else if c = '\x08' then ['\\', 'b']
  else if c = '\x0c' then ['\\', 'f']
  else if c = '\n' then ['\\', 'n']
  else if c = '\r' then ['\\', 'r']
  else if c = '\t' then ['\\', 't']
  else if c.toNat < 0x20 then escapedControl c
  else [c]

def quotedChars (cs : List Char) : List Char := '"' :: (cs.flatMap escaped ++ ['"'])

def quoted (s : String) : String := String.ofList (quotedChars s.toList)

def numberText : Number → String
  | .int value => toString value
  | .float value => value.format .json

mutual

def compact : Json → String
  | .null => "null"
  | .bool value => if value then "true" else "false"
  | .number value => numberText value
  | .string value => quoted value
  | .array items => "[" ++ compactItems items ++ "]"
  | .object members => "\x7b" ++ compactMembers members ++ "\x7d"

def compactItems : List Json → String
  | [] => ""
  | value :: rest =>
    match rest with
    | [] => compact value
    | _ => compact value ++ "," ++ compactItems rest

def compactMembers : Members → String
  | [] => ""
  | (name, value) :: rest =>
    match rest with
    | [] => quoted name ++ ":" ++ compact value
    | _ => quoted name ++ ":" ++ compact value ++ "," ++ compactMembers rest

end

/-- A new line at a depth of nesting. -/
def newLine (depth : Nat) : String := "\n" ++ String.ofList (List.replicate (2 * depth) ' ')

mutual

/-- Two spaces for each level; an empty array or object stays on its line. -/
def indentedAt (depth : Nat) : Json → String
  | .array (item :: items) =>
    "[" ++ indentedItems (depth + 1) (item :: items) ++ newLine depth ++ "]"
  | .object (member :: members) =>
    "\x7b" ++ indentedMembers (depth + 1) (member :: members) ++ newLine depth ++ "\x7d"
  | .array [] => "[]"
  | .object [] => "\x7b\x7d"
  | .null => "null"
  | .bool value => if value then "true" else "false"
  | .number value => numberText value
  | .string value => quoted value

def indentedItems (depth : Nat) : List Json → String
  | [] => ""
  | value :: rest =>
    let here := newLine depth ++ indentedAt depth value
    match rest with
    | [] => here
    | _ => here ++ "," ++ indentedItems depth rest

def indentedMembers (depth : Nat) : Members → String
  | [] => ""
  | (name, value) :: rest =>
    let here := newLine depth ++ quoted name ++ ": " ++ indentedAt depth value
    match rest with
    | [] => here
    | _ => here ++ "," ++ indentedMembers depth rest

end

def indented (v : Json) : String := indentedAt 0 v

end DataSchema.Json
