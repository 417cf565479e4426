import DataSchema.Json.Fault
import DataSchema.Number.Scientific

/-!
Scalars of JSON text. A scanner takes the text after what decided its kind and gives back the text
that follows, or a fault with the number of bytes that follow it.
-/
namespace DataSchema.Json.Scan

abbrev Scanned (α : Type) := Except (Fault × Nat) (α × List Char)

def byteLength (cs : List Char) : Nat := cs.foldl (fun n c => n + c.utf8Size) 0

/-- A fault where the text stands. -/
def failAt {α : Type} (fault : Fault) (rest : List Char) : Scanned α :=
  .error (fault, byteLength rest)

/-- A fault one byte further on, or at the end. -/
def failPast {α : Type} (fault : Fault) (rest : List Char) : Scanned α :=
  .error (fault, byteLength rest - 1)

def isBlank (c : Char) : Bool := c == ' ' || c == '\n' || c == '\t' || c == '\r'

def skipBlank (cs : List Char) : List Char := cs.dropWhile isBlank

/-- The rest of a word of which the first letter has been read. -/
def word : List Char → List Char → Scanned Unit
  | [], rest => .ok ((), rest)
  | _ :: _, [] => .error (.endInValue, 0)
  | e :: expected, c :: rest =>
    if c = e then word expected rest else failPast .expectedIdent (c :: rest)

/-- Four hexadecimal digits. Four bytes are read whatever they are. -/
def fourHex (rest : List Char) : Scanned Nat :=
  match rest with
  | a :: b :: c :: d :: after =>
    if [a, b, c, d].all Text.isHex then .ok (Text.ofHexDigits [a, b, c, d], after)
    else .error (.invalidEscape, byteLength rest - 4)
  | _ =>
    if byteLength rest < 4 then .error (.endInString, 0)
    else .error (.invalidEscape, byteLength rest - 4)

/-- The character of a `\u` escape; two escapes make one character when the first is a leading
surrogate. -/
def unicodeEscape (rest : List Char) : Scanned Char :=
  (fourHex rest).bind fun (lead, rest) =>
    if 0xDC00 ≤ lead && lead ≤ 0xDFFF then failAt .loneSurrogate rest
    else if lead < 0xD800 || 0xDBFF < lead then .ok (Char.ofNat lead, rest)
    else
      match rest with
      | [] => .error (.endInString, 0)
      | '\\' :: [] => .error (.endInString, 0)
      | '\\' :: 'u' :: rest =>
        (fourHex rest).bind fun (trail, rest) =>
          if trail < 0xDC00 || 0xDFFF < trail then failAt .loneSurrogate rest
          else .ok (Char.ofNat ((lead - 0xD800) * 0x400 + (trail - 0xDC00) + 0x10000), rest)
      | '\\' :: rest => failPast .unfinishedSurrogate rest
      | rest => failPast .unfinishedSurrogate rest

def simpleEscape? : Char → Option Char
  | '"' => some '"'
  | '\\' => some '\\'
  | '/' => some '/'
  | 'b' => some '\x08'
  | 'f' => some '\x0c'
  | 'n' => some '\n'
  | 'r' => some '\r'
  | 't' => some '\t'
  | _ => none

/-- The rest of a string after its opening quote; `read` holds what has been read, last character
first. Each round reads a character or an escape, so the length of the text bounds the rounds. -/
def stringBody : Nat → List Char → List Char → Scanned String
  | 0, _, _ => .error (.endInString, 0)
  | fuel + 1, read, rest =>
    match rest with
    | [] => .error (.endInString, 0)
    | '"' :: rest => .ok (String.ofList read.reverse, rest)
    | '\\' :: [] => .error (.endInString, 0)
    | '\\' :: 'u' :: rest =>
      (unicodeEscape rest).bind fun (c, rest) => stringBody fuel (c :: read) rest
    | '\\' :: c :: rest =>
      match simpleEscape? c with
      | some plain => stringBody fuel (plain :: read) rest
      | none => failPast .invalidEscape (c :: rest)
    | c :: rest =>
      if c.toNat < 0x20 then failPast .controlCharacter (c :: rest)
      else stringBody fuel (c :: read) rest

def string (rest : List Char) : Scanned String := stringBody (rest.length + 1) [] rest

def largestExponent : Nat := 0x7FFFFFFF

/-- The digits of an exponent until its value leaves 31 bits: the value, or the text after the
digit that did it. -/
def exponentDigits : Nat → List Char → Nat × Option (List Char) × List Char
  | value, [] => (value, none, [])
  | value, c :: rest =>
    if Text.isDecimal c then
      let next := 10 * value + Text.digitValue c
      if largestExponent < next then (value, some rest, rest.dropWhile Text.isDecimal)
      else exponentDigits next rest
    else (value, none, c :: rest)

/-- A number that is no integer, at its end. -/
def floatOf (negative : Bool) (number : Scientific) (rest : List Char) : Scanned Number :=
  match number.toBinary64? negative with
  | some value => .ok (.float value, rest)
  | none => failAt .numberOutOfRange rest

/-- The part after `e`. -/
def exponentPart (negative : Bool) (number : Scientific) (rest : List Char) : Scanned Number :=
  let (minus, rest) :=
    match rest with
    | '+' :: rest => (false, rest)
    | '-' :: rest => (true, rest)
    | rest => (false, rest)
  match rest with
  | [] => .error (.endInValue, 0)
  | c :: after =>
    if !Text.isDecimal c then failPast .invalidNumber (c :: after)
    else
      let (value, overflow, rest) := exponentDigits (Text.digitValue c) after
      match overflow with
      | none => floatOf negative (number.shift (if minus then -value else value)) rest
      | some past =>
        if number.significand = 0 || minus then .ok (.float (.finite negative 0), rest)
        else failAt .numberOutOfRange past

/-- The digits after the point; those that the significand has no room for are dropped. -/
def fractionDigits (number : Scientific) : List Char → Scientific × List Char
  | [] => (number, [])
  | c :: rest =>
    if Text.isDecimal c then
      match number.push? (Text.digitValue c) with
      | some longer => fractionDigits (longer.shift (-1)) rest
      | none => (number, rest.dropWhile Text.isDecimal)
    else (number, c :: rest)

/-- The part after the point, then an exponent if there is one. -/
def fractionPart (negative : Bool) (number : Scientific) (rest : List Char) : Scanned Number :=
  match rest with
  | [] => .error (.endInValue, 0)
  | c :: after =>
    if !Text.isDecimal c then failPast .invalidNumber (c :: after)
    else
      let (number, after) := fractionDigits number rest
      match after with
      | 'e' :: after | 'E' :: after => exponentPart negative number after
      | _ => floatOf negative number after

/-- The digits before the point; those that the significand has no room for count as places. -/
def wholeDigits (number : Scientific) : List Char → Scientific × List Char
  | [] => (number, [])
  | c :: rest =>
    if Text.isDecimal c then
      match number.push? (Text.digitValue c) with
      | some longer => wholeDigits longer rest
      | none =>
        (number.shift (1 + (rest.takeWhile Text.isDecimal).length), rest.dropWhile Text.isDecimal)
    else (number, c :: rest)

/-- A whole number as an integer, if 64 bits hold it. Minus zero is no integer. -/
def integer? (negative : Bool) (number : Scientific) : Option Int :=
  if number.exponent ≠ 0 then none
  else if !negative then some number.significand
  else if number.significand = 0 || 0x8000000000000000 < number.significand then none
  else some (-(number.significand : Int))

/-- A number after its sign. -/
def number (negative : Bool) (rest : List Char) : Scanned Number :=
  match rest with
  | [] => .error (.endInValue, 0)
  | c :: after =>
    if !Text.isDecimal c then failPast .invalidNumber (c :: after)
    else if c = '0' && (after.head?.map Text.isDecimal).getD false then
      failPast .invalidNumber after
    else
      let (whole, after) := wholeDigits ⟨0, 0⟩ rest
      match after with
      | '.' :: after => fractionPart negative whole after
      | 'e' :: after | 'E' :: after => exponentPart negative whole after
      | after =>
        match integer? negative whole with
        | some value => .ok (.int value, after)
        | none => floatOf negative whole after

/-- A scalar, or the mark of an array or object, which is left unread. -/
def found (rest : List Char) : Scanned Found :=
  match rest with
  | 'n' :: rest => (word ['u', 'l', 'l'] rest).map fun r => (.null, r.2)
  | 't' :: rest => (word ['r', 'u', 'e'] rest).map fun r => (.bool true, r.2)
  | 'f' :: rest => (word ['a', 'l', 's', 'e'] rest).map fun r => (.bool false, r.2)
  | '-' :: rest => (number true rest).map fun r => (.ofNumber r.1, r.2)
  | '"' :: rest => (string rest).map fun r => (.string r.1, r.2)
  | '[' :: _ => .ok (.list, rest)
  | '\x7b' :: _ => .ok (.map, rest)
  | c :: _ =>
    if Text.isDecimal c then (number false rest).map fun r => (.ofNumber r.1, r.2)
    else failPast .expectedValue rest
  | [] => .error (.endInValue, 0)

end DataSchema.Json.Scan
