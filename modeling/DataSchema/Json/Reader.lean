import DataSchema.Json.Scan

/-!
Readers of JSON text. A reader takes the text from where its value stands and gives back what it
read with the text that follows. The first fault ends the reading.
-/
namespace DataSchema.Json

/-- Where a reader stands: the steps from the root, innermost first, and how many more levels of
arrays and objects may be opened. -/
structure Place where
  path : List Step
  room : Nat

namespace Place

def within (place : Place) (step : Step) : Place := { place with path := step :: place.path }

def fault {α : Type} (place : Place) (fault : Fault) (rest : List Char) : Except ReadError α :=
  .error ⟨place.path, fault, Scan.byteLength rest⟩

/-- A fault on the character that comes next, which counts as read. -/
def faultAtNext {α : Type} (place : Place) (fault : Fault) (rest : List Char) :
    Except ReadError α :=
  .error ⟨place.path, fault, Scan.byteLength rest - 1⟩

def mismatch {α : Type} (place : Place) (mismatch : Mismatch) (rest : List Char) :
    Except ReadError α :=
  place.fault (.mismatch mismatch) rest

def scanned {α : Type} (place : Place) (result : Scan.Scanned α) :
    Except ReadError (α × List Char) :=
  result.mapError fun (fault, unread) => ⟨place.path, fault, unread⟩

end Place

abbrev Reader (α : Type) := Place → List Char → Except ReadError (α × List Char)

namespace Reader

open Scan (skipBlank)

/-- Opens an array or object whose bracket comes first in the text. -/
def opened {α : Type} (place : Place) (rest : List Char)
    (inner : Place → List Char → Except ReadError α) : Except ReadError α :=
  match place.room with
  | 0 => place.faultAtNext .tooDeep rest
  | room + 1 => inner ⟨place.path, room⟩ rest.tail

/-- Steps to the next item of an array. There is none when the closing bracket comes next. -/
def nextItem? (place : Place) (first : Bool) (rest : List Char) :
    Except ReadError (Option (List Char)) :=
  match skipBlank rest with
  | [] => place.fault .endInList []
  | ']' :: _ => .ok none
  | ',' :: after =>
    if first then .ok (some (',' :: after))
    else
      match skipBlank after with
      | [] => place.fault .endInValue []
      | ']' :: after => place.faultAtNext .trailingComma (']' :: after)
      | after => .ok (some after)
  | after => if first then .ok (some after) else place.faultAtNext .expectedListEnd after

/-- Steps past the end of an array. -/
def closeList (place : Place) (rest : List Char) : Except ReadError (List Char) :=
  match skipBlank rest with
  | [] => place.fault .endInList []
  | ']' :: after => .ok after
  | ',' :: after =>
    match skipBlank after with
    | ']' :: after => place.faultAtNext .trailingComma (']' :: after)
    | after => place.faultAtNext .trailingCharacters after
  | after => place.faultAtNext .trailingCharacters after

/-- The name of a member that starts after its quote. -/
def memberName (place : Place) (rest : List Char) :
    Except ReadError (Option (String × List Char)) :=
  match rest with
  | '"' :: after => (place.scanned (Scan.string after)).map some
  | after => place.faultAtNext .keyNotString after

/-- Steps to the name of the next member. There is none when the closing brace comes next. -/
def nextName? (place : Place) (first : Bool) (rest : List Char) :
    Except ReadError (Option (String × List Char)) :=
  let nameless := place.within .unknown
  match skipBlank rest with
  | [] => nameless.fault .endInObject []
  | '\x7d' :: _ => .ok none
  | ',' :: after =>
    if first then memberName nameless (',' :: after)
    else
      match skipBlank after with
      | [] => nameless.fault .endInValue []
      | '\x7d' :: after => nameless.faultAtNext .trailingComma ('\x7d' :: after)
      | after => memberName nameless after
  | after =>
    if first then memberName nameless after else nameless.faultAtNext .expectedObjectEnd after

def colon (place : Place) (rest : List Char) : Except ReadError (List Char) :=
  match skipBlank rest with
  | [] => place.fault .endInObject []
  | ':' :: after => .ok after
  | after => place.faultAtNext .expectedColon after

/-- Reads a scalar and decides on what was found. A mismatch stands after a scalar, and before an
array or object. -/
def scalar {α : Type} (decide : Found → Except Mismatch α) : Reader α := fun place rest => do
  let (found, rest) ← place.scanned (Scan.found (skipBlank rest))
  match decide found with
  | .ok value => .ok (value, rest)
  | .error mismatch => place.mismatch mismatch rest

def text : Reader String :=
  scalar fun
    | .string value => .ok value
    | found => .error (.kind found "a string")

def flag : Reader Bool :=
  scalar fun
    | .bool value => .ok value
    | found => .error (.kind found "a boolean")

/-- A natural number of 64 bits; `name` is what messages call this type. -/
def count (name : String) : Reader Nat :=
  scalar fun
    | .integer value =>
      if value < 0 then .error (.value (.integer value) name) else .ok value.toNat
    | found => .error (.kind found name)

def unit : Reader Unit :=
  scalar fun
    | .null => .ok ()
    | found => .error (.kind found "unit")

/-- Null stands for absence. -/
def optional {α : Type} (reader : Reader α) : Reader (Option α) := fun place rest =>
  match skipBlank rest with
  | 'n' :: after => (place.scanned (Scan.word ['u', 'l', 'l'] after)).map fun r => (none, r.2)
  | after => (reader place after).map fun r => (some r.1, r.2)

def nameOf {α : Type} (cases : List (String × α)) : Reader (String × α) :=
  scalar fun
    | .string name =>
      match cases.find? (·.1 == name) with
      | some choice => .ok choice
      | none => .error (.unknownChoice name (cases.map (·.1)))
    | found => .error (.kind found "variant identifier")

/-- One of several names, as a string or as an object with that name alone and null under it. -/
def choice {α : Type} (cases : List (String × α)) : Reader α := fun place rest =>
  match skipBlank rest with
  | [] => place.fault .endInValue []
  | '"' :: after => (nameOf cases place ('"' :: after)).map fun r => (r.1.2, r.2)
  | '\x7b' :: after =>
    opened place ('\x7b' :: after) fun inner rest => do
      let ((name, value), rest) ← nameOf cases inner rest
      let rest ← colon inner rest
      let ((), rest) ← unit (inner.within (.member name)) rest
      match skipBlank rest with
      | [] => inner.fault .endInObject []
      | '\x7d' :: after => .ok (value, after)
      | after => inner.fault .expectedValue after
  | after => place.faultAtNext .expectedValue after

/-- The items of an array up to its end. Every item takes a character, so the length of the text
bounds their number. -/
def itemsFrom {α : Type} (item : Reader α) :
    Nat → Place → Nat → List Char → Except ReadError (List α × List Char)
  | 0, _, _, rest => .ok ([], rest)
  | fuel + 1, place, index, rest => do
    match ← nextItem? place (index == 0) rest with
    | none => .ok ([], rest)
    | some rest =>
      let (value, rest) ← item (place.within (.index index)) rest
      let (values, rest) ← itemsFrom item fuel place (index + 1) rest
      .ok (value :: values, rest)

def items {α : Type} (item : Reader α) : Reader (List α) := fun place rest => do
  let (values, rest) ← itemsFrom item rest.length place 0 rest
  let rest ← closeList place rest
  .ok (values, rest)

def list {α : Type} (item : Reader α) : Reader (List α) := fun place rest =>
  match skipBlank rest with
  | '[' :: after => opened place ('[' :: after) (items item)
  | after => scalar (fun found => .error (.kind found "a sequence")) place after

/-- The members of an object up to its end. The last member of a name counts, at the place of the
first. -/
def membersFrom (value : Reader Json) :
    Nat → Place → Bool → Members → List Char → Except ReadError (Members × List Char)
  | 0, _, _, read, rest => .ok (read, rest)
  | fuel + 1, place, first, read, rest => do
    match ← nextName? place first rest with
    | none => .ok (read, (skipBlank rest).tail)
    | some (name, rest) =>
      let rest ← colon place rest
      let (member, rest) ← value (place.within (.member name)) rest
      membersFrom value fuel place false (put read name member) rest

def scalarValue : Reader Json :=
  scalar fun
    | .null | .list | .map => .ok .null
    | .bool value => .ok (.bool value)
    | .integer value => .ok (.number (.int value))
    | .float value => .ok (.number (.float value))
    | .string value => .ok (.string value)

/-- Any value whose arrays and objects are nested no deeper than a number of levels. -/
def valueWithin : Nat → Reader Json
  | 0 => fun place rest =>
    match skipBlank rest with
    | '[' :: after => place.faultAtNext .tooDeep ('[' :: after)
    | '\x7b' :: after => place.faultAtNext .tooDeep ('\x7b' :: after)
    | after => scalarValue place after
  | levels + 1 => fun place rest =>
    match skipBlank rest with
    | '[' :: after =>
      (items (valueWithin levels) place after).map fun r => (.array r.1, r.2)
    | '\x7b' :: after =>
      (membersFrom (valueWithin levels) (after.length + 1) place true [] after).map fun r =>
        (.object r.1, r.2)
    | after => scalarValue place after

def value : Reader Json := fun place rest => valueWithin place.room place rest

/-- A member of a record: how its value is read into a record under construction. -/
structure Field (σ : Type) where
  name : String
  required : Bool
  read : Reader (σ → σ)

def Field.of {σ α : Type} (name : String) (required : Bool) (reader : Reader α)
    (set : α → σ → σ) : Field σ :=
  ⟨name, required, fun place rest => (reader place rest).map fun r => (set r.1, r.2)⟩

/-- The text after the end of an object, if its end comes next. -/
def pastObject (rest : List Char) : List Char :=
  match skipBlank rest with
  | '\x7d' :: after => after
  | after => after

/-- The members of a record in any order, each once. -/
def fieldsFrom {σ : Type} (fields : List (Field σ)) :
    Nat → Place → List String → σ → List Char → Except ReadError (σ × List Char)
  | 0, _, _, record, rest => .ok (record, rest)
  | fuel + 1, place, seen, record, rest => do
    match ← nextName? place seen.isEmpty rest with
    | none =>
      match fields.find? fun field => field.required && !seen.contains field.name with
      | some field => place.mismatch (.missingField field.name) (pastObject rest)
      | none => .ok (record, pastObject rest)
    | some (name, rest) =>
      match fields.find? (·.name == name) with
      | none =>
        (place.within (.member name)).mismatch (.unknownField name (fields.map Field.name))
          (pastObject rest)
      | some field =>
        if seen.contains name then place.mismatch (.duplicateField name) (pastObject rest)
        else
          let rest ← colon place rest
          let (set, rest) ← field.read (place.within (.member name)) rest
          fieldsFrom fields fuel place (name :: seen) (set record) rest

/-- The fields of a record written as an array, in their order. Fields that are not required may
be missing at the end. -/
def positionsFrom {σ : Type} (expected : String) :
    List (Field σ) → Place → Nat → σ → List Char → Except ReadError (σ × List Char)
  | [], _, _, record, rest => .ok (record, rest)
  | field :: fields, place, index, record, rest => do
    match ← nextItem? place (index == 0) rest with
    | none =>
      if field.required then place.mismatch (.length index expected) (skipBlank rest).tail
      else positionsFrom expected fields place (index + 1) record rest
    | some rest =>
      let (set, rest) ← field.read (place.within (.index index)) rest
      positionsFrom expected fields place (index + 1) (set record) rest

/-- A record with the given fields and no others. -/
def record {σ : Type} (name : String) (fields : List (Field σ)) (initial : σ) : Reader σ :=
  fun place rest =>
    let expected := "struct " ++ name
    match skipBlank rest with
    | '\x7b' :: after =>
      opened place ('\x7b' :: after) fun inner rest =>
        fieldsFrom fields (rest.length + 1) inner [] initial rest
    | '[' :: after =>
      opened place ('[' :: after) fun inner rest => do
        let (value, rest) ←
          positionsFrom s!"{expected} with {fields.length} elements" fields inner 0 initial rest
        let rest ← closeList inner rest
        .ok (value, rest)
    | after => scalar (fun found => .error (.kind found expected)) place after

/-- Levels that a text may nest. -/
def usualRoom : Nat := 127

/-- Reads the value at the beginning of a text. What follows it does not count. -/
def atStart {α : Type} (reader : Reader α) (source : String) : Except TextError α :=
  ((reader ⟨[], usualRoom⟩ source.toList).map (·.1)).mapError (ReadError.locate source)

/-- Reads a text that holds one value and blanks around it. -/
def whole {α : Type} (reader : Reader α) (room : Nat) (source : String) : Except TextError α :=
  let place : Place := ⟨[], room⟩
  let result : Except ReadError α := do
    let (value, rest) ← reader place source.toList
    match skipBlank rest with
    | [] => .ok value
    | after => place.faultAtNext .trailingCharacters after
  result.mapError (ReadError.locate source)

end Reader
end DataSchema.Json
