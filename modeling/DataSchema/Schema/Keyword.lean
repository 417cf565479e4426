import DataSchema.Schema.Finding

/-!
The keywords of schema objects. Members with other names do not count, and null stands for
absence unless the table says otherwise.
-/
namespace DataSchema

/-- Forms that the value of a keyword may have. -/
inductive KeywordForm where
  | any | flag | text | count | number | schemas | properties | types | required | exclusive
deriving DecidableEq, Repr

namespace KeywordForm

def isText : Json → Bool
  | .string _ => true
  | _ => false

def isTexts : Json → Bool
  | .array items => items.all isText
  | _ => false

def isFlag : Json → Bool
  | .bool _ => true
  | _ => false

def isNumber : Json → Bool
  | .number _ => true
  | _ => false

def orNull (v : Json) (mismatch : Option Mismatch) : Option Mismatch :=
  match v with
  | .null => none
  | _ => mismatch

def expecting (holds : Bool) (mismatch : Mismatch) : Option Mismatch :=
  if holds then none else some mismatch

def countMismatch? : Json → Option Mismatch
  | .number (.int value) =>
    if value < 0 then some (.value (.integer value) "u64") else none
  | v => some (.kind (.ofJson v) "u64")

/-- What is wrong with a value of the form. -/
def mismatch? (form : KeywordForm) (v : Json) : Option Mismatch :=
  match form with
  | .any => none
  | .flag => expecting (isFlag v) (.kind (.ofJson v) "a boolean")
  | .text => orNull v (expecting (isText v) (.kind (.ofJson v) "a string"))
  | .count => orNull v (countMismatch? v)
  | .number => orNull v (expecting (isNumber v) (.kind (.ofJson v) "f64"))
  | .schemas => orNull v (expecting (v.kind == .array) (.kind (.ofJson v) "a sequence"))
  | .properties => orNull v (expecting (v.kind == .object) (.kind (.ofJson v) "a map"))
  | .types => orNull v (expecting (isText v || isTexts v) (.noVariant "TypeToken"))
  | .required => orNull v (expecting (isTexts v || isFlag v) (.noVariant "Required"))
  | .exclusive => orNull v (expecting (isFlag v || isNumber v) (.noVariant "RawExclusive"))

end KeywordForm

def keywordForms : List (String × KeywordForm) :=
  [("$ref", .text), ("enum", .schemas), ("const", .any), ("oneOf", .schemas),
    ("anyOf", .schemas), ("allOf", .schemas), ("not", .any), ("type", .types),
    ("format", .text), ("nullable", .flag), ("items", .any), ("minItems", .count),
    ("maxItems", .count), ("uniqueItems", .flag), ("properties", .properties),
    ("required", .required), ("minProperties", .count), ("maxProperties", .count),
    ("additionalProperties", .any), ("minLength", .count), ("maxLength", .count),
    ("pattern", .text), ("minimum", .number), ("maximum", .number),
    ("exclusiveMinimum", .exclusive), ("exclusiveMaximum", .exclusive),
    ("multipleOf", .number)]

def keywordForm? (name : String) : Option KeywordForm := keywordForms.lookup name

/-- The first keyword whose value has the wrong form. -/
def keywordMismatch? : Members → Option (String × Mismatch)
  | [] => none
  | (name, value) :: rest =>
    match (keywordForm? name).bind (·.mismatch? value) with
    | some mismatch => some (name, mismatch)
    | none => keywordMismatch? rest

/-- The keywords of a schema object whose values have the right forms. -/
structure Keywords where
  members : Members

namespace Keywords

/-- The value of a keyword, null standing for absence. -/
def value? (k : Keywords) (name : String) : Option Json :=
  match Json.member? k.members name with
  | some .null => none
  | found => found

def text? (k : Keywords) (name : String) : Option String :=
  match k.value? name with
  | some (.string value) => some value
  | _ => none

def count? (k : Keywords) (name : String) : Option Nat :=
  match k.value? name with
  | some (.number (.int value)) => some value.toNat
  | _ => none

def number? (k : Keywords) (name : String) : Option Binary64 :=
  match k.value? name with
  | some (.number value) => some value.toBinary64
  | _ => none

def flag (k : Keywords) (name : String) : Bool :=
  match k.value? name with
  | some (.bool value) => value
  | _ => false

def exclusive? (k : Keywords) (name : String) : Option Exclusive :=
  match k.value? name with
  | some (.bool value) => some (.flag value)
  | some (.number value) => some (.bound value.toBinary64)
  | _ => none

def texts (items : List Json) : List String :=
  items.filterMap fun
    | .string value => some value
    | _ => none

def countRange (k : Keywords) (min max : String) : CountRange := ⟨k.count? min, k.count? max⟩

/-- The refinements that apply to a kind. -/
def constraints (k : Keywords) : ScalarKind → Constraints
  | .string =>
    { minLength := k.count? "minLength"
      maxLength := k.count? "maxLength"
      pattern := k.text? "pattern" }
  | .number | .integer =>
    { minimum := k.number? "minimum"
      maximum := k.number? "maximum"
      exclusiveMinimum := k.exclusive? "exclusiveMinimum"
      exclusiveMaximum := k.exclusive? "exclusiveMaximum"
      multipleOf := k.number? "multipleOf" }
  | .boolean | .null => {}

/-- Keywords that decide what a schema is, the first one present taking precedence. -/
def combining : List String := ["$ref", "enum", "const", "oneOf", "anyOf", "allOf", "not"]

def structural : List String := combining ++ ["items", "properties", "type"]

/-- A constant may be null. -/
def has (k : Keywords) (name : String) : Bool :=
  if name == "const" then Json.hasMember k.members name else (k.value? name).isSome

/-- The keyword that takes precedence over others, with those that it shadows. A type beside an
enumeration or a constant is no conflict. -/
def shadowed? (k : Keywords) : Option (String × List String) :=
  match structural.filter k.has with
  | [] => none
  | kept :: others =>
    let ignored := others.filter fun name =>
      !(name == "type" && (kept == "enum" || kept == "const"))
    if combining.contains kept && !ignored.isEmpty then some (kept, ignored) else none

end Keywords
end DataSchema
