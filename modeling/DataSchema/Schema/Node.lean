import DataSchema.Json.Key

/-!
Schemas as trees of nodes. Enumerations, combinations and objects have rules of their own and are
made by the functions at the end, which refuse what breaks a rule.
-/
namespace DataSchema

/-- Kinds that are written as a type with refinements. -/
inductive ScalarKind where
  | string | number | integer | boolean | null
deriving DecidableEq, Repr

def ScalarKind.name : ScalarKind → String
  | .string => "string"
  | .number => "number"
  | .integer => "integer"
  | .boolean => "boolean"
  | .null => "null"

inductive Format where
  | uuid | email | uri | dateTime | date | int32 | int64
  | other (token : String)
deriving DecidableEq, Repr

namespace Format

def ofToken : String → Format
  | "uuid" => .uuid
  | "email" => .email
  | "uri" => .uri
  | "url" => .uri
  | "date-time" => .dateTime
  | "date" => .date
  | "int32" => .int32
  | "int64" => .int64
  | token => .other token

def token : Format → String
  | .uuid => "uuid"
  | .email => "email"
  | .uri => "uri"
  | .dateTime => "date-time"
  | .date => "date"
  | .int32 => "int32"
  | .int64 => "int64"
  | .other token => token

end Format

/-- An exclusive bound: a mark on the inclusive bound, or a bound of its own. -/
inductive Exclusive where
  | flag (on : Bool)
  | bound (value : Binary64)
deriving DecidableEq, Repr

/-- Refinements of strings and numbers. -/
structure Constraints where
  minLength : Option Nat := none
  maxLength : Option Nat := none
  pattern : Option String := none
  minimum : Option Binary64 := none
  maximum : Option Binary64 := none
  exclusiveMinimum : Option Exclusive := none
  exclusiveMaximum : Option Exclusive := none
  multipleOf : Option Binary64 := none
deriving DecidableEq, Repr

inductive UnionMode where
  | anyOf | oneOf
deriving DecidableEq, Repr

def UnionMode.keyword : UnionMode → String
  | .anyOf => "anyOf"
  | .oneOf => "oneOf"

/-- What a schema says of members that it does not declare. -/
inductive Additional (α : Type) where
  | allow
  | deny
  | schema (node : α)
deriving Repr

/-- Least and greatest count of items or members. -/
structure CountRange where
  min : Option Nat := none
  max : Option Nat := none
deriving DecidableEq, Repr

inductive Node where
  | scalar (kind : ScalarKind) (format : Option Format) (constraints : Constraints)
  | enum (values : List Json)
  | array (items : Node) (count : CountRange) (unique : Bool)
  | object (properties : List (String × Node)) (required : List String) (count : CountRange)
      (additional : Additional Node)
  | union (mode : UnionMode) (branches : List Node)
  | intersection (branches : List Node)
  | negation (inner : Node)
  | reference (name : String)
  /-- Accepts any value. `token` is the type that was not understood, if there is one. -/
  | unknown (token : Option String) (raw : Json)
deriving Repr

/-- Why a schema is refused. -/
inductive Cause where
  | emptyEnum
  | duplicateEnumValue (value : Json)
  | tooFewBranches (combinator : String) (found : Nat)
  | missingItems
  | unknownRequiredProperty (property : String)
  | unresolvedReference (name : String)
  | invalidReference (reference : String)
  | unguardedCycle (cycle : List String)
  | notAnObject (found : Kind)
deriving Repr

namespace Node

def any : Node := .unknown none (.object [])
def plain (kind : ScalarKind) : Node := .scalar kind none {}

/-- An enumeration lists a value, and none twice. -/
def enumOf (values : List Json) : Except Cause Node :=
  if values.isEmpty then .error .emptyEnum
  else
    match Json.repeated? [] values with
    | some value => .error (.duplicateEnumValue value)
    | none => .ok (.enum values)

def branchesOf (combinator : String) (branches : List Node) : Except Cause (List Node) :=
  if branches.length < 2 then .error (.tooFewBranches combinator branches.length)
  else .ok branches

def unionOf (mode : UnionMode) (branches : List Node) : Except Cause Node :=
  (branchesOf mode.keyword branches).map (.union mode)

def intersectionOf (branches : List Node) : Except Cause Node :=
  (branchesOf "allOf" branches).map .intersection

/-- Every required member is declared. -/
def objectOf (properties : List (String × Node)) (required : List String) (count : CountRange)
    (additional : Additional Node) : Except Cause Node :=
  match required.find? fun name => !properties.any (·.1 == name) with
  | some name => .error (.unknownRequiredProperty name)
  | none => .ok (.object properties required count additional)

end Node
end DataSchema
