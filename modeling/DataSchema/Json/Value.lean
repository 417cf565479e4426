import DataSchema.Number.Binary64

/-!
JSON values. Object members keep their order; a reader leaves one member for each name.
-/
namespace DataSchema

/-- A token without fraction and exponent that fits 64 bits is an integer. -/
inductive Number where
  | int (value : Int)
  | float (value : Binary64)
deriving DecidableEq, Repr

namespace Number

def toBinary64 : Number → Binary64
  | .int value => Binary64.ofInt value
  | .float value => value

/-- Numbers without a fractional part, in either representation. -/
def isIntegral : Number → Bool
  | .int _ => true
  | .float value => value.isIntegral

/-- Equality within one representation: an integer equals no float. -/
def same : Number → Number → Bool
  | .int a, .int b => a == b
  | .float a, .float b => a.eq b
  | _, _ => false

end Number

inductive Json where
  | null
  | bool (value : Bool)
  | number (value : Number)
  | string (value : String)
  | array (items : List Json)
  | object (members : List (String × Json))
deriving Repr, Inhabited

/-- Kinds of values, integers and floats being one kind. -/
inductive Kind where
  | null | boolean | number | string | array | object
deriving DecidableEq, Repr

def Kind.name : Kind → String
  | .null => "null"
  | .boolean => "boolean"
  | .number => "number"
  | .string => "string"
  | .array => "array"
  | .object => "object"

abbrev Members := List (String × Json)

namespace Json

def kind : Json → Kind
  | .null => .null
  | .bool _ => .boolean
  | .number _ => .number
  | .string _ => .string
  | .array _ => .array
  | .object _ => .object

def nat (n : Nat) : Json := .number (.int n)
def int (i : Int) : Json := .number (.int i)

/-- A number that is not finite has no JSON form but null. -/
def float (x : Binary64) : Json := if x.isFinite then .number (.float x) else .null

/-- A string, or null in its absence. -/
def string? (s : Option String) : Json := (s.map Json.string).getD .null

def member? : Members → String → Option Json
  | [], _ => none
  | (key, value) :: rest, name => if key == name then some value else member? rest name

def hasMember (members : Members) (name : String) : Bool := (member? members name).isSome

/-- Sets a member: a known name keeps its place, a new one goes to the end. -/
def put : Members → String → Json → Members
  | [], name, value => [(name, value)]
  | (key, old) :: rest, name, value =>
    if key == name then (key, value) :: rest else (key, old) :: put rest name value

mutual

/-- Equality of representations: integer 1 is not float 1.0, member order does not count. -/
def same : Json → Json → Bool
  | .null, .null => true
  | .bool a, .bool b => a == b
  | .number a, .number b => a.same b
  | .string a, .string b => a == b
  | .array a, .array b => sameItems a b
  | .object a, .object b => a.length == b.length && sameMembers a b
  | _, _ => false

def sameItems : List Json → List Json → Bool
  | [], [] => true
  | a :: as, b :: bs => same a b && sameItems as bs
  | _, _ => false

def sameMembers : Members → Members → Bool
  | [], _ => true
  | (key, a) :: rest, others =>
    match member? others key with
    | some b => same a b && sameMembers rest others
    | none => false

end

end Json
end DataSchema
