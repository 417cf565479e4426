import DataSchema.Schema.Node

/-!
Equality of nodes: numbers by value, so that a NaN equals nothing; properties and required names
without order.
-/
namespace DataSchema

def sameOption {α : Type} (same : α → α → Bool) : Option α → Option α → Bool
  | none, none => true
  | some a, some b => same a b
  | _, _ => false

def Exclusive.same : Exclusive → Exclusive → Bool
  | .flag a, .flag b => a == b
  | .bound a, .bound b => a.eq b
  | _, _ => false

def Constraints.same (a b : Constraints) : Bool :=
  a.minLength == b.minLength && a.maxLength == b.maxLength && a.pattern == b.pattern
    && sameOption Binary64.eq a.minimum b.minimum
    && sameOption Binary64.eq a.maximum b.maximum
    && sameOption Exclusive.same a.exclusiveMinimum b.exclusiveMinimum
    && sameOption Exclusive.same a.exclusiveMaximum b.exclusiveMaximum
    && sameOption Binary64.eq a.multipleOf b.multipleOf

/-- Equality of lists without repetition, in any order. -/
def sameNames (a b : List String) : Bool := a.length == b.length && a.all b.contains

namespace Node

mutual

def same : Node → Node → Bool
  | .scalar kind format constraints, .scalar kind' format' constraints' =>
    kind == kind' && format == format' && constraints.same constraints'
  | .enum values, .enum values' => Json.sameItems values values'
  | .array items count unique, .array items' count' unique' =>
    items.same items' && count == count' && unique == unique'
  | .object properties required count additional,
      .object properties' required' count' additional' =>
    properties.length == properties'.length && sameProperties properties properties'
      && sameNames required required' && count == count' && sameAdditional additional additional'
  | .union mode branches, .union mode' branches' => mode == mode' && sameBranches branches branches'
  | .intersection branches, .intersection branches' => sameBranches branches branches'
  | .negation inner, .negation inner' => inner.same inner'
  | .reference name, .reference name' => name == name'
  | .unknown token raw, .unknown token' raw' => token == token' && raw.same raw'
  | _, _ => false

def sameBranches : List Node → List Node → Bool
  | [], [] => true
  | a :: as, b :: bs => a.same b && sameBranches as bs
  | _, _ => false

/-- The properties of the first list are among those of the second. -/
def sameProperties : List (String × Node) → List (String × Node) → Bool
  | [], _ => true
  | (name, a) :: rest, others =>
    match others.lookup name with
    | some b => a.same b && sameProperties rest others
    | none => false

def sameAdditional : Additional Node → Additional Node → Bool
  | .allow, .allow => true
  | .deny, .deny => true
  | .schema a, .schema b => a.same b
  | _, _ => false

end

end Node
end DataSchema
