import DataSchema.Check.Rules

/-!
Checks: compiled schemas. A reference is the slot of an entry, and is followed only while a value
is checked.
-/
namespace DataSchema

/-- What becomes of members that are not declared. -/
inductive Extra (α : Type) where
  | allow
  | reject
  | check (check : α)
deriving Repr

inductive Check where
  | any
  | string (rules : List StringRule)
  | number (integer : Bool) (rules : List NumberRule)
  | boolean
  | null
  | enum (values : List Json)
  | array (items : Check) (rules : List ArrayRule)
  | object (properties : List (String × Check)) (required : List String) (extra : Extra Check)
      (rules : List ObjectRule)
  | union (mode : UnionMode) (branches : List Check)
  | intersection (branches : List Check)
  | negation (inner : Check)
  | ref (slot : Nat)
deriving Repr, Inhabited

end DataSchema
