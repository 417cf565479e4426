import DataSchema.Json.Text
import DataSchema.Schema.Node

/-!
Shapes: what a program that handles the values has to know of a schema. They keep names, kinds
and required marks, and leave the refinements out.
-/
namespace DataSchema

inductive Shape where
  | any
  | null
  | bool
  | integer (format : Option String)
  | number (format : Option String)
  | string (format : Option String)
  | enum (values : List Json)
  | list (item : Shape)
  /-- Fields by name with their shapes and whether they are required. `additional` is the shape of
  other members, if there may be any. -/
  | object (fields : List (String × Shape × Bool)) (additional : Option Shape)
  | named (name : String)
  | nullable (inner : Shape)
  | oneOf (variants : List Shape)
  | anyOf (variants : List Shape)
  | allOf (parts : List Shape)
deriving Repr

namespace Shape

def isNull : Shape → Bool
  | .null => true
  | _ => false

def ofScalar (format : Option String) : ScalarKind → Shape
  | .string => .string format
  | .number => .number format
  | .integer => .integer format
  | .boolean => .bool
  | .null => .null

def ofMode : UnionMode → List Shape → Shape
  | .anyOf, variants => .anyOf variants
  | .oneOf, variants => .oneOf variants

/-- Null and one other variant make a nullable shape. -/
def ofVariants (mode : UnionMode) : List Shape → Shape
  | [a, b] =>
    if a.isNull && !b.isNull then .nullable b
    else if b.isNull && !a.isNull then .nullable a
    else ofMode mode [a, b]
  | variants => ofMode mode variants

mutual

def ofNode : Node → Shape
  | .scalar kind format _ => ofScalar (format.map Format.token) kind
  | .enum values => .enum values
  | .array items _ _ => .list (ofNode items)
  | .object properties required count additional =>
    .object (fieldsOf required properties) (additionalOf count additional)
  | .union mode branches => ofVariants mode (ofNodes branches)
  | .intersection branches => .allOf (ofNodes branches)
  | .reference name => .named name
  | .negation _ => .any
  | .unknown _ _ => .any

def ofNodes : List Node → List Shape
  | [] => []
  | node :: rest => ofNode node :: ofNodes rest

def fieldsOf (required : List String) : List (String × Node) → List (String × Shape × Bool)
  | [] => []
  | (name, node) :: rest =>
    (name, ofNode node, required.contains name) :: fieldsOf required rest

/-- A greatest count closes an object that would allow other members. -/
def additionalOf (count : CountRange) : Additional Node → Option Shape
  | .deny => none
  | .allow => if count.max.isSome then none else some .any
  | .schema node => some (ofNode node)

end

/-- Names of the fields, those that are not required with a question mark. -/
def fieldNames : Shape → List String
  | .object fields _ => fields.map fun (name, _, required) => if required then name else name ++ "?"
  | _ => []

def tagged (kind : String) (members : Members) : Json := .object (("kind", .string kind) :: members)

mutual

def toJson : Shape → Json
  | .any => tagged "any" []
  | .null => tagged "null" []
  | .bool => tagged "bool" []
  | .integer format => tagged "integer" [("format", .string? format)]
  | .number format => tagged "number" [("format", .string? format)]
  | .string format => tagged "string" [("format", .string? format)]
  | .enum values => tagged "enum" [("values", .array values)]
  | .list item => tagged "list" [("item", item.toJson)]
  | .object fields additional =>
    tagged "object"
      [("fields", .array (fieldsToJson fields)), ("additional", optionToJson additional)]
  | .named name => tagged "named" [("name", .string name)]
  | .nullable inner => tagged "nullable" [("inner", inner.toJson)]
  | .oneOf variants => tagged "one_of" [("variants", .array (allToJson variants))]
  | .anyOf variants => tagged "any_of" [("variants", .array (allToJson variants))]
  | .allOf parts => tagged "all_of" [("parts", .array (allToJson parts))]

def allToJson : List Shape → List Json
  | [] => []
  | shape :: rest => shape.toJson :: allToJson rest

def fieldsToJson : List (String × Shape × Bool) → List Json
  | [] => []
  | (name, shape, required) :: rest =>
    .object [("name", .string name), ("ty", shape.toJson), ("required", .bool required)]
      :: fieldsToJson rest

def optionToJson : Option Shape → Json
  | none => .null
  | some shape => shape.toJson

end

end Shape
end DataSchema
