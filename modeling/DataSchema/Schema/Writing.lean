import DataSchema.Schema.Document

/-!
Schemas in their canonical spelling: references under `components`, null beside another schema as
a union, closed objects by `additionalProperties`.
-/
namespace DataSchema

/-- A member that is written when it is present. -/
def whenPresent {α : Type} (name : String) (value : Option α) (form : α → Json) : Members :=
  value.toList.map fun v => (name, form v)

def whenTrue (name : String) (value : Bool) : Members :=
  if value then [(name, .bool true)] else []

def Exclusive.toJson : Exclusive → Json
  | .flag on => .bool on
  | .bound value => .float value

def Constraints.members (c : Constraints) : Members :=
  whenPresent "minLength" c.minLength .nat
    ++ whenPresent "maxLength" c.maxLength .nat
    ++ whenPresent "pattern" c.pattern .string
    ++ whenPresent "minimum" c.minimum .float
    ++ whenPresent "maximum" c.maximum .float
    ++ whenPresent "exclusiveMinimum" c.exclusiveMinimum Exclusive.toJson
    ++ whenPresent "exclusiveMaximum" c.exclusiveMaximum Exclusive.toJson
    ++ whenPresent "multipleOf" c.multipleOf .float

def CountRange.members (c : CountRange) (min max : String) : Members :=
  whenPresent min c.min .nat ++ whenPresent max c.max .nat

namespace Node

mutual

/-- The canonical source of a node. -/
def toJson : Node → Json
  | .scalar kind format constraints =>
    .object (("type", .string kind.name)
      :: whenPresent "format" format (fun f => .string f.token) ++ constraints.members)
  | .enum values => .object [("enum", .array values)]
  | .array items count unique =>
    .object ([("type", .string "array"), ("items", items.toJson)]
      ++ count.members "minItems" "maxItems" ++ whenTrue "uniqueItems" unique)
  | .object properties required count additional =>
    .object ([("type", .string "object"), ("properties", .object (membersToJson properties))]
      ++ (if required.isEmpty then [] else [("required", .array (required.map .string))])
      ++ count.members "minProperties" "maxProperties"
      ++ additionalToJson additional)
  | .union mode branches => .object [(mode.keyword, .array (allToJson branches))]
  | .intersection branches => .object [("allOf", .array (allToJson branches))]
  | .negation inner => .object [("not", inner.toJson)]
  | .reference name => .object [("$ref", .string (Reference.text name))]
  | .unknown _ raw => raw

def allToJson : List Node → List Json
  | [] => []
  | node :: rest => node.toJson :: allToJson rest

def membersToJson : List (String × Node) → Members
  | [] => []
  | (name, node) :: rest => (name, node.toJson) :: membersToJson rest

def additionalToJson : Additional Node → Members
  | .allow => []
  | .deny => [("additionalProperties", .bool false)]
  | .schema node => [("additionalProperties", node.toJson)]

end

end Node

def Document.toJson (d : Document) : Json :=
  .object [("components", .object [("schemas", .object (Node.membersToJson d.entries))])]

end DataSchema
