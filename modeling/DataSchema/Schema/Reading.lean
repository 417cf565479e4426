import DataSchema.Schema.Keyword
import DataSchema.Schema.Reference

/-!
Nodes from source schemas. A schema object is read by its keywords; the first of the combining
keywords decides, else the type does.
-/
namespace DataSchema

/-- Where a source schema stands: the segments to the entries of its document, the entry, and the
segments from there. -/
structure Locus where
  root : List String
  entry : String
  pointer : List String := []

namespace Locus

def within (here : Locus) (segment : String) : Locus :=
  { here with pointer := here.pointer ++ [segment] }

def refuse {α : Type} (here : Locus) (cause : Cause) : Except LoadError α :=
  .error (.schema ⟨some here.entry, here.pointer, cause⟩)

/-- A node without findings, or the refusal of the schema. -/
def settle (here : Locus) : Except Cause Node → Except LoadError (Node × List Finding)
  | .ok node => .ok (node, [])
  | .error cause => here.refuse cause

def keywordPath (here : Locus) (keyword : String) : List String :=
  here.root ++ here.entry :: here.pointer ++ [keyword]

def finding (here : Locus) (kind : FindingKind) : Finding := ⟨here.entry, here.pointer, kind⟩

end Locus

/-- What the name of a type stands for. -/
inductive TypeName where
  | scalar (kind : ScalarKind) (format : Option Format)
  | array
  | object
  | other

def TypeName.ofToken : String → TypeName
  | "string" => .scalar .string none
  | "date" => .scalar .string (some .date)
  | "date-time" => .scalar .string (some .dateTime)
  | "number" | "float" | "double" | "decimal" => .scalar .number none
  | "integer" => .scalar .integer none
  | "boolean" => .scalar .boolean none
  | "null" => .scalar .null none
  | "array" => .array
  | "object" => .object
  | _ => .other

namespace Keywords

/-- The types of a schema. Without a type, items or properties tell it. -/
def types? (k : Keywords) : Option (List String) :=
  match k.value? "type" with
  | some (.string token) => some [token]
  | some (.array items) => some (texts items).eraseDups
  | _ =>
    if (k.value? "items").isSome then some ["array"]
    else if (k.value? "properties").isSome || (k.value? "additionalProperties").isSome then
      some ["object"]
    else none

/-- Declared members. -/
def properties (k : Keywords) : Members :=
  match k.value? "properties" with
  | some (.object members) => members
  | _ => []

/-- A declared member may ask for itself to be required. -/
def asksForItself : Json → Bool
  | .object members =>
    match Json.member? members "required" with
    | some (.bool true) => true
    | _ => false
  | _ => false

def required (k : Keywords) : List String :=
  let listed :=
    match k.value? "required" with
    | some (.array names) => texts names
    | _ => []
  let asking := k.properties.filter fun member => asksForItself member.2
  (listed ++ asking.map (·.1)).eraseDups

end Keywords

def Node.isNull : Node → Bool
  | .scalar .null _ _ => true
  | _ => false

/-- Lets null pass as well. -/
def Node.orNull (node : Node) : Node :=
  if node.isNull then node else .union .anyOf [node, .plain .null]

/-- Adds findings that come before those of a result. -/
def noting {α : Type} (findings : List Finding) :
    Except LoadError (α × List Finding) → Except LoadError (α × List Finding)
  | .ok (value, more) => .ok (value, findings ++ more)
  | .error e => .error e

theorem sizeOf_member?_lt {members : Members} {name : String} {v : Json}
    (h : Json.member? members name = some v) : sizeOf v < sizeOf members := by
  induction members with
  | nil => simp [Json.member?] at h
  | cons first rest ih =>
    obtain ⟨key, value⟩ := first
    simp only [Json.member?] at h
    split at h
    · cases h
      simp
      omega
    · have := ih h
      simp
      omega

theorem Keywords.member?_of_value? {k : Keywords} {name : String} {v : Json}
    (h : k.value? name = some v) : Json.member? k.members name = some v := by
  unfold Keywords.value? at h
  split at h
  · cases h
  · exact h

theorem Keywords.sizeOf_value?_lt {k : Keywords} {name : String} {v : Json}
    (h : k.value? name = some v) : sizeOf v < sizeOf k.members :=
  sizeOf_member?_lt (Keywords.member?_of_value? h)

theorem Keywords.sizeOf_items_lt {k : Keywords} {name : String} {items : List Json}
    (h : k.value? name = some (.array items)) : sizeOf items < sizeOf k.members := by
  have := Keywords.sizeOf_value?_lt h
  simp at this
  omega

theorem Keywords.sizeOf_entries_lt {k : Keywords} {name : String} {entries : Members}
    (h : k.value? name = some (.object entries)) : sizeOf entries < sizeOf k.members := by
  have := Keywords.sizeOf_value?_lt h
  simp at this
  omega

theorem Keywords.sizeOf_properties_le (k : Keywords) :
    sizeOf k.properties ≤ sizeOf k.members := by
  unfold Keywords.properties
  split
  · next h => exact Nat.le_of_lt (Keywords.sizeOf_entries_lt h)
  · cases k.members with
    | nil => exact Nat.le_refl _
    | cons member rest =>
      simp only [List.nil.sizeOf_spec, List.cons.sizeOf_spec]
      omega

namespace Node

mutual

/-- The node of a schema with the findings made on the way, first found first. -/
def ofJson (here : Locus) (v : Json) : Except LoadError (Node × List Finding) :=
  match v with
  | .bool true => .ok (.any, [])
  | .bool false => .ok (.negation .any, [])
  | .object members =>
    match keywordMismatch? members with
    | some (keyword, mismatch) => .error (.keyword (here.keywordPath keyword) mismatch)
    | none =>
      let k : Keywords := ⟨members⟩
      let shadowing := k.shadowed?.toList.map fun (kept, ignored) =>
        here.finding (.shadowedKeywords kept ignored)
      (noting shadowing (ofKeywords here k)).map fun (node, findings) =>
        (if k.flag "nullable" then node.orNull else node, findings)
  | other => here.refuse (.notAnObject other.kind)
termination_by (4 * sizeOf v, 0)

/-- The node that the keywords of a schema describe. -/
def ofKeywords (here : Locus) (k : Keywords) : Except LoadError (Node × List Finding) :=
  match k.text? "$ref" with
  | some target =>
    match Reference.name? target with
    | some name => .ok (.reference name, [])
    | none => here.refuse (.invalidReference target)
  | none =>
    match k.value? "enum", Json.member? k.members "const" with
    | some (.array values), _ => here.settle (Node.enumOf values)
    | _, some value => here.settle (Node.enumOf [value])
    | _, none =>
      match _hOne : k.value? "oneOf", _hAny : k.value? "anyOf", _hAll : k.value? "allOf",
          _hNot : k.value? "not" with
      | some (.array branches), _, _, _ => do
        let (nodes, findings) ← ofBranches (here.within "oneOf") 0 branches
        noting findings (here.settle (Node.unionOf .oneOf nodes))
      | _, some (.array branches), _, _ => do
        let (nodes, findings) ← ofBranches (here.within "anyOf") 0 branches
        noting findings (here.settle (Node.unionOf .anyOf nodes))
      | _, _, some (.array branches), _ => do
        let (nodes, findings) ← ofBranches (here.within "allOf") 0 branches
        noting findings (here.settle (Node.intersectionOf nodes))
      | _, _, _, some inner =>
        (ofJson (here.within "not") inner).map fun (node, findings) => (.negation node, findings)
      | _, _, _, none =>
        match k.types? with
        | none => .ok (.unknown none (.object k.members), [])
        | some tokens => do
          let (nodes, findings) ← ofTypes here k tokens
          match nodes with
          | [] => .ok (.any, findings)
          | [node] => .ok (node, findings)
          | _ => noting findings (here.settle (Node.unionOf .anyOf nodes))
termination_by (4 * sizeOf k.members + 3, 0)
decreasing_by
  · have := Keywords.sizeOf_items_lt _hOne
    exact Prod.Lex.left _ _ (by omega)
  · have := Keywords.sizeOf_items_lt _hAny
    exact Prod.Lex.left _ _ (by omega)
  · have := Keywords.sizeOf_items_lt _hAll
    exact Prod.Lex.left _ _ (by omega)
  · have := Keywords.sizeOf_value?_lt _hNot
    exact Prod.Lex.left _ _ (by omega)
  · exact Prod.Lex.left _ _ (by omega)

/-- The nodes of a schema under each of several types. -/
def ofTypes (here : Locus) (k : Keywords) (tokens : List String) :
    Except LoadError (List Node × List Finding) :=
  match tokens with
  | [] => .ok ([], [])
  | token :: rest => do
    let (node, findings) ← ofType here k token
    noting findings ((ofTypes here k rest).map fun (nodes, more) => (node :: nodes, more))
termination_by (4 * sizeOf k.members + 2, tokens.length)

def ofType (here : Locus) (k : Keywords) (token : String) :
    Except LoadError (Node × List Finding) :=
  match TypeName.ofToken token with
  | .scalar kind format =>
    let format := format <|> (k.text? "format").map Format.ofToken
    .ok (.scalar kind format (k.constraints kind), [])
  | .array =>
    match _h : k.value? "items" with
    | none => here.refuse .missingItems
    | some items =>
      (ofJson (here.within "items") items).map fun (node, findings) =>
        (.array node (k.countRange "minItems" "maxItems") (k.flag "uniqueItems"), findings)
  | .object => do
    let (properties, findings) ← ofProperties (here.within "properties") k.properties
    let (additional, more) ← additionalOf here k
    noting (findings ++ more)
      (here.settle
        (Node.objectOf properties k.required (k.countRange "minProperties" "maxProperties")
          additional))
  | .other => .ok (.unknown (some token) (.object k.members), [])
termination_by (4 * sizeOf k.members + 1, 0)
decreasing_by
  · have := Keywords.sizeOf_value?_lt _h
    exact Prod.Lex.left _ _ (by omega)
  · have := Keywords.sizeOf_properties_le k
    exact Prod.Lex.left _ _ (by omega)
  · exact Prod.Lex.left _ _ (by omega)

def additionalOf (here : Locus) (k : Keywords) :
    Except LoadError (Additional Node × List Finding) :=
  match _h : k.value? "additionalProperties" with
  | none => .ok (.allow, [])
  | some (.bool true) => .ok (.allow, [])
  | some (.bool false) => .ok (.deny, [])
  | some schema =>
    (ofJson (here.within "additionalProperties") schema).map fun (node, findings) =>
      (.schema node, findings)
termination_by (4 * sizeOf k.members, 0)
decreasing_by
  have := Keywords.sizeOf_value?_lt _h
  exact Prod.Lex.left _ _ (by omega)

/-- The nodes of listed schemas, the first of them at an index. -/
def ofBranches (here : Locus) (index : Nat) (branches : List Json) :
    Except LoadError (List Node × List Finding) :=
  match branches with
  | [] => .ok ([], [])
  | branch :: rest => do
    let (node, findings) ← ofJson (here.within (toString index)) branch
    noting findings
      ((ofBranches here (index + 1) rest).map fun (nodes, more) => (node :: nodes, more))
termination_by (4 * sizeOf branches, 0)

/-- The nodes of declared members. -/
def ofProperties (here : Locus) (properties : Members) :
    Except LoadError (List (String × Node) × List Finding) :=
  match properties with
  | [] => .ok ([], [])
  | (name, schema) :: rest => do
    let (node, findings) ← ofJson (here.within name) schema
    noting findings
      ((ofProperties here rest).map fun (nodes, more) => ((name, node) :: nodes, more))
termination_by (4 * sizeOf properties, 0)

end

end Node

end DataSchema
