import DataSchema.Json.Reader
import DataSchema.Schema.Reading

/-!
Documents: named schemas in their order. A source document keeps its schemas under `components`,
under `$defs` and `definitions`, or is itself a map of schemas.
-/
namespace DataSchema

structure Document where
  entries : List (String × Node)
  findings : List Finding := []
deriving Repr

namespace Document

def names (d : Document) : List String := d.entries.map (·.1)

def node? (d : Document) (name : String) : Option Node := d.entries.lookup name

def notAnObject {α : Type} (v : Json) : Except LoadError α :=
  .error (.schema ⟨none, [], .notAnObject v.kind⟩)

/-- The members of an object; an absent one has none. -/
def membersOf : Option Json → Except LoadError Members
  | none => .ok []
  | some (.object members) => .ok members
  | some other => notAnObject other

def addAbsent (schemas : Members) (more : Members) : Members :=
  more.foldl (fun all (name, schema) =>
    if Json.hasMember all name then all else Json.put all name schema) schemas

/-- The source schemas of a document with the segments that lead to them. -/
def sources (root : Members) : Except LoadError (List String × Members) :=
  let has := Json.hasMember root
  if has "openapi" || has "components" then do
    let components ← membersOf (Json.member? root "components")
    let schemas ← membersOf (Json.member? components "schemas")
    .ok (["components", "schemas"], schemas)
  else if has "$defs" || has "definitions" || has "$schema" then do
    let schemas ← membersOf (Json.member? root "$defs")
    let more ← membersOf (Json.member? root "definitions")
    .ok (["$defs"], addAbsent schemas more)
  else .ok ([], root)

def entriesOf (root : List String) :
    Members → Except LoadError (List (String × Node) × List Finding)
  | [] => .ok ([], [])
  | (name, schema) :: rest => do
    let (node, findings) ← Node.ofJson ⟨root, name, []⟩ schema
    noting findings
      ((entriesOf root rest).map fun (entries, more) => ((name, node) :: entries, more))

def ofJson : Json → Except LoadError Document
  | .object root => do
    let (path, schemas) ← sources root
    let (entries, findings) ← entriesOf path schemas
    .ok ⟨entries, findings⟩
  | other => notAnObject other

def ofText (source : String) : Except LoadError Document := do
  let value ← (Json.Reader.atStart Json.Reader.value source).mapError LoadError.text
  ofJson value

end Document
end DataSchema
