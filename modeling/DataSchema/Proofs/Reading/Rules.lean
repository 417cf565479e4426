import DataSchema.Proofs.DeepEqual.Repeats
import DataSchema.Proofs.Parts
import DataSchema.Proofs.Places
import DataSchema.Proofs.RoundTrip

/-!
Rules that every node of a document keeps which was read from a source. They hold at any depth,
whichever way a node was come by: by its own keywords, by one of several types, or beside null.
-/
namespace DataSchema

/-! ## Rules -/

/-- Only refinements of the kind are there. -/
def Constraints.Belong (c : Constraints) : ScalarKind → Prop
  | .string => c = { minLength := c.minLength, maxLength := c.maxLength, pattern := c.pattern }
  | .number | .integer =>
    c = { minimum := c.minimum, maximum := c.maximum, exclusiveMinimum := c.exclusiveMinimum,
          exclusiveMaximum := c.exclusiveMaximum, multipleOf := c.multipleOf }
  | .boolean | .null => c = {}

/-- What a node has to keep by itself, whatever its parts are. -/
def Node.Proper : Node → Prop
  | .scalar kind _ constraints => constraints.Belong kind
  | .enum values => values ≠ [] ∧ values.Pairwise fun v w => v.deepEqual w = false
  | .object properties required _ _ =>
    (properties.map Prod.fst).Nodup ∧ required.Nodup ∧ required ⊆ properties.map Prod.fst
  | .union _ branches => 2 ≤ branches.length
  | .intersection branches => 2 ≤ branches.length
  | .reference name => name ≠ ""
  | .array _ _ _ => True
  | .negation _ => True
  | .unknown _ _ => True

theorem Keywords.belong_constraints (k : Keywords) (kind : ScalarKind) :
    (k.constraints kind).Belong kind := by
  cases kind <;> rfl

/-- An enumeration that is made lists something, and no two values that are deep-equal. -/
theorem Node.proper_of_enumOf {values : List Json} {node : Node} (made : enumOf values = .ok node) :
    node.Proper := by
  unfold enumOf at made
  split at made
  · cases made
  · next some =>
    split at made
    · cases made
    · next none =>
      cases made
      exact ⟨by simpa using some, Json.repeated?_eq_none_iff.mp none⟩

/-! ## Nodes at every depth -/

/-- The nodes right below a node. -/
def Node.children : Node → List Node
  | .array items _ _ => [items]
  | .object properties _ _ (.schema node) => properties.map Prod.snd ++ [node]
  | .object properties _ _ _ => properties.map Prod.snd
  | .union _ branches => branches
  | .intersection branches => branches
  | .negation inner => [inner]
  | _ => []

/-- A part of a node is the node or stands in one right below it. -/
theorem Node.Within.eq_or_child {part node : Node} (within : part.Within node) :
    part = node ∨ ∃ child ∈ node.children, part.Within child := by
  cases within with
  | self => exact .inl rfl
  | array inside => exact .inr ⟨_, List.mem_singleton_self _, inside⟩
  | @property _ _ _ additional _ member inside =>
    refine .inr ⟨_, ?_, inside⟩
    have named := List.mem_map_of_mem (f := Prod.snd) member
    cases additional with
    | schema node => exact List.mem_append_left _ named
    | _ => exact named
  | additional inside => exact .inr ⟨_, List.mem_append_right _ (List.mem_singleton_self _), inside⟩
  | union member inside => exact .inr ⟨_, member, inside⟩
  | intersection member inside => exact .inr ⟨_, member, inside⟩
  | negation inside => exact .inr ⟨_, List.mem_singleton_self _, inside⟩

/-- The rules are kept at every depth of a node. -/
def Node.Orderly (node : Node) : Prop := ∀ part : Node, part.Within node → part.Proper

namespace Node.Orderly

variable {node : Node}

/-- Rules are kept at every depth by a node that keeps them if those right below it do so. -/
theorem of_children (own : node.Proper) (below : ∀ child ∈ node.children, child.Orderly) :
    node.Orderly := by
  intro part within
  rcases within.eq_or_child with rfl | ⟨child, member, inside⟩
  · exact own
  · exact below child member part inside

theorem any : Node.any.Orderly := of_children trivial nofun

/-- Null beside a node makes a second branch. -/
theorem orNull (orderly : node.Orderly) : node.orNull.Orderly := by
  have null : (plain .null).Orderly := of_children rfl nofun
  unfold Node.orNull
  split
  · exact orderly
  · refine of_children (Nat.le_refl 2) ?_
    exact List.forall_mem_cons.mpr ⟨orderly, List.forall_mem_singleton.mpr null⟩

/-- Nodes under several types are two branches or more. -/
theorem joined {nodes : List Node} (each : ∀ node ∈ nodes, node.Orderly) :
    (Node.joined nodes).Orderly :=
  match nodes with
  | [] => any
  | [node] => each node List.mem_cons_self
  | _ :: _ :: _ => of_children (Nat.le_add_left 2 _) each

end Node.Orderly

/-! ## Reading -/

/-- What the keywords of a value that JSON has hold is such a value. -/
theorem Keywords.Holds.wellFormed {k : Keywords} {part : Json} (held : k.Holds part)
    (wellFormed : (Json.object k.members).WellFormed) : part.WellFormed := by
  cases held with
  | value given => exact wellFormed.member (member?_of_value? given)
  | item given inside => exact (wellFormed.member (member?_of_value? given)).items _ inside
  | property inside =>
    unfold properties at inside
    split at inside
    · next given =>
      cases wellFormed.member (member?_of_value? given) with
      | object names each => exact each _ inside
    · cases inside

/-- No member is declared twice. -/
theorem Keywords.nodup_properties {k : Keywords} (wellFormed : (Json.object k.members).WellFormed) :
    (k.properties.map Prod.fst).Nodup := by
  unfold properties
  split
  · next given => exact (wellFormed.member (member?_of_value? given)).names
  · exact List.nodup_nil

section Reading

variable {R : Json → Node → List FindingKind → Prop} {k : Keywords} {node : Node}
  {kinds : List FindingKind} (wellFormed : (Json.object k.members).WellFormed)
  (parts : ∀ part, part.WellFormed → ∀ node own, R part node own → node.Orderly)
include wellFormed parts

/-- Nodes are orderly if they are read from schemas that keywords hold. -/
theorem Each.orderly {sources : List Json} {nodes : List Node} (held : ∀ v ∈ sources, k.Holds v)
    (each : Each R sources nodes kinds) : ∀ node ∈ nodes, node.Orderly := by
  intro node member
  obtain ⟨source, inside, own, -, reads⟩ := each.exists_of_mem member
  exact parts source ((held source inside).wellFormed wellFormed) node own reads

/-- So is the node of each type. -/
theorem ReadsType.orderly {token : String} (reads : ReadsType R k token node kinds) :
    node.Orderly := by
  cases reads with
  | scalar named => exact .of_children (k.belong_constraints _) nofun
  | array named given inner =>
    have items := parts _ (Keywords.Holds.value given |>.wellFormed wellFormed) _ _ inner
    exact .of_children trivial (List.forall_mem_singleton.mpr items)
  | @object properties _ additional _ named each others declared =>
    have own : ∀ child ∈ properties.map Prod.snd, child.Orderly := by
      intro child member
      obtain ⟨property, declared, rfl⟩ := List.mem_map.mp member
      obtain ⟨source, inside, own, -, -, reads⟩ := each.exists_of_mem declared
      exact parts _ (Keywords.Holds.property inside |>.wellFormed wellFormed) _ own reads
    refine .of_children ⟨?_, nodup_eraseDups _, declared⟩ ?_
    · rw [each.names_eq]
      exact Keywords.nodup_properties wellFormed
    · cases others with
      | schema given other inner =>
        have extra := parts _ (Keywords.Holds.value given |>.wellFormed wellFormed) _ _ inner
        exact List.forall_mem_append.mpr ⟨own, List.forall_mem_singleton.mpr extra⟩
      | _ => exact own
  | other named => exact .of_children trivial nofun

/-- The node that keywords describe is orderly if the nodes of its parts are. -/
theorem Describes.orderly (describes : Describes R k node kinds) : node.Orderly := by
  cases describes with
  | reference form named => exact .of_children (Reference.ne_empty_of_name? named) nofun
  | listed form made =>
    have own := Node.proper_of_enumOf made
    cases Node.eq_of_enumOf made
    exact .of_children own nofun
  | choice form each enough =>
    exact .of_children enough
      (each.orderly wellFormed parts fun _ => .item (Keywords.value?_of_form_choice form))
  | conjunction form each enough =>
    exact .of_children enough
      (each.orderly wellFormed parts fun _ => .item (Keywords.value?_of_form_conjunction form))
  | negation form part =>
    have held : k.Holds _ := .value (Keywords.value?_of_form_negation form)
    have inner := parts _ (held.wellFormed wellFormed) _ _ part
    exact .of_children trivial (List.forall_mem_singleton.mpr inner)
  | typed form each =>
    refine .joined fun node member => ?_
    obtain ⟨token, -, own, -, reads⟩ := each.exists_of_mem member
    exact reads.orderly wellFormed parts
  | free form => exact .of_children trivial nofun

end Reading

/-- Whatever is read from a value that JSON has keeps the rules at every depth. -/
theorem Json.Reads.orderly {v : Json} {node : Node} {kinds : List FindingKind}
    (reads : v.Reads node kinds) (wellFormed : v.WellFormed) : node.Orderly := by
  revert wellFormed
  refine reads.induction (motive := fun v node _ => v.WellFormed → node.Orderly) ?_ ?_
  · intro b _
    cases b with
    | true => exact .any
    | false => exact .of_children trivial (List.forall_mem_singleton.mpr .any)
  · intro members own more fits describes wellFormed
    have orderly : own.Orderly :=
      describes.orderly wellFormed fun part inner node own reads => reads.2 inner
    split
    · exact orderly.orNull
    · exact orderly

/-! ## Documents -/

namespace Json

/-- The names of the members of an object, and none of anything else. -/
def names : Option Json → List String
  | some (.object members) => members.map Prod.fst
  | _ => []

end Json

namespace Document

section MembersOf

variable {found : Option Json} {members : Members} (given : membersOf found = .ok members)
include given

theorem names_of_membersOf : Json.names found = members.map Prod.fst := by
  unfold membersOf at given
  split at given <;> cases given <;> rfl

/-- What stands under a name is looked up among the members. -/
theorem member?_of_membersOf (name : String) :
    (found.bind fun part => part.at? [.key name]) = Json.member? members name := by
  unfold membersOf at given
  split at given <;> cases given <;> simp [Json.child?]

end MembersOf

/-- Schemas are added to others as members of outputs are. -/
theorem addAbsent_eq_absorb {more : Members} (names : (more.map Prod.fst).Nodup)
    (schemas : Members) : addAbsent schemas more = Json.absorb schemas (.object more) := by
  have step (all : Members) (member : String × Json) :
      (if Json.hasMember all member.1 then all else Json.put all member.1 member.2) =
        if Json.hasMember all member.1 then all else all ++ [member] := by
    cases known : Json.hasMember all member.1 with
    | true => rfl
    | false => exact Json.put_of_absent known member.2
  unfold addAbsent
  simp only [step]
  exact Json.foldl_add_eq names schemas

/-- The names that a source document gives to schemas, in their order. Those of `definitions` come
after those of `$defs`, without the ones that `$defs` has as well. -/
def schemaNames (root : Members) : List String :=
  let has := Json.hasMember root
  let under (path : Path) : List String := Json.names ((Json.object root).at? path)
  if has "openapi" || has "components" then under [.key "components", .key "schemas"]
  else if has "$defs" || has "definitions" || has "$schema" then
    let first := under [.key "$defs"]
    first ++ (under [.key "definitions"]).filter fun name => !first.contains name
  else root.map Prod.fst

/-- The schemas of a document have the names that its source gives to schemas. -/
theorem names_of_sources {root schemas : Members} {path : List String}
    (wellFormed : (Json.object root).WellFormed) (found : sources root = .ok (path, schemas)) :
    schemas.map Prod.fst = schemaNames root ∧ (schemas.map Prod.fst).Nodup := by
  have under (name : String) : (Json.object root).at? [.key name] = Json.member? root name := by
    simp [Json.child?]
  unfold schemaNames
  dsimp only
  cases sources_eq_ok_iff.mp found with
  | components named given given' =>
    have inner := wellFormed_of_membersOf wellFormed given
    refine ⟨?_, (wellFormed_of_membersOf inner given').names⟩
    rw [if_pos named, Json.at?_cons, Json.child?, member?_of_membersOf given,
      names_of_membersOf given']
  | @bundle first more other bundled given given' =>
    have names := (wellFormed_of_membersOf wellFormed given).names
    have names' := (wellFormed_of_membersOf wellFormed given').names
    have known (name : String) :
        (first.map Prod.fst).contains name = Json.hasMember first name := by
      rw [Bool.eq_iff_iff, Json.hasMember_iff, List.contains_iff_mem]
    rw [if_neg (Bool.eq_false_iff.mp other), if_pos bundled, under, under,
      names_of_membersOf given, names_of_membersOf given', addAbsent_eq_absorb names']
    refine ⟨?_, Json.nodup_absorb names names'⟩
    simp only [known, Json.absorb, List.map_append, List.filter_map, Function.comp_def]
  | bare other bare =>
    rw [if_neg (Bool.eq_false_iff.mp other), if_neg (Bool.eq_false_iff.mp bare)]
    exact ⟨rfl, wellFormed.names⟩

/-- Whatever a source says, each node at any depth of each entry keeps the rules of its kind: an
enumeration lists something and nothing twice, a combination has two branches or more, an object
declares each member once and requires declared members only, refinements are those of the kind, and
a reference has a name. Entries have the names that the source gives to schemas, none of them twice,
in their order. -/
theorem rules_of_ofJson (source : Json) (wellFormed : source.WellFormed) (d : Document)
    (read : ofJson source = .ok d) :
    (∀ entry ∈ d.entries, ∀ part : Node, part.Within entry.2 → part.Proper) ∧ d.names.Nodup ∧
      ∃ root, source = .object root ∧ d.names = schemaNames root := by
  cases source with
  | object root =>
    obtain ⟨⟨path, schemas⟩, found, -⟩ := steps_of_ok read
    have each := (ofJson_object_iff found).mp ⟨d.findings, read, rfl⟩
    obtain ⟨given, distinct⟩ := names_of_sources wellFormed found
    have names : d.names = schemas.map Prod.fst := each.names_eq
    refine ⟨?_, names ▸ distinct, root, rfl, names.trans given⟩
    intro entry member
    obtain ⟨schema, inside, own, -, -, reads⟩ := each.exists_of_mem member
    exact reads.orderly (wellFormed_of_sources wellFormed found schema inside)
  | _ => cases read

/-- A parcel has a size, and a weight that may be null. -/
def parcelSource : Json :=
  .object [("properties", .object [("size", .object [("$ref", .string "#/$defs/Size")]),
      ("weight", .object [("type", .array [.string "number", .string "null"]), ("minimum", .int 0),
        ("pattern", .string "kg")])]),
    ("required", .array [.string "size"])]

def sizeSource : Json := .object [("enum", .array [.string "small", .string "large"])]
def noteSource : Json := .object [("type", .string "string"), ("nullable", .bool true)]

/-- A bundle that has schemas under both keywords, one name among them twice. -/
def bundleSource : Json :=
  .object [("definitions", .object [("Parcel", .bool true), ("Note", noteSource)]),
    ("$defs", .object [("Size", sizeSource), ("Parcel", parcelSource)])]

/-- Bounds are kept for a number, and a pattern is not. -/
def weightNode : Node :=
  .union .anyOf [.scalar .number none { minimum := some (Binary64.ofInt 0) }, .plain .null]

def parcelNode : Node :=
  .object [("size", .reference "Size"), ("weight", weightNode)] ["size"] {} .allow

def bundleDocument : Document :=
  ⟨[("Size", .enum [.string "small", .string "large"]), ("Parcel", parcelNode),
    ("Note", .union .anyOf [.plain .string, .plain .null])], []⟩

theorem wellFormed_bundleSource : bundleSource.WellFormed := by
  have zero : (Json.int 0).WellFormed := .number (.int (by decide) (by decide))
  simp [bundleSource, parcelSource, sizeSource, noteSource, zero]

theorem ofJson_bundleSource : ofJson bundleSource = .ok bundleDocument := by
  have size : sizeSource.Reads (.enum [.string "small", .string "large"]) [] :=
    Json.reads_object_iff.mpr ⟨rfl, _, _, .listed rfl rfl, rfl, rfl⟩
  have reference : (Json.object [("$ref", .string "#/$defs/Size")]).Reads (.reference "Size") [] :=
    Json.reads_object_iff.mpr ⟨rfl, _, _, .reference rfl rfl, rfl, rfl⟩
  have weight : (Json.object [("type", .array [.string "number", .string "null"]),
      ("minimum", .int 0), ("pattern", .string "kg")]).Reads weightNode [] :=
    Json.reads_object_iff.mpr
      ⟨rfl, _, _, .typed rfl (.cons (.scalar rfl) (.cons (.scalar rfl) .nil)), rfl, rfl⟩
  have parcel : parcelSource.Reads parcelNode [] :=
    have members := Each.cons ⟨rfl, reference⟩ (.cons ⟨rfl, weight⟩ .nil)
    have object := ReadsType.object rfl members (.absent rfl) (by decide)
    Json.reads_object_iff.mpr ⟨rfl, _, _, .typed rfl (.cons object .nil), rfl, rfl⟩
  have note : noteSource.Reads (.union .anyOf [.plain .string, .plain .null]) [] :=
    Json.reads_object_iff.mpr ⟨rfl, _, _, .typed rfl (.cons (.scalar rfl) .nil), rfl, rfl⟩
  have each : Each (ReadsMember Json.Reads)
      [("Size", sizeSource), ("Parcel", parcelSource), ("Note", noteSource)]
      bundleDocument.entries ([] ++ ([] ++ ([] ++ []))) :=
    .cons ⟨rfl, size⟩ (.cons ⟨rfl, parcel⟩ (.cons ⟨rfl, note⟩ .nil))
  have found : sources [("definitions", .object [("Parcel", .bool true), ("Note", noteSource)]),
      ("$defs", .object [("Size", sizeSource), ("Parcel", parcelSource)])] =
      .ok (["$defs"], [("Size", sizeSource), ("Parcel", parcelSource), ("Note", noteSource)]) := rfl
  obtain ⟨findings, read, none⟩ := (ofJson_object_iff found).mpr each
  cases List.map_eq_nil_iff.mp none
  exact read

/-- The parcel under `$defs` is the one that is read. -/
theorem bundle_keeps_the_rules :
    bundleSource.WellFormed ∧ ofJson bundleSource = .ok bundleDocument ∧
      bundleDocument.names = ["Size", "Parcel", "Note"] ∧ weightNode.Proper := by
  obtain ⟨orderly, -, root, same, names⟩ :=
    rules_of_ofJson bundleSource wellFormed_bundleSource bundleDocument ofJson_bundleSource
  cases same
  have entry : ("Parcel", parcelNode) ∈ bundleDocument.entries := by simp [bundleDocument]
  have weight : weightNode.Within parcelNode :=
    .property (List.mem_cons_of_mem _ List.mem_cons_self) .self
  exact ⟨wellFormed_bundleSource, ofJson_bundleSource, names,
    orderly _ entry weightNode weight⟩

end Document
end DataSchema
