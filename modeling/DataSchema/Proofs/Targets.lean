import DataSchema.Proofs.Mentions

/-!
The names that a node refers to, at any depth. They do not depend on where the node stands, and
those of a node are the names that its parts refer to.
-/
namespace DataSchema

/-- The names of the references in a node. -/
def Node.targets (node : Node) : List String := (node.mentions "" []).map Mention.name

/-- The entry of the first name has a reference to the second name. -/
def Document.Refers (d : Document) (name target : String) : Prop :=
  ∃ node, d.node? name = some node ∧ target ∈ node.targets

namespace Node

/-! ## References in lists of parts -/

/-- The names in branches, once each branch has the same names wherever it stands. -/
private theorem branchMentions_names {branches : List Node}
    (each : ∀ branch ∈ branches, ∀ entry pointer,
      (branch.mentions entry pointer).map Mention.name = branch.targets)
    (entry : String) (pointer : List String) (index : Nat) :
    (branchMentions entry pointer index branches).map Mention.name =
      branches.flatMap targets := by
  induction branches generalizing index with
  | nil => rfl
  | cons branch rest ih =>
    have first := each branch (by simp) entry (pointer ++ [toString index])
    have others := ih (fun other member => each other (by simp [member])) (index + 1)
    rw [branchMentions, List.map_append, first, others, List.flatMap_cons]

private theorem propertyMentions_names {properties : List (String × Node)}
    (each : ∀ property ∈ properties, ∀ entry pointer,
      (property.2.mentions entry pointer).map Mention.name = property.2.targets)
    (entry : String) (pointer : List String) :
    (propertyMentions entry pointer properties).map Mention.name =
      properties.flatMap fun property => property.2.targets := by
  induction properties with
  | nil => rfl
  | cons property rest ih =>
    have first := each property (by simp) entry (pointer ++ [property.1])
    have others := ih fun other member => each other (by simp [member])
    rw [propertyMentions, List.map_append, first, others, List.flatMap_cons]

/-- A schema for other members refers to what its node refers to. -/
def additionalTargets : Additional Node → List String
  | .schema node => node.targets
  | _ => []

private theorem additionalMentions_names {additional : Additional Node}
    (each : ∀ node, additional = .schema node → ∀ entry pointer,
      (node.mentions entry pointer).map Mention.name = node.targets)
    (entry : String) (pointer : List String) :
    (additionalMentions entry pointer additional).map Mention.name =
      additionalTargets additional := by
  cases additional with
  | schema node => exact each node rfl entry _
  | _ => rfl

/-! ## Nodes -/

/-- A node refers to the same names wherever it stands. -/
theorem mentions_names (node : Node) (entry : String) (pointer : List String) :
    (node.mentions entry pointer).map Mention.name = node.targets := by
  induction node generalizing entry pointer with
  | scalar kind format constraints => rfl
  | enum values => rfl
  | unknown token raw => rfl
  | reference name => rfl
  | array items count unique ih =>
    exact (ih entry _).trans (ih "" _).symm
  | negation inner ih =>
    exact (ih entry _).trans (ih "" _).symm
  | union mode branches ih =>
    exact (branchMentions_names ih entry _ 0).trans (branchMentions_names ih "" _ 0).symm
  | intersection branches ih =>
    exact (branchMentions_names ih entry _ 0).trans (branchMentions_names ih "" _ 0).symm
  | object properties required count additional ih ihAdd =>
    simp only [targets, mentions, List.map_append, propertyMentions_names ih,
      additionalMentions_names ihAdd]

variable {name : String}

@[simp] theorem targets_reference (target : String) : (reference target).targets = [target] := rfl

@[simp] theorem targets_unknown (token : Option String) (raw : Json) :
    (unknown token raw).targets = [] := rfl

@[simp] theorem targets_array (items : Node) (count : CountRange) (unique : Bool) :
    (array items count unique).targets = items.targets :=
  mentions_names items "" _

@[simp] theorem targets_negation (inner : Node) : (negation inner).targets = inner.targets :=
  mentions_names inner "" _

@[simp] theorem targets_union (mode : UnionMode) (branches : List Node) :
    (union mode branches).targets = branches.flatMap targets :=
  branchMentions_names (fun branch _ => mentions_names branch) "" _ 0

@[simp] theorem targets_intersection (branches : List Node) :
    (intersection branches).targets = branches.flatMap targets :=
  branchMentions_names (fun branch _ => mentions_names branch) "" _ 0

@[simp] theorem targets_object (properties : List (String × Node)) (required : List String)
    (count : CountRange) (additional : Additional Node) :
    (object properties required count additional).targets =
      (properties.flatMap fun property => property.2.targets) ++ additionalTargets additional := by
  rw [targets, mentions, List.map_append,
    propertyMentions_names fun property _ => mentions_names property.2,
    additionalMentions_names fun node _ => mentions_names node]

/-- The schema of a member refers to names that the object refers to. -/
theorem targets_of_memberNode? {properties : List (String × Node)} {additional : Additional Node}
    {member : String} {node : Node} (schema : memberNode? properties additional member = some node)
    (required : List String) (count : CountRange) :
    ∀ name ∈ node.targets, name ∈ (object properties required count additional).targets := by
  intro name refers
  rw [targets_object, List.mem_append]
  rcases mem_of_memberNode? schema with declared | rfl
  · exact .inl (List.mem_flatMap.mpr ⟨(member, node), declared, refers⟩)
  · exact .inr refers

end Node

/-- A node has a check exactly if it refers to entries only. -/
theorem exists_hasCheck_iff {names : List String} {node : Node} :
    (∃ check, HasCheck names node check) ↔ ∀ name ∈ node.targets, name ∈ names := by
  constructor
  · rintro ⟨check, c, ⟨entry, pointer, compiled⟩, -⟩ name refers
    have work := compileNode_failsAtFirst ⟨names, entry, pointer⟩ node
    rw [← Node.mentions_names node entry pointer] at refers
    obtain ⟨mention, inside, rfl⟩ := List.mem_map.mp refers
    cases first : firstUnresolved names (node.mentions entry pointer) with
    | none => exact firstUnresolved_eq_none_iff.mp first mention inside
    | some unresolved => cases compiled.symm.trans (work.eq_error first)
  · intro resolved
    obtain ⟨c, compiled⟩ := (compileNode_failsAtFirst ⟨names, "", []⟩ node).exists_ok
      fun mention inside => resolved mention.name (List.mem_map_of_mem inside)
    exact ⟨c.value, c, ⟨"", [], compiled⟩, rfl⟩

/-- A document is resolved exactly if each of its entries refers to entries only. -/
theorem Document.resolved_iff {d : Document} :
    d.Resolved ↔ ∀ entry ∈ d.entries, ∀ name ∈ entry.2.targets, name ∈ d.names := by
  simp only [Document.Resolved, Document.mentions, List.mem_flatMap]
  constructor
  · intro resolved entry member name refers
    rw [← Node.mentions_names entry.2 entry.1 []] at refers
    obtain ⟨m, inside, rfl⟩ := List.mem_map.mp refers
    exact resolved m ⟨entry, member, inside⟩
  · rintro each m ⟨entry, member, inside⟩
    apply each entry member
    rw [← Node.mentions_names entry.2 entry.1 []]
    exact List.mem_map_of_mem inside

end DataSchema
