import DataSchema.Proofs.Compilation

/-!
The references in a document, at any depth and in the order of the work. Compilation fails at the
first one whose name no entry has, and succeeds if there is none: nothing else in a schema makes it
fail.
-/
namespace DataSchema

/-- A reference: the entry it stands in, the segments that lead to it from there, and its name. -/
structure Mention where
  entry : String
  pointer : List String
  name : String
deriving DecidableEq, Repr

/-- The error on a reference whose name no entry has. -/
def Mention.error (m : Mention) : SchemaError :=
  ⟨some m.entry, m.pointer, .unresolvedReference m.name⟩

mutual

/-- The references in a node that stands at a place of an entry: those of the items, those of
declared members and then of the others, or those of each branch. -/
def Node.mentions (entry : String) (pointer : List String) : Node → List Mention
  | .scalar _ _ _ | .enum _ | .unknown _ _ => []
  | .array items _ _ => items.mentions entry (pointer ++ ["items"])
  | .object properties _ _ additional =>
    propertyMentions entry (pointer ++ ["properties"]) properties
      ++ additionalMentions entry pointer additional
  | .union mode branches => branchMentions entry (pointer ++ [mode.keyword]) 0 branches
  | .intersection branches => branchMentions entry (pointer ++ ["allOf"]) 0 branches
  | .negation inner => inner.mentions entry (pointer ++ ["not"])
  | .reference name => [⟨entry, pointer, name⟩]

def branchMentions (entry : String) (pointer : List String) (index : Nat) :
    List Node → List Mention
  | [] => []
  | node :: rest =>
    node.mentions entry (pointer ++ [toString index])
      ++ branchMentions entry pointer (index + 1) rest

def propertyMentions (entry : String) (pointer : List String) :
    List (String × Node) → List Mention
  | [] => []
  | (name, node) :: rest =>
    node.mentions entry (pointer ++ [name]) ++ propertyMentions entry pointer rest

def additionalMentions (entry : String) (pointer : List String) :
    Additional Node → List Mention
  | .allow | .deny => []
  | .schema node => node.mentions entry (pointer ++ ["additionalProperties"])

end

/-- The references in all entries of a document. -/
def Document.mentions (d : Document) : List Mention :=
  d.entries.flatMap fun entry => entry.2.mentions entry.1 []

/-- Every reference in the document has the name of an entry. -/
def Document.Resolved (d : Document) : Prop := ∀ m ∈ d.mentions, m.name ∈ d.names

/-- The first reference whose name is none of these. -/
def firstUnresolved (names : List String) (mentions : List Mention) : Option Mention :=
  mentions.find? fun m => !names.contains m.name

theorem firstUnresolved_eq_none_iff {names : List String} {mentions : List Mention} :
    firstUnresolved names mentions = none ↔ ∀ m ∈ mentions, m.name ∈ names := by
  simp [firstUnresolved, List.find?_eq_none]

/-! ## Work that fails at the first unresolved reference -/

/-- Work on these references fails at the first one that is unresolved, and otherwise succeeds. -/
def FailsAtFirst {α : Type} (names : List String) (mentions : List Mention)
    (result : Except SchemaError α) : Prop :=
  match firstUnresolved names mentions with
  | some m => result = .error m.error
  | none => ∃ x, result = .ok x

namespace FailsAtFirst

variable {α β : Type} {names : List String} {mentions more : List Mention}
  {result : Except SchemaError α}

theorem ok (x : α) : FailsAtFirst names [] (.ok x : Except SchemaError α) := ⟨x, rfl⟩

/-- Steps one after another work on the references of the first and then on those of the second. -/
theorem bind {next : α → Except SchemaError β} (first : FailsAtFirst names mentions result)
    (rest : ∀ x, FailsAtFirst names more (next x)) :
    FailsAtFirst names (mentions ++ more) (result.bind next) := by
  unfold FailsAtFirst at first ⊢
  rw [firstUnresolved, List.find?_append, ← firstUnresolved, ← firstUnresolved]
  cases found : firstUnresolved names mentions with
  | some m =>
    rw [found] at first
    rw [first]
    rfl
  | none =>
    rw [found] at first
    obtain ⟨x, rfl⟩ := first
    exact rest x

theorem map {f : α → β} (first : FailsAtFirst names mentions result) :
    FailsAtFirst names mentions (result.bind fun x => .ok (f x)) := by
  simpa using first.bind fun x => ok (f x)

theorem eq_error {m : Mention} (work : FailsAtFirst names mentions result)
    (first : firstUnresolved names mentions = some m) : result = .error m.error := by
  rw [FailsAtFirst, first] at work
  exact work

theorem exists_ok (work : FailsAtFirst names mentions result)
    (resolved : ∀ m ∈ mentions, m.name ∈ names) : ∃ x, result = .ok x := by
  rw [FailsAtFirst, firstUnresolved_eq_none_iff.mpr resolved] at work
  exact work

end FailsAtFirst

/-! ## Compilation -/

private theorem compileBranches_failsAtFirst {branches : List Node}
    (each : ∀ branch ∈ branches, ∀ site : Site, FailsAtFirst site.names
      (branch.mentions site.entry site.pointer) (compileNode site branch))
    (site : Site) (index : Nat) :
    FailsAtFirst site.names (branchMentions site.entry site.pointer index branches)
      (compileBranches site index branches) := by
  induction branches generalizing index with
  | nil => exact .ok _
  | cons branch rest ih =>
    have first := each branch (by simp) (site.within (toString index))
    have others := ih (fun other member => each other (by simp [member])) (index + 1)
    exact first.bind fun check => others.map

private theorem compileProperties_failsAtFirst {properties : List (String × Node)}
    (each : ∀ property ∈ properties, ∀ site : Site, FailsAtFirst site.names
      (property.2.mentions site.entry site.pointer) (compileNode site property.2)) (site : Site) :
    FailsAtFirst site.names (propertyMentions site.entry site.pointer properties)
      (compileProperties site properties) := by
  induction properties with
  | nil => exact .ok _
  | cons property rest ih =>
    have first := each property (by simp) (site.within property.1)
    have others := ih fun other member => each other (by simp [member])
    exact first.bind fun check => others.map

/-- A node compiles unless it has a reference that is unresolved. -/
theorem compileNode_failsAtFirst (site : Site) (node : Node) :
    FailsAtFirst site.names (node.mentions site.entry site.pointer) (compileNode site node) := by
  induction node generalizing site with
  | scalar kind format constraints => exact .ok _
  | enum values => exact .ok _
  | unknown token raw => exact .ok _
  | array items count unique ih => exact (ih (site.within "items")).map
  | object properties required count additional ih ihAdd =>
    have declared := compileProperties_failsAtFirst ih (site.within "properties")
    have others : FailsAtFirst site.names (additionalMentions site.entry site.pointer additional)
        (compileAdditional site count additional) := by
      cases additional with
      | allow => exact .ok _
      | deny => exact .ok _
      | schema node => exact (ihAdd node rfl (site.within "additionalProperties")).map
    exact declared.bind fun checks => others.map
  | union mode branches ih =>
    exact (compileBranches_failsAtFirst ih (site.within mode.keyword) 0).map
  | intersection branches ih =>
    exact (compileBranches_failsAtFirst ih (site.within "allOf") 0).map
  | negation inner ih => exact (ih (site.within "not")).map
  | reference name =>
    cases found : site.names.idxOf? name with
    | some slot =>
      have known : name ∈ site.names := List.isSome_idxOf?.mp (by simp [found])
      simp [FailsAtFirst, Node.mentions, firstUnresolved, known, compileNode, found]
    | none =>
      have unknown : name ∉ site.names := List.idxOf?_eq_none_iff.mp found
      simp [FailsAtFirst, Node.mentions, firstUnresolved, unknown, compileNode, found,
        Mention.error]

theorem compileEntries_failsAtFirst (names : List String) (entries : List (String × Node)) :
    FailsAtFirst names (entries.flatMap fun entry => entry.2.mentions entry.1 [])
      (compileEntries names entries) := by
  induction entries with
  | nil => exact .ok _
  | cons entry rest ih =>
    exact (compileNode_failsAtFirst ⟨names, entry.1, []⟩ entry.2).bind fun check => ih.map

end DataSchema
