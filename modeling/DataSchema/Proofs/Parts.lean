import DataSchema.Proofs.Compilation

/-!
Parts of nodes and of checks, at any depth. Compilation makes the parts of a check from the parts of
its node, so that what holds of all nodes in an entry can be said of all checks in its slot.
-/
namespace DataSchema

/-- The first node stands at some place of the second, or is the second. -/
inductive Node.Within (part : Node) : Node → Prop
  | self : Within part part
  | array {items count unique} (inside : Within part items) :
      Within part (.array items count unique)
  | property {properties required count additional} {property : String × Node}
      (member : property ∈ properties) (inside : Within part property.2) :
      Within part (.object properties required count additional)
  | additional {properties required count node} (inside : Within part node) :
      Within part (.object properties required count (.schema node))
  | union {mode branches branch} (member : branch ∈ branches) (inside : Within part branch) :
      Within part (.union mode branches)
  | intersection {branches branch} (member : branch ∈ branches) (inside : Within part branch) :
      Within part (.intersection branches)
  | negation {inner} (inside : Within part inner) : Within part (.negation inner)

/-- The first check stands at some place of the second, or is the second. A check in a slot is no
part of a reference to the slot. -/
inductive Check.Within (part : Check) : Check → Prop
  | self : Within part part
  | array {items rules} (inside : Within part items) : Within part (.array items rules)
  | property {properties required extra rules} {property : String × Check}
      (member : property ∈ properties) (inside : Within part property.2) :
      Within part (.object properties required extra rules)
  | extra {properties required check rules} (inside : Within part check) :
      Within part (.object properties required (.check check) rules)
  | union {mode branches branch} (member : branch ∈ branches) (inside : Within part branch) :
      Within part (.union mode branches)
  | intersection {branches branch} (member : branch ∈ branches) (inside : Within part branch) :
      Within part (.intersection branches)
  | negation {inner} (inside : Within part inner) : Within part (.negation inner)

/-- A part of a part is a part. -/
theorem Node.Within.trans {part whole node : Node} (inner : part.Within whole)
    (outer : whole.Within node) : part.Within node := by
  induction outer with
  | self => exact inner
  | array _ ih => exact .array ih
  | property member _ ih => exact .property member ih
  | additional _ ih => exact .additional ih
  | union member _ ih => exact .union member ih
  | intersection member _ ih => exact .intersection member ih
  | negation _ ih => exact .negation ih

theorem Check.Within.trans {part whole check : Check} (inner : part.Within whole)
    (outer : whole.Within check) : part.Within check := by
  induction outer with
  | self => exact inner
  | array _ ih => exact .array ih
  | property member _ ih => exact .property member ih
  | extra _ ih => exact .extra ih
  | union member _ ih => exact .union member ih
  | intersection member _ ih => exact .intersection member ih
  | negation _ ih => exact .negation ih

/-- The schema of a member is a part of the schema of its object. -/
theorem Node.Within.of_memberNode? {part node : Node} {properties : List (String × Node)}
    {additional : Additional Node} {name : String}
    (schema : memberNode? properties additional name = some node) (inside : part.Within node)
    (required : List String) (count : CountRange) :
    part.Within (.object properties required count additional) := by
  rcases mem_of_memberNode? schema with declared | rfl
  · exact .property declared inside
  · exact .additional inside

/-- The check of a member is a part of the check of its object. -/
theorem Check.Within.of_memberCheck? {part check : Check} {properties : List (String × Check)}
    {extra : Extra Check} {name : String}
    (given : memberCheck? properties extra name = some check) (inside : part.Within check)
    (required : List String) (rules : List ObjectRule) :
    part.Within (.object properties required extra rules) := by
  rcases mem_of_memberCheck? given with declared | rfl
  · exact .property declared inside
  · exact .extra inside

/-! ## Compilation -/

variable {names : List String} {node : Node} {check part : Check}

/-- Every part of the check of a node is the check of a part of the node. -/
theorem HasCheck.exists_within (has : HasCheck names node check) (within : part.Within check) :
    ∃ inner : Node, inner.Within node ∧ HasCheck names inner part := by
  induction node generalizing check with
  | scalar kind format constraints =>
    have form := has.form
    cases form <;> cases within <;> exact ⟨_, .self, has⟩
  | enum values =>
    cases has.form
    cases within
    exact ⟨_, .self, has⟩
  | unknown token raw =>
    cases has.form
    cases within
    exact ⟨_, .self, has⟩
  | reference name =>
    cases has.form
    cases within
    exact ⟨_, .self, has⟩
  | array items count unique ih =>
    cases has.form with
    | array own =>
      cases within with
      | self => exact ⟨_, .self, has⟩
      | array inside =>
        obtain ⟨inner, found, given⟩ := ih own inside
        exact ⟨inner, .array found, given⟩
  | negation source ih =>
    cases has.form with
    | negation own =>
      cases within with
      | self => exact ⟨_, .self, has⟩
      | negation inside =>
        obtain ⟨inner, found, given⟩ := ih own inside
        exact ⟨inner, .negation found, given⟩
  | union mode branches ih =>
    cases has.form with
    | union each =>
      cases within with
      | self => exact ⟨_, .self, has⟩
      | union member inside =>
        obtain ⟨source, first, own⟩ := forall₂_mem_right each member
        obtain ⟨inner, found, given⟩ := ih source first own inside
        exact ⟨inner, .union first found, given⟩
  | intersection branches ih =>
    cases has.form with
    | intersection each =>
      cases within with
      | self => exact ⟨_, .self, has⟩
      | intersection member inside =>
        obtain ⟨source, first, own⟩ := forall₂_mem_right each member
        obtain ⟨inner, found, given⟩ := ih source first own inside
        exact ⟨inner, .intersection first found, given⟩
  | object properties required count additional ih ihAdd =>
    cases has.form with
    | object each others =>
      cases within with
      | self => exact ⟨_, .self, has⟩
      | property member inside =>
        obtain ⟨property, first, -, own⟩ := forall₂_mem_right each member
        obtain ⟨inner, found, given⟩ := ih property first own inside
        exact ⟨inner, .property first found, given⟩
      | extra inside =>
        cases others with
        | checked source _ own =>
          obtain ⟨inner, found, given⟩ := ihAdd source rfl own inside
          exact ⟨inner, .additional found, given⟩

/-- Every part of a check in a slot is the check of a part of an entry. -/
theorem Registry.BuiltFrom.exists_within {d : Document} {r : Registry}
    {compiled : List (Compiled Check)} (built : BuiltFrom d r compiled) {slot : Nat}
    (within : part.Within (r.checks.getD slot .any)) :
    part = .any ∨ ∃ entry ∈ d.entries, ∃ inner : Node, inner.Within entry.2 ∧
      HasCheck d.names inner part := by
  cases place : d.entries[slot]? with
  | some entry =>
    obtain ⟨name, node⟩ := entry
    obtain ⟨inner, found, has⟩ := (built.hasCheck place).exists_within within
    exact .inr ⟨(name, node), List.mem_of_getElem? place, inner, found, has⟩
  | none =>
    have beyond : r.checks.length ≤ slot := by
      rw [built.checks, List.length_map, ← built.entries.length_eq]
      exact List.getElem?_eq_none_iff.mp place
    rw [List.getD_eq_getElem?_getD, List.getElem?_eq_none beyond] at within
    cases within
    exact .inl rfl

end DataSchema
