import DataSchema.Check.Basic
import DataSchema.Schema.Node

/-!
Induction over the trees of schemas and of checks. The trees hold lists of members and branches, so
the principle that comes with the types speaks of those lists too; here each kind of tree has one
case, with the claim for all its parts.
-/
namespace DataSchema

/-- Every node is reached from its parts, members and branches among them. -/
@[elab_as_elim, induction_eliminator]
theorem Node.tree_induction {motive : Node → Prop}
    (scalar : ∀ kind format constraints, motive (.scalar kind format constraints))
    (enum : ∀ values, motive (.enum values))
    (array : ∀ items count unique, motive items → motive (.array items count unique))
    (object : ∀ properties required count additional,
      (∀ property ∈ properties, motive property.2) →
      (∀ node, additional = .schema node → motive node) →
      motive (.object properties required count additional))
    (union : ∀ mode branches, (∀ branch ∈ branches, motive branch) → motive (.union mode branches))
    (intersection : ∀ branches, (∀ branch ∈ branches, motive branch) →
      motive (.intersection branches))
    (negation : ∀ inner, motive inner → motive (.negation inner))
    (reference : ∀ name, motive (.reference name))
    (unknown : ∀ token raw, motive (.unknown token raw)) (node : Node) : motive node := by
  have parts (smaller : Node) (h : sizeOf smaller < sizeOf node) : motive smaller :=
    tree_induction scalar enum array object union intersection negation reference unknown smaller
  cases node with
  | scalar kind format constraints => exact scalar kind format constraints
  | enum values => exact enum values
  | array items count unique => exact array items count unique (parts items (by simp; omega))
  | object properties required count additional =>
    apply object
    · intro property member
      have inList := List.sizeOf_lt_of_mem member
      have inPair : sizeOf property.2 < sizeOf property := by
        obtain ⟨name, part⟩ := property
        simp only [Prod.mk.sizeOf_spec]
        omega
      exact parts property.2 (by simp; omega)
    · intro node same
      subst same
      exact parts node (by simp; omega)
  | union mode branches =>
    apply union
    intro branch member
    have inList := List.sizeOf_lt_of_mem member
    exact parts branch (by simp; omega)
  | intersection branches =>
    apply intersection
    intro branch member
    have inList := List.sizeOf_lt_of_mem member
    exact parts branch (by simp; omega)
  | negation inner => exact negation inner (parts inner (by simp))
  | reference name => exact reference name
  | unknown token raw => exact unknown token raw
termination_by sizeOf node

/-- Every check is reached from its parts, those of items and members among them. -/
@[elab_as_elim, induction_eliminator]
theorem Check.tree_induction {motive : Check → Prop}
    (any : motive .any)
    (string : ∀ rules, motive (.string rules))
    (number : ∀ integer rules, motive (.number integer rules))
    (boolean : motive .boolean)
    (null : motive .null)
    (enum : ∀ values, motive (.enum values))
    (array : ∀ items rules, motive items → motive (.array items rules))
    (object : ∀ properties required extra rules,
      (∀ property ∈ properties, motive property.2) →
      (∀ check, extra = .check check → motive check) →
      motive (.object properties required extra rules))
    (union : ∀ mode branches, (∀ branch ∈ branches, motive branch) → motive (.union mode branches))
    (intersection : ∀ branches, (∀ branch ∈ branches, motive branch) →
      motive (.intersection branches))
    (negation : ∀ inner, motive inner → motive (.negation inner))
    (ref : ∀ slot, motive (.ref slot)) (check : Check) : motive check := by
  have parts (smaller : Check) (h : sizeOf smaller < sizeOf check) : motive smaller :=
    tree_induction any string number boolean null enum array object union intersection negation ref
      smaller
  cases check with
  | any => exact any
  | string rules => exact string rules
  | number integer rules => exact number integer rules
  | boolean => exact boolean
  | null => exact null
  | enum values => exact enum values
  | array items rules => exact array items rules (parts items (by simp; omega))
  | object properties required extra rules =>
    apply object
    · intro property member
      have inList := List.sizeOf_lt_of_mem member
      have inPair : sizeOf property.2 < sizeOf property := by
        obtain ⟨name, part⟩ := property
        simp only [Prod.mk.sizeOf_spec]
        omega
      exact parts property.2 (by simp; omega)
    · intro check same
      subst same
      exact parts check (by simp; omega)
  | union mode branches =>
    apply union
    intro branch member
    have inList := List.sizeOf_lt_of_mem member
    exact parts branch (by simp; omega)
  | intersection branches =>
    apply intersection
    intro branch member
    have inList := List.sizeOf_lt_of_mem member
    exact parts branch (by simp; omega)
  | negation inner => exact negation inner (parts inner (by simp))
  | ref slot => exact ref slot
termination_by sizeOf check

end DataSchema
