import DataSchema.Proofs.Objects
import DataSchema.Proofs.Targets
import DataSchema.Schema.Reading

/-!
Respellings of schemas. A respelling of a node differs from it only in unknown nodes: a branch of a
disjunction that accepts any value may have become the whole disjunction, or that or null. A node
and its respelling refer to the same names, and are references together.
-/
namespace DataSchema

/-- What an unknown branch of a disjunction may have become. -/
def Node.wholes (branches : List Node) : List Node :=
  [.union .anyOf branches, (Node.union .anyOf branches).orNull]

/-- The second node is a respelling of the first, where `wholes` are the nodes that an unknown node
may have become. -/
inductive Respelled : List Node → Node → Node → Prop
  | scalar {wholes kind format constraints} :
      Respelled wholes (.scalar kind format constraints) (.scalar kind format constraints)
  | enum {wholes values} : Respelled wholes (.enum values) (.enum values)
  | array {wholes items items' count unique} (inner : Respelled [] items items') :
      Respelled wholes (.array items count unique) (.array items' count unique)
  | object {wholes properties properties' required count additional additional'}
      (names : properties.map Prod.fst = properties'.map Prod.fst)
      (each : List.Forall₂ (Respelled []) (properties.map Prod.snd) (properties'.map Prod.snd))
      (others : Additional.Rel (Respelled []) additional additional') :
      Respelled wholes (.object properties required count additional)
        (.object properties' required count additional')
  | anyOf {wholes branches branches'} (length : branches.length = branches'.length)
      (each : ∀ {branch branch'}, (branch, branch') ∈ branches.zip branches' →
        Respelled (Node.wholes branches) branch branch') :
      Respelled wholes (.union .anyOf branches) (.union .anyOf branches')
  | oneOf {wholes branches branches'} (each : List.Forall₂ (Respelled []) branches branches') :
      Respelled wholes (.union .oneOf branches) (.union .oneOf branches')
  | intersection {wholes branches branches'}
      (each : List.Forall₂ (Respelled []) branches branches') :
      Respelled wholes (.intersection branches) (.intersection branches')
  | negation {wholes inner inner'} (part : Respelled [] inner inner') :
      Respelled wholes (.negation inner) (.negation inner')
  | reference {wholes name} : Respelled wholes (.reference name) (.reference name)
  | unknown {wholes token raw} :
      Respelled wholes (.unknown token raw) (.unknown token raw)
  | whole {wholes token raw node} (member : node ∈ wholes) :
      Respelled wholes (.unknown token raw) node

namespace Respelled

variable {wholes : List Node} {node node' : Node}

/-- Every node is a respelling of itself. -/
theorem refl (node : Node) : Respelled wholes node node := by
  induction node generalizing wholes with
  | scalar kind format constraints => exact .scalar
  | enum values => exact .enum
  | array items count unique ih => exact .array ih
  | object properties required count additional ih ihAdd =>
    refine .object rfl ?_ (.refl fun node same => ihAdd node same)
    rw [List.forall₂_same]
    intro part member
    obtain ⟨property, inside, rfl⟩ := List.mem_map.mp member
    exact ih property inside
  | union mode branches ih =>
    cases mode with
    | anyOf =>
      have each : List.Forall₂ (Respelled (Node.wholes branches)) branches branches :=
        List.forall₂_same.mpr fun branch member => ih branch member
      exact .anyOf rfl (List.forall₂_iff_zip.mp each).2
    | oneOf => exact .oneOf (List.forall₂_same.mpr fun branch member => ih branch member)
  | intersection branches ih =>
    exact .intersection (List.forall₂_same.mpr fun branch member => ih branch member)
  | negation inner ih => exact .negation ih
  | reference name => exact .reference
  | unknown token raw => exact .unknown

/-- Where an unknown node may have become more, there are as many respellings or more. -/
theorem mono {more : List Node} (subset : wholes ⊆ more) (h : Respelled wholes node node') :
    Respelled more node node' := by
  cases h with
  | scalar => exact .scalar
  | enum => exact .enum
  | array inner => exact .array inner
  | object names each others => exact .object names each others
  | anyOf length each => exact .anyOf length each
  | oneOf each => exact .oneOf each
  | intersection each => exact .intersection each
  | negation part => exact .negation part
  | reference => exact .reference
  | unknown => exact .unknown
  | whole member => exact .whole (subset member)

/-- Unless an unknown node has become one of the wholes, they take no part. -/
theorem own_or_whole (h : Respelled wholes node node') :
    Respelled [] node node' ∨
      ∃ token raw, node = .unknown token raw ∧ node' ∈ wholes := by
  cases h with
  | scalar => exact .inl .scalar
  | enum => exact .inl .enum
  | array inner => exact .inl (.array inner)
  | object names each others => exact .inl (.object names each others)
  | anyOf length each => exact .inl (.anyOf length each)
  | oneOf each => exact .inl (.oneOf each)
  | intersection each => exact .inl (.intersection each)
  | negation part => exact .inl (.negation part)
  | reference => exact .inl .reference
  | unknown => exact .inl .unknown
  | whole member => exact .inr ⟨_, _, rfl, member⟩

/-- Branches of a disjunction, each a respelling of its own. -/
theorem anyOf_forall₂ {branches branches' : List Node}
    (each : List.Forall₂ (Respelled (Node.wholes branches)) branches branches') :
    Respelled wholes (.union .anyOf branches) (.union .anyOf branches') :=
  .anyOf each.length_eq (List.forall₂_iff_zip.mp each).2

/-- A respelling is a reference exactly if the node is. -/
theorem reference_iff (h : Respelled [] node node') (name : String) :
    node' = .reference name ↔ node = .reference name := by
  cases h with
  | whole member => cases member
  | _ => simp

/-! ## References -/

/-- Related lists of nodes refer to the same names if the related nodes do. -/
private theorem flatMap_targets_iff {R : Node → Node → Prop} {nodes nodes' : List Node}
    (each : List.Forall₂ R nodes nodes') {name : String}
    (same : ∀ node ∈ nodes, ∀ node', R node node' → (name ∈ node'.targets ↔ name ∈ node.targets)) :
    name ∈ nodes'.flatMap Node.targets ↔ name ∈ nodes.flatMap Node.targets := by
  induction each with
  | nil => rfl
  | cons related _ ih =>
    simp only [List.flatMap_cons, List.mem_append]
    rw [same _ (by simp) _ related, ih fun node member => same node (by simp [member])]

/-- What a branch may have become refers to the names that all branches refer to. -/
theorem targets_of_mem_wholes {branches : List Node} (member : node ∈ Node.wholes branches) :
    node.targets = branches.flatMap Node.targets := by
  rcases List.mem_pair.mp member with rfl | rfl
  · exact Node.targets_union .anyOf branches
  · have whole : (Node.union .anyOf branches).orNull =
        .union .anyOf [.union .anyOf branches, .plain .null] := rfl
    have none : (Node.plain .null).targets = [] := rfl
    simp [whole, none]

/-- A node and its respelling refer to the same names. -/
theorem targets_iff (h : Respelled [] node node') (name : String) :
    name ∈ node'.targets ↔ name ∈ node.targets := by
  induction node generalizing node' with
  | scalar kind format constraints => cases h with
    | scalar => rfl
  | enum values => cases h with
    | enum => rfl
  | reference target => cases h with
    | reference => rfl
  | unknown token raw => cases h with
    | unknown => rfl
    | whole member => cases member
  | array items count unique ih => cases h with
    | array inner => simpa using ih inner
  | negation inner ih => cases h with
    | negation part => simpa using ih part
  | intersection branches ih => cases h with
    | intersection each =>
      simpa using flatMap_targets_iff each fun branch member _ related => ih branch member related
  | object properties required count additional ih ihAdd => cases h with
    | @object _ _ properties' _ _ _ additional' names each others =>
      have declared : name ∈ (properties'.map Prod.snd).flatMap Node.targets ↔
          name ∈ (properties.map Prod.snd).flatMap Node.targets := by
        refine flatMap_targets_iff each fun part member _ related => ?_
        obtain ⟨property, inside, rfl⟩ := List.mem_map.mp member
        exact ih property inside related
      have more : name ∈ Node.additionalTargets additional' ↔
          name ∈ Node.additionalTargets additional := by
        cases others with
        | schema related => exact ihAdd _ rfl related
        | _ => rfl
      simp only [List.flatMap_map] at declared
      simp only [Node.targets_object, List.mem_append, declared, more]
  | union mode branches ih => cases h with
    | oneOf each =>
      simpa using flatMap_targets_iff each fun branch member _ related => ih branch member related
    | @anyOf _ _ branches' length each =>
      have pairs := List.forall₂_iff_zip.mpr ⟨length, each⟩
      simp only [Node.targets_union]
      constructor
      · -- A branch that has become the whole refers to nothing that no branch refers to.
        intro refers
        obtain ⟨branch', inside, refers⟩ := List.mem_flatMap.mp refers
        obtain ⟨branch, member, related⟩ := forall₂_mem_right pairs inside
        rcases related.own_or_whole with own | ⟨-, -, -, member'⟩
        · exact List.mem_flatMap.mpr ⟨branch, member, (ih branch member own).mp refers⟩
        · rwa [targets_of_mem_wholes member'] at refers
      · intro refers
        obtain ⟨branch, inside, refers⟩ := List.mem_flatMap.mp refers
        obtain ⟨branch', member, related⟩ := forall₂_mem_right pairs.flip inside
        rcases related.own_or_whole with own | ⟨token, raw, rfl, -⟩
        · exact List.mem_flatMap.mpr ⟨branch', member, (ih branch inside own).mpr refers⟩
        · simp at refers

end Respelled
end DataSchema
