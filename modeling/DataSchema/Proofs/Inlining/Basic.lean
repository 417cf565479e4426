import DataSchema.Proofs.Build
import DataSchema.Proofs.Objects
import DataSchema.Proofs.Targets

/-!
Inlining. A reference may be replaced by a copy of the node that it leads to, and references in the
copy stay references, to the same entry even. Replacing one reference is a case of replacing any
number of them side by side. A document keeps what is needed for a build: references have names of
entries, and no references lead to each other in a cycle that did not before.
-/
namespace DataSchema

open Relation

/-! ## One reference -/

/-- The second node is the first with one reference replaced by a copy of the node of its entry. -/
inductive Node.Inlines (d : Document) : Node → Node → Prop
  | reference {name copy} (found : d.node? name = some copy) : Inlines d (.reference name) copy
  | array {items items' count unique} (inner : Inlines d items items') :
      Inlines d (.array items count unique) (.array items' count unique)
  | property {before after name node node' required count additional}
      (part : Inlines d node node') :
      Inlines d (.object (before ++ (name, node) :: after) required count additional)
        (.object (before ++ (name, node') :: after) required count additional)
  | additional {properties required count node node'} (part : Inlines d node node') :
      Inlines d (.object properties required count (.schema node))
        (.object properties required count (.schema node'))
  | union {mode before after branch branch'} (part : Inlines d branch branch') :
      Inlines d (.union mode (before ++ branch :: after)) (.union mode (before ++ branch' :: after))
  | intersection {before after branch branch'} (part : Inlines d branch branch') :
      Inlines d (.intersection (before ++ branch :: after))
        (.intersection (before ++ branch' :: after))
  | negation {inner inner'} (part : Inlines d inner inner') :
      Inlines d (.negation inner) (.negation inner')

/-- The second document is the first with one reference in one entry replaced by a copy of the node
of the entry that it names. -/
def Document.Inlines (d d' : Document) : Prop :=
  ∃ before name node node' after, d.entries = before ++ (name, node) :: after ∧
    d'.entries = before ++ (name, node') :: after ∧ node.Inlines d node'

/-! ## References side by side -/

/-- The second node is the first with any references replaced by copies of the nodes of their
entries. -/
inductive Node.Unfolded (d : Document) : Node → Node → Prop
  | scalar {kind format constraints} :
      Unfolded d (.scalar kind format constraints) (.scalar kind format constraints)
  | enum {values} : Unfolded d (.enum values) (.enum values)
  | array {items items' count unique} (inner : Unfolded d items items') :
      Unfolded d (.array items count unique) (.array items' count unique)
  | object {properties properties' required count additional additional'}
      (declared : properties.map Prod.fst = properties'.map Prod.fst)
      (each : List.Forall₂ (Unfolded d) (properties.map Prod.snd) (properties'.map Prod.snd))
      (others : Additional.Rel (Unfolded d) additional additional') :
      Unfolded d (.object properties required count additional)
        (.object properties' required count additional')
  | union {mode branches branches'} (each : List.Forall₂ (Unfolded d) branches branches') :
      Unfolded d (.union mode branches) (.union mode branches')
  | intersection {branches branches'} (each : List.Forall₂ (Unfolded d) branches branches') :
      Unfolded d (.intersection branches) (.intersection branches')
  | negation {inner inner'} (part : Unfolded d inner inner') :
      Unfolded d (.negation inner) (.negation inner')
  | reference {name} : Unfolded d (.reference name) (.reference name)
  | unknown {token raw} : Unfolded d (.unknown token raw) (.unknown token raw)
  | copy {name node} (found : d.node? name = some node) : Unfolded d (.reference name) node

/-- Entries keep their names and places, and each has any references replaced. -/
def Document.Unfolded (d d' : Document) : Prop :=
  List.Forall₂ (fun entry entry' => entry.1 = entry'.1 ∧ entry.2.Unfolded d entry'.2) d.entries
    d'.entries

namespace Node

variable {d : Document} {node node' : Node}

/-- No reference need be replaced. -/
theorem Unfolded.refl (node : Node) : node.Unfolded d node := by
  induction node with
  | scalar kind format constraints => exact .scalar
  | enum values => exact .enum
  | array items count unique ih => exact .array ih
  | object properties required count additional ih ihAdd =>
    refine .object rfl (List.forall₂_same.mpr fun part member => ?_) (.refl ihAdd)
    obtain ⟨property, inside, rfl⟩ := List.mem_map.mp member
    exact ih property inside
  | union mode branches ih => exact .union (List.forall₂_same.mpr ih)
  | intersection branches ih => exact .intersection (List.forall₂_same.mpr ih)
  | negation inner ih => exact .negation ih
  | reference name => exact .reference
  | unknown token raw => exact .unknown

/-- Replacing one reference leaves the others in place. -/
theorem Inlines.unfolded (inlines : node.Inlines d node') : node.Unfolded d node' := by
  induction inlines with
  | reference found => exact .copy found
  | array _ ih => exact .array ih
  | property _ ih =>
    refine .object (by simp) ?_ (.refl fun other _ => .refl other)
    simp only [List.map_append, List.map_cons]
    exact forall₂_replace .refl ih _ _
  | additional _ ih =>
    exact .object rfl (List.forall₂_same.mpr fun part _ => .refl part) (.schema ih)
  | union _ ih => exact .union (forall₂_replace .refl ih _ _)
  | intersection _ ih => exact .intersection (forall₂_replace .refl ih _ _)
  | negation _ ih => exact .negation ih

/-- A name that is referred to was referred to before, or by the entry that a copy is of. -/
theorem Unfolded.target_cases {name : String} (unfolded : node.Unfolded d node')
    (refers : name ∈ node'.targets) :
    name ∈ node.targets ∨ ∃ entry ∈ d.entries, name ∈ entry.2.targets := by
  have ofParts {branches branches' : List Node}
      (each : List.Forall₂ (Node.Unfolded d) branches branches')
      (ih : ∀ branch ∈ branches, ∀ {branch'}, branch.Unfolded d branch' →
        name ∈ branch'.targets →
          name ∈ branch.targets ∨ ∃ entry ∈ d.entries, name ∈ entry.2.targets)
      (refers : name ∈ branches'.flatMap targets) :
      name ∈ branches.flatMap targets ∨ ∃ entry ∈ d.entries, name ∈ entry.2.targets := by
    obtain ⟨branch', member', refers⟩ := List.mem_flatMap.mp refers
    obtain ⟨branch, member, related⟩ := forall₂_mem_right each member'
    exact (ih branch member related refers).imp_left fun own =>
      List.mem_flatMap.mpr ⟨branch, member, own⟩
  induction node generalizing node' with
  | scalar kind format constraints =>
    cases unfolded
    exact .inl refers
  | enum values =>
    cases unfolded
    exact .inl refers
  | unknown token raw =>
    cases unfolded
    exact .inl refers
  | reference target =>
    cases unfolded with
    | reference => exact .inl refers
    | copy found =>
      obtain ⟨slot, -, place⟩ := Document.slot_iff_node?.mp found
      exact .inr ⟨_, List.mem_of_getElem? place, refers⟩
  | array items count unique ih =>
    cases unfolded with
    | array inner => simpa using ih inner (by simpa using refers)
  | negation inner ih =>
    cases unfolded with
    | negation part => simpa using ih part (by simpa using refers)
  | union mode branches ih =>
    cases unfolded with
    | union each =>
      rw [targets_union] at refers ⊢
      exact ofParts each ih refers
  | intersection branches ih =>
    cases unfolded with
    | intersection each =>
      rw [targets_intersection] at refers ⊢
      exact ofParts each ih refers
  | object properties required count additional ih ihAdd =>
    cases unfolded with
    | object declared each others =>
      simp only [targets_object, List.mem_append] at refers ⊢
      rcases refers with refers | refers
      · have parts : ∀ part ∈ properties.map Prod.snd, ∀ {part'}, part.Unfolded d part' →
            name ∈ part'.targets →
              name ∈ part.targets ∨ ∃ entry ∈ d.entries, name ∈ entry.2.targets := by
          intro part member part' related refers
          obtain ⟨property, inside, rfl⟩ := List.mem_map.mp member
          exact ih property inside related refers
        have given := ofParts each parts (by simpa [List.flatMap_map] using refers)
        exact given.imp_left fun own => .inl (by simpa [List.flatMap_map] using own)
      · cases others with
        | schema related => exact (ihAdd _ rfl related refers).imp_left .inr
        | _ => cases refers

end Node

namespace Document

variable {d d' : Document}

theorem Inlines.unfolded (inlines : d.Inlines d') : d.Unfolded d' := by
  obtain ⟨before, name, node, node', after, split, split', part⟩ := inlines
  unfold Document.Unfolded
  rw [split, split']
  exact forall₂_replace (fun entry => ⟨rfl, .refl entry.2⟩) ⟨rfl, part.unfolded⟩ before after

namespace Unfolded

variable (unfolded : d.Unfolded d')
include unfolded

theorem names : d.names = d'.names :=
  map_eq_map_iff_forall₂.mpr (unfolded.imp fun _ _ related => related.1)

/-- References still have names of entries. -/
theorem resolved (resolved : d.Resolved) : d'.Resolved := by
  rw [Document.resolved_iff] at resolved ⊢
  intro entry' member' name refers
  obtain ⟨entry, member, -, related⟩ := forall₂_mem_right unfolded member'
  rw [← unfolded.names]
  rcases related.target_cases refers with own | ⟨other, inside, own⟩
  · exact resolved entry member name own
  · exact resolved other inside name own

/-- What is nothing but a reference now led to the same entry before, in one or two steps. -/
theorem transGen_aliases {slot target : Nat} (aliases : d'.Aliases slot target) :
    TransGen d.Aliases slot target := by
  obtain ⟨entry, name, place, named⟩ := aliases
  obtain ⟨⟨own, node⟩, place, -, related⟩ := forall₂_getElem? unfolded.flip place
  rw [← unfolded.names] at named
  cases related with
  | reference => exact .single ⟨own, name, place, named⟩
  | @copy between _ found =>
    obtain ⟨middle, named', place'⟩ := Document.slot_iff_node?.mp found
    exact .head ⟨own, between, place, named'⟩ (.single ⟨between, name, place', named⟩)

theorem aliasCycles_eq (acyclic : d.aliasCycles = ∅) : d'.aliasCycles = ∅ := by
  refine Set.eq_empty_of_forall_notMem fun slot onCycle => ?_
  have before : slot ∈ d.aliasCycles :=
    TransGen.closed (fun _ _ aliases => unfolded.transGen_aliases aliases) _ _ onCycle
  rw [acyclic] at before
  exact before

/-- A document still builds after references are replaced. -/
theorem exists_build {options : Options} {r : Registry} (built : Registry.build options d = .ok r) :
    ∃ r', Registry.build options d' = .ok r' :=
  Registry.build_of_no_cycle options (unfolded.resolved (Registry.resolved_of_build built))
    (unfolded.aliasCycles_eq (Registry.aliasCycles_of_build built))

end Unfolded
end Document
end DataSchema
