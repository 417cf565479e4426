import DataSchema.Proofs.Parts
import DataSchema.Proofs.Reading.Relation

/-!
Nodes that are made by the functions for their kinds, which refuse what breaks a rule. Whatever is
read from a source is made so, and its checks have no conjunction of nothing.
-/
namespace DataSchema

/-- At every place the function for the kind of node has made the node. -/
inductive Node.WellMade : Node → Prop
  | scalar {kind format constraints} : WellMade (.scalar kind format constraints)
  | enum {values} (made : enumOf values = .ok (.enum values)) : WellMade (.enum values)
  | array {items count unique} (inner : WellMade items) : WellMade (.array items count unique)
  | object {properties required count additional}
      (each : ∀ property ∈ properties, WellMade property.2)
      (others : ∀ node, additional = .schema node → WellMade node)
      (made : objectOf properties required count additional =
        .ok (.object properties required count additional)) :
      WellMade (.object properties required count additional)
  | union {mode branches} (each : ∀ branch ∈ branches, WellMade branch)
      (made : unionOf mode branches = .ok (.union mode branches)) : WellMade (.union mode branches)
  | intersection {branches} (each : ∀ branch ∈ branches, WellMade branch)
      (made : intersectionOf branches = .ok (.intersection branches)) :
      WellMade (.intersection branches)
  | negation {inner} (part : WellMade inner) : WellMade (.negation inner)
  | reference {name} : WellMade (.reference name)
  | unknown {token raw} : WellMade (.unknown token raw)

/-- All entries are well made. -/
def Document.WellMade (d : Document) : Prop := ∀ entry ∈ d.entries, entry.2.WellMade

namespace Node.WellMade

variable {node : Node}

/-- So is every part. -/
theorem within {part : Node} (made : node.WellMade) (within : part.Within node) :
    part.WellMade := by
  induction within with
  | self => exact made
  | array _ ih =>
    cases made with
    | array inner => exact ih inner
  | property member _ ih =>
    cases made with
    | object each others _ => exact ih (each _ member)
  | additional _ ih =>
    cases made with
    | object each others _ => exact ih (others _ rfl)
  | union member _ ih =>
    cases made with
    | union each _ => exact ih (each _ member)
  | intersection member _ ih =>
    cases made with
    | intersection each _ => exact ih (each _ member)
  | negation _ ih =>
    cases made with
    | negation part => exact ih part

theorem any : Node.any.WellMade := .unknown

/-- Null is let pass by a disjunction of two. -/
theorem orNull (made : node.WellMade) : node.orNull.WellMade := by
  unfold Node.orNull
  split
  · exact made
  · refine .union (fun branch member => ?_) rfl
    rcases List.mem_pair.mp member with rfl | rfl
    · exact made
    · exact .scalar

theorem joined {nodes : List Node} (each : ∀ node ∈ nodes, node.WellMade) :
    (Node.joined nodes).WellMade :=
  match nodes with
  | [] => any
  | [node] => each node List.mem_cons_self
  | _ :: _ :: _ => .union each (unionOf_eq_ok_iff.mpr ⟨by simp, rfl⟩)

end Node.WellMade

/-! ## Reading -/

section Reading

variable {k : Keywords} {node : Node} {kinds : List FindingKind}

/-- All nodes of a list are well made if they are read from schemas that are read so. -/
theorem Each.wellMade {α : Type} {R : α → Node → List FindingKind → Prop} {sources : List α}
    {nodes : List Node} (each : Each R sources nodes kinds)
    (parts : ∀ source node own, R source node own → node.WellMade) :
    ∀ node ∈ nodes, node.WellMade := by
  intro node member
  obtain ⟨source, -, own, -, reads⟩ := each.exists_of_mem member
  exact parts source node own reads

variable {R : Json → Node → List FindingKind → Prop}
  (parts : ∀ source node own, R source node own → node.WellMade)
include parts

theorem ReadsType.wellMade {token : String} (reads : ReadsType R k token node kinds) :
    node.WellMade := by
  cases reads with
  | scalar named => exact .scalar
  | array named given inner => exact .array (parts _ _ _ inner)
  | object named each others declared =>
    refine .object ?_ ?_ (Node.objectOf_eq_ok_iff.mpr ⟨declared, rfl⟩)
    · intro property member
      obtain ⟨source, -, own, -, -, reads⟩ := each.exists_of_mem member
      exact parts _ _ _ reads
    · rintro node rfl
      cases others with
      | schema given other inner => exact parts _ _ _ inner
  | other named => exact .unknown

/-- A node that keywords describe is well made if its parts are. -/
theorem Describes.wellMade (describes : Describes R k node kinds) : node.WellMade := by
  cases describes with
  | reference form named => exact .reference
  | listed form made =>
    cases Node.eq_of_enumOf made
    exact .enum made
  | choice form each enough =>
    exact .union (each.wellMade parts) (Node.unionOf_eq_ok_iff.mpr ⟨enough, rfl⟩)
  | conjunction form each enough =>
    exact .intersection (each.wellMade parts) (Node.intersectionOf_eq_ok_iff.mpr ⟨enough, rfl⟩)
  | negation form part => exact .negation (parts _ _ _ part)
  | typed form each =>
    exact .joined (each.wellMade fun token node own reads => reads.wellMade parts)
  | free form => exact .unknown

end Reading

/-- Whatever is read is well made. -/
theorem Json.Reads.wellMade {v : Json} {node : Node} {kinds : List FindingKind}
    (reads : v.Reads node kinds) : node.WellMade := by
  refine reads.induction (motive := fun _ node _ => node.WellMade) ?_ ?_
  · intro b
    cases b with
    | true => exact .any
    | false => exact .negation .any
  · intro members own more fits describes
    have made : own.WellMade := describes.wellMade fun _ _ _ reads => reads.2
    split
    · exact made.orNull
    · exact made

/-- A document that is read from a source is well made. -/
theorem Document.wellMade_of_ofJson {source : Json} {d : Document} (read : ofJson source = .ok d) :
    d.WellMade := by
  cases source with
  | object root =>
    obtain ⟨⟨path, schemas⟩, -, read⟩ := steps_of_ok read
    obtain ⟨⟨entries, findings⟩, given, same⟩ := steps_of_ok read
    cases same
    intro entry member
    have each := gives_entriesOf_iff.mp ⟨findings, given, rfl⟩
    obtain ⟨schema, -, own, -, -, reads⟩ := each.exists_of_mem member
    exact reads.wellMade
  | _ => cases read

/-! ## Compilation -/

/-- No conjunction at any depth of a check is one of nothing. -/
def Check.Conjoined (check : Check) : Prop :=
  ∀ branches, (Check.intersection branches).Within check → branches ≠ []

/-- Checks of a document that is well made have no conjunction of nothing. -/
theorem Registry.BuiltFrom.conjoined {d : Document} {r : Registry}
    {compiled : List (Compiled Check)} (built : BuiltFrom d r compiled) (made : d.WellMade)
    (slot : Nat) : (r.checks.getD slot .any).Conjoined := by
  intro branches within
  rcases built.exists_within within with any | ⟨entry, member, node, inside, has⟩
  · cases any
  · cases has.form with
    | intersection each =>
      cases (made entry member).within inside with
      | intersection _ made =>
        have enough := (Node.intersectionOf_eq_ok_iff.mp made).1
        rw [each.length_eq] at enough
        exact List.ne_nil_of_length_pos (by omega)

end DataSchema
