import DataSchema.Proofs.Forms.Relation
import Mathlib.Data.List.Nodup

/-!
Pruning. With members stripped, an accepted form is the value without some members at any depth:
nothing is added, changed, moved to another name or kept twice, and merged outputs of a conjunction,
each stripped by its own branch, are no exception.
-/
namespace DataSchema
namespace Json

/-- The second value is the first without some of its members, at any depth. Members may come in
another order. -/
inductive PrunedTo : Json → Json → Prop
  | null : PrunedTo .null .null
  | bool {value : Bool} : PrunedTo (.bool value) (.bool value)
  | number {n : Number} : PrunedTo (.number n) (.number n)
  | string {value : String} : PrunedTo (.string value) (.string value)
  | array {items forms : List Json} (each : List.Forall₂ PrunedTo items forms) :
      PrunedTo (.array items) (.array forms)
  | object {members kept : Members} (once : (kept.map Prod.fst).Nodup)
      (known : kept.map Prod.fst ⊆ members.map Prod.fst)
      (each : ∀ name value form, (name, value) ∈ members → (name, form) ∈ kept →
        PrunedTo value form) :
      PrunedTo (.object members) (.object kept)

/-- Under a name that comes once there is one value. -/
theorem eq_of_mem_of_nodup {members : Members} (names : (members.map Prod.fst).Nodup)
    {name : String} {v w : Json} (left : (name, v) ∈ members) (right : (name, w) ∈ members) :
    v = w := by
  have same := List.inj_on_of_nodup_map names left right rfl
  exact congrArg Prod.snd same

/-- Members of which each is pruned, and some are left out. -/
theorem PrunedTo.of_picked {members picked kept : Members} (names : (members.map Prod.fst).Nodup)
    (chosen : picked.Sublist members)
    (each : List.Forall₂ (fun member form => member.1 = form.1 ∧ member.2.PrunedTo form.2)
      picked kept) : PrunedTo (.object members) (.object kept) := by
  have same : picked.map Prod.fst = kept.map Prod.fst :=
    map_eq_map_iff_forall₂.mpr (each.imp fun _ _ related => related.1)
  have sublist : (kept.map Prod.fst).Sublist (members.map Prod.fst) := same ▸ chosen.map Prod.fst
  refine .object (names.sublist sublist) sublist.subset fun name value form inside given => ?_
  obtain ⟨member, among, own, pruned⟩ := forall₂_mem_right each given
  obtain ⟨name', value'⟩ := member
  cases own
  exact eq_of_mem_of_nodup names inside (chosen.subset among) ▸ pruned

/-- A value that JSON has is pruned to itself by leaving out nothing. -/
theorem WellFormed.prunedTo_self {value : Json} (wellFormed : value.WellFormed) :
    value.PrunedTo value := by
  induction wellFormed with
  | null => exact .null
  | bool => exact .bool
  | number _ => exact .number
  | string => exact .string
  | array _ ih => exact .array (List.forall₂_same.mpr ih)
  | object names _ ih =>
    exact .of_picked names (.refl _) (List.forall₂_same.mpr fun member inside =>
      ⟨rfl, ih member inside⟩)

theorem PrunedTo.names {value : Json} {kept : Members} (pruned : value.PrunedTo (.object kept)) :
    (kept.map Prod.fst).Nodup := by
  cases pruned with
  | object once known each => exact once

/-- A pruning takes in what is new in another one. -/
theorem PrunedTo.absorb {members merged : Members} {output : Json}
    (before : PrunedTo (.object members) (.object merged))
    (more : PrunedTo (.object members) output) :
    PrunedTo (.object members) (.object (absorb merged output)) := by
  cases before with
  | object once known each =>
    cases more with
    | object once' known' each' =>
      refine .object (nodup_absorb once once') ?_ fun name value form inside given => ?_
      · rw [Json.absorb, List.map_append, List.append_subset]
        exact ⟨known, List.Subset.trans (List.filter_sublist.map Prod.fst).subset known'⟩
      · rcases List.mem_append.mp given with old | added
        · exact each name value form inside old
        · exact each' name value form inside (List.mem_of_mem_filter added)

/-- Prunings of one value are merged to a pruning of it. -/
theorem PrunedTo.merge {value : Json} {outputs : List Json} (some : outputs ≠ [])
    (each : ∀ output ∈ outputs, value.PrunedTo output) :
    value.PrunedTo (Check.mergeOutputs outputs) := by
  cases outputs with
  | nil => exact absurd rfl some
  | cons output rest =>
    obtain ⟨first, others⟩ := List.forall_mem_cons.mp each
    cases output with
    | object merged =>
      obtain ⟨members, rfl⟩ : ∃ members, value = .object members := by
        cases first
        exact ⟨_, rfl⟩
      rw [Check.mergeOutputs_object merged fun own inside => (others _ inside).names]
      exact List.foldlRecOn (motive := fun merged => PrunedTo (.object members) (.object merged))
        rest Json.absorb first fun merged before output inside =>
          before.absorb (others output inside)
    | _ => exact first

/-- Pruning of values that JSON has is respected by every way to make a form. -/
theorem formRelation_prunedTo (strip : Bool) :
    Check.FormRelation strip fun value form => value.WellFormed → value.PrunedTo form where
  same _ wellFormed := wellFormed.prunedTo_self
  array each wellFormed := .array (forall₂_imp_of_mem each fun item inside _ _ pruned =>
    pruned (wellFormed.items item inside))
  object chosen _ each wellFormed := by
    cases wellFormed with
    | object names parts =>
      refine .of_picked names chosen (forall₂_imp_of_mem each ?_)
      exact fun member inside _ _ related =>
        ⟨related.1, related.2 (parts member (chosen.subset inside))⟩
  merge some each wellFormed := .merge some fun output inside => each output inside wellFormed

end Json

namespace Registry

/-- A document that is well made, or read from a source, accepts values as prunings of themselves if
members are stripped. -/
theorem prunedTo_of_accepted (d : Document)
    (made : d.WellMade ∨ ∃ source, Document.ofJson source = .ok d) (maxDepth : Nat) (r : Registry)
    (built : build ⟨maxDepth, .strip⟩ d = .ok r) (name : String) (value form : Json)
    (wellFormed : value.WellFormed) (accepted : r.validate? name value = some (.accepted form)) :
    value.PrunedTo form := by
  exact related_of_accepted ⟨maxDepth, .strip⟩ (Json.formRelation_prunedTo _) made built accepted
    wellFormed

/-- Parcels, by a rule on where they go and a rule on their weight. -/
def parcels : Document :=
  ⟨[("Parcel", .intersection
      [.object [("to", .object [("name", .plain .string)] [] {} .allow)] [] {} .allow,
        .object [("weight", .plain .number)] [] {} .allow])], []⟩

/-- A parcel with a note on it, to someone with a street. -/
def parcel : Json :=
  .object [("weight", .number (.int 1)), ("note", .null),
    ("to", .object [("street", .string "b"), ("name", .string "a")])]

/-- What both rules say of the parcel, where it goes first. -/
def strippedParcel : Json :=
  .object [("to", .object [("name", .string "a")]), ("weight", .number (.int 1))]

/-- Each rule strips what only the other one knows, and merging brings it back. -/
theorem parcel_is_pruned :
    parcels.WellMade ∧ parcel.WellFormed ∧ ∃ r, build ⟨3, .strip⟩ parcels = .ok r ∧
      r.validate? "Parcel" parcel = some (.accepted strippedParcel) ∧
      parcel.PrunedTo strippedParcel := by
  have made : parcels.WellMade := by
    intro entry member
    obtain rfl := List.mem_singleton.mp member
    refine .intersection (fun rule inside => ?_) rfl
    rcases List.mem_pair.mp inside with rfl | rfl
    · refine .object (fun property declared => ?_) nofun rfl
      obtain rfl := List.mem_singleton.mp declared
      refine .object (fun property declared => ?_) nofun rfl
      obtain rfl := List.mem_singleton.mp declared
      exact .scalar
    · refine .object (fun property declared => ?_) nofun rfl
      obtain rfl := List.mem_singleton.mp declared
      exact .scalar
  have wellFormed : parcel.WellFormed := by
    refine .object (by decide) ?_
    simp only [List.forall_mem_cons, List.not_mem_nil, false_implies, implies_true, and_true]
    refine ⟨.number (.int (by decide) (by decide)), .null, .object (by decide) ?_⟩
    simp only [List.forall_mem_cons, List.not_mem_nil, false_implies, implies_true, and_true]
    exact ⟨.string, .string⟩
  exact ⟨made, wellFormed, _, rfl, rfl, prunedTo_of_accepted parcels (.inl made) 3 _ rfl "Parcel"
    parcel strippedParcel wellFormed rfl⟩

end Registry
end DataSchema
