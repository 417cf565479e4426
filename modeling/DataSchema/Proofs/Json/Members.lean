import DataSchema.Check.Evaluate
import DataSchema.Proofs.Json.WellFormed
import Mathlib.Data.List.Basic

/-!
Members by their names. A name is looked up among all names, and outputs of a conjunction are merged
by names: members of later outputs are added where their names are new.
-/
namespace DataSchema
namespace Json

@[simp] theorem member?_nil (name : String) : member? [] name = none := rfl

@[simp] theorem member?_cons (key : String) (value : Json) (rest : Members) (name : String) :
    member? ((key, value) :: rest) name = if key == name then some value else member? rest name :=
  rfl

@[simp] theorem member?_append (members more : Members) (name : String) :
    member? (members ++ more) name = (member? members name).or (member? more name) := by
  induction members with
  | nil => rfl
  | cons first rest ih =>
    obtain ⟨key, value⟩ := first
    rw [List.cons_append, member?_cons, member?_cons, ih]
    split <;> rfl

/-- Members are kept by their names. -/
theorem member?_filter_name (keeps : String → Bool) (members : Members) (name : String) :
    member? (members.filter fun m => keeps m.1) name =
      if keeps name then member? members name else none := by
  induction members with
  | nil => simp
  | cons first rest ih =>
    obtain ⟨key, value⟩ := first
    by_cases same : key = name
    · subst same
      cases kept : keeps key <;> simp_all
    · cases kept : keeps key <;> simp_all

/-- A member that is set has its value, and others are as they were. -/
theorem member?_put (members : Members) (key : String) (value : Json) (name : String) :
    member? (put members key value) name =
      if key == name then some value else member? members name := by
  induction members with
  | nil => simp [put]
  | cons first rest ih =>
    obtain ⟨own, old⟩ := first
    by_cases same : own = key
    · subst same
      by_cases found : own = name <;> simp [put, found]
    · have other : (own == key) = false := beq_false_of_ne same
      by_cases found : own = name
      · subst found
        have differ : (key == own) = false := beq_false_of_ne (Ne.symm same)
        simp [put, other, differ]
      · simp [put, other, found, ih]

/-- A new name goes to the end. -/
theorem put_of_absent {members : Members} {name : String} (absent : hasMember members name = false)
    (v : Json) : put members name v = members ++ [(name, v)] := by
  induction members with
  | nil => rfl
  | cons first rest ih =>
    obtain ⟨key, old⟩ := first
    unfold hasMember at absent ih
    rw [member?_cons] at absent
    rw [put]
    split at absent
    · cases absent
    · next other =>
      rw [if_neg other, ih absent, List.cons_append]

/-- There is a member of a name exactly when the name is one of the members' names. -/
theorem hasMember_iff {members : Members} {name : String} :
    hasMember members name = true ↔ name ∈ members.map Prod.fst := by
  unfold hasMember
  induction members with
  | nil => simp [member?]
  | cons head rest ih =>
    rw [member?]
    by_cases same : head.1 = name
    · simp [same]
    · simpa [same, Ne.symm same] using ih

/-- Members of an output that is an object and that are new. -/
def absorb (merged : Members) : Json → Members
  | .object members => merged ++ members.filter fun member => !hasMember merged member.1
  | _ => merged

/-- Adding members one by one adds those that are new, as long as no name comes twice. -/
theorem foldl_add_eq {members : Members} (names : (members.map Prod.fst).Nodup)
    (merged : Members) :
    members.foldl (fun all (name, value) =>
        if hasMember all name then all else all ++ [(name, value)]) merged =
      merged ++ members.filter fun member => !hasMember merged member.1 := by
  induction members generalizing merged with
  | nil => simp
  | cons member rest ih =>
    obtain ⟨fresh, names⟩ := List.nodup_cons.mp names
    rw [List.foldl_cons, ih names]
    cases known : hasMember merged member.1 with
    | true => simp [known]
    | false =>
      -- The member that is added hides none of those after it, whose names are other ones.
      have same : (rest.filter fun other => !hasMember (merged ++ [member]) other.1) =
          rest.filter fun other => !hasMember merged other.1 := by
        refine List.filter_congr fun other inside => ?_
        have differ : other.1 ≠ member.1 := fun same =>
          fresh (same ▸ List.mem_map_of_mem inside)
        rw [Bool.not_inj_iff, Bool.eq_iff_iff, hasMember_iff, hasMember_iff]
        simp [differ]
      simp [known, same]

/-- Nothing is added where all names are known, even if one comes twice. -/
theorem foldl_add_known {members merged : Members}
    (known : members.map Prod.fst ⊆ merged.map Prod.fst) :
    members.foldl (fun all (name, value) =>
        if hasMember all name then all else all ++ [(name, value)]) merged = merged := by
  induction members with
  | nil => rfl
  | cons member rest ih =>
    have first : hasMember merged member.1 = true := hasMember_iff.mpr (known (by simp))
    rw [List.foldl_cons]
    dsimp only
    rw [if_pos first]
    exact ih fun name inside => known (List.mem_cons_of_mem _ inside)

theorem nodup_absorb {members merged : Members} (known : (merged.map Prod.fst).Nodup)
    (names : (members.map Prod.fst).Nodup) :
    ((absorb merged (.object members)).map Prod.fst).Nodup := by
  rw [absorb, List.map_append, List.nodup_append]
  refine ⟨known, names.sublist (List.filter_sublist.map Prod.fst), ?_⟩
  rintro name inside _ added rfl
  obtain ⟨member, chosen, rfl⟩ := List.mem_map.mp added
  have fresh := (List.mem_filter.mp chosen).2
  rw [hasMember_iff.mpr inside] at fresh
  cases fresh

end Json

namespace Check

open Json

/-- An object takes in the outputs after it. -/
theorem mergeOutputs_object {outputs : List Json} (first : Members)
    (names : ∀ members, .object members ∈ outputs → (members.map Prod.fst).Nodup) :
    mergeOutputs (.object first :: outputs) = .object (outputs.foldl absorb first) := by
  rw [mergeOutputs]
  congr 1
  refine List.foldl_ext _ _ _ ?_
  intro merged output inside
  cases output with
  | object members => exact foldl_add_eq (names members inside) merged
  | _ => rfl

/-- Outputs that are all one value are merged to that value. -/
theorem mergeOutputs_eq_of_all_eq {outputs : List Json} {value : Json} (some : outputs ≠ [])
    (all : ∀ output ∈ outputs, output = value) : mergeOutputs outputs = value := by
  cases outputs with
  | nil => exact absurd rfl some
  | cons output rest =>
    obtain ⟨rfl, others⟩ := List.forall_mem_cons.mp all
    cases output with
    | object first =>
      rw [mergeOutputs]
      congr 1
      clear some all
      induction rest with
      | nil => rfl
      | cons next rest ih =>
        obtain ⟨rfl, later⟩ := List.forall_mem_cons.mp others
        rw [List.foldl_cons]
        dsimp only
        rw [foldl_add_known (List.Subset.refl _)]
        exact ih later
    | _ => rfl

end Check
end DataSchema
