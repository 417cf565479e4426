import DataSchema.Proofs.Forms.Pruning
import DataSchema.Proofs.Places

/-!
What a conjunction keeps. The outputs of its branches are merged by the names of their outermost
members, and whatever stands under a name is that of the first output that has the name. So no
branch drops an outermost member that another one keeps, but below that the first branch that keeps
a member decides alone what is stripped of it.
-/
namespace DataSchema
namespace Json

variable {value form : Json} {segment : Segment}

/-! ## Objects -/

/-- Names that are new have the same member among those members that are new. -/
theorem member?_filter_new {members merged : Members} {name : String}
    (fresh : member? merged name = none) :
    member? (members.filter fun member => !hasMember merged member.1) name =
      member? members name := by
  rw [member?_filter_name (fun key => !hasMember merged key)]
  simp [hasMember, fresh]

/-- What is absorbed stands under the names that were not taken. -/
theorem member?_absorb (merged : Members) (output : Json) (name : String) :
    member? (absorb merged output) name =
      (member? merged name).or (output.child? (.key name)) := by
  cases output with
  | object members =>
    rw [absorb, member?_append, child?]
    cases known : member? merged name with
    | some own => rfl
    | none => rw [member?_filter_new known]
  | _ => exact (Option.or_none).symm

/-- Under a name stands what the first output with the name has there. -/
theorem member?_foldl_absorb (merged : Members) (outputs : List Json) (name : String) :
    member? (outputs.foldl absorb merged) name =
      (member? merged name).or (outputs.findSome? fun output => output.child? (.key name)) := by
  induction outputs generalizing merged with
  | nil => exact (Option.or_none).symm
  | cons output rest ih =>
    rw [List.foldl_cons, ih, member?_absorb, Option.or_assoc, List.findSome?_cons]
    cases output.child? (.key name) <;> rfl

/-! ## Values of one kind -/

/-- Only an object has less children for being pruned: an array keeps its length. -/
theorem PrunedTo.child?_isSome (pruned : value.PrunedTo form)
    (other : value.kind = .object → ∃ place, segment = .index place) :
    (form.child? segment).isSome = (value.child? segment).isSome := by
  cases pruned with
  | object once known each =>
    obtain ⟨place, rfl⟩ := other rfl
    rfl
  | array each =>
    cases segment with
    | key name => rfl
    | index place =>
      rw [Bool.eq_iff_iff]
      simp [child?, each.length_eq]
  | _ => rfl

/-- Where prunings all have a child or all have none, the first of them is as good as any. -/
theorem findSome?_child?_of_pruned {output : Json} {rest : List Json}
    (each : ∀ own ∈ output :: rest, value.PrunedTo own)
    (other : value.kind = .object → ∃ place, segment = .index place) :
    ((output :: rest).findSome? fun own => own.child? segment) = output.child? segment := by
  rw [List.findSome?_cons]
  cases found : output.child? segment with
  | some child => rfl
  | none =>
    refine List.findSome?_eq_none_iff.mpr fun own inside => ?_
    have first := (each output List.mem_cons_self).child?_isSome other
    have later := (each own (List.mem_cons_of_mem _ inside)).child?_isSome other
    rw [← first, found] at later
    exact Option.isNone_iff_eq_none.mp (by simpa using later)

end Json

namespace Check

open Json

/-- Merged prunings of one value have at a segment what the first of them has there that has
anything. -/
theorem child?_mergeOutputs {value : Json} {outputs : List Json} (some : outputs ≠ [])
    (each : ∀ output ∈ outputs, value.PrunedTo output) (segment : Segment) :
    (mergeOutputs outputs).child? segment =
      outputs.findSome? fun output => output.child? segment := by
  cases outputs with
  | nil => exact absurd rfl some
  | cons output rest =>
    have first := each output List.mem_cons_self
    cases output with
    | object merged =>
      have names (members : Members) (inside : Json.object members ∈ rest) :
          (members.map Prod.fst).Nodup :=
        (each _ (List.mem_cons_of_mem _ inside)).names
      rw [mergeOutputs_object merged names]
      cases segment with
      | key name =>
        rw [child?, member?_foldl_absorb, List.findSome?_cons, child?]
        cases member? merged name <;> rfl
      | index place => exact (findSome?_child?_of_pruned each fun _ => ⟨place, rfl⟩).symm
    | _ =>
      -- The value is no object either, and the first output stands for all.
      refine (findSome?_child?_of_pruned each fun object => ?_).symm
      cases first
      cases object

end Check

namespace Registry

/-- What a conjunction in a document that is well made, or read from a source, accepts while members
are stripped has at every place what the first output of its branches has there that has anything
at the first segment of the place. So it has all members and items of all outputs. -/
theorem places_of_conjunction (d : Document)
    (made : d.WellMade ∨ ∃ source, Document.ofJson source = .ok d) (maxDepth : Nat) (r : Registry)
    (built : build ⟨maxDepth, .strip⟩ d = .ok r) (slot : Nat) (branches : List Check)
    (within : (Check.intersection branches).Within (r.checks.getD slot .any)) (levels : Nat)
    (value : Json) (wellFormed : value.WellFormed) (path : Path) (form : Json)
    (accepted : Check.run r.setting levels (.intersection branches) value path = .ok form) :
    ∃ outputs, List.Forall₂
        (fun branch output => Check.run r.setting levels branch value path = .ok output)
        branches outputs ∧
      (∀ segment rest, form.at? (segment :: rest) =
        (outputs.findSome? fun output => output.child? segment).bind fun child =>
          child.at? rest) ∧
      ∀ output ∈ outputs, ∀ segment, (output.child? segment).isSome = true →
        (form.child? segment).isSome = true := by
  have made : d.WellMade := made.elim id fun ⟨_, read⟩ => Document.wellMade_of_ofJson read
  obtain ⟨compiled, from'⟩ := builtFrom_of_build built
  have conjoined := from'.conjoined made
  have relates := Check.run_relates (Json.formRelation_prunedTo r.setting.stripUnknown) conjoined
    levels
  cases levels with
  | zero => cases accepted
  | succ levels =>
    have accepts : Check.allOfWith r.setting (Check.run r.setting levels) branches value path [] []
        = .ok form := by
      simpa [Check.run, Check.evalWith] using accepted
    obtain ⟨outputs, results, rfl⟩ := Check.exists_outputs_of_allOfWith
      (fun branch => relates.rejected branch value path) accepts
    have pruned (output : Json) (member : output ∈ outputs) : value.PrunedTo output := by
      obtain ⟨branch, among, result⟩ := forall₂_mem_right results member
      have own : branch.Conjoined := fun inner inside =>
        conjoined slot inner ((Check.Within.intersection among inside).trans within)
      exact relates.accepted branch own value path output result wellFormed
    have some : outputs ≠ [] := by
      rintro rfl
      cases results
      exact conjoined slot [] within rfl
    have law := Check.child?_mergeOutputs some pruned
    refine ⟨outputs, results, fun segment rest => by rw [Json.at?_cons, law], ?_⟩
    intro output member segment kept
    rw [law, List.findSome?_isSome_iff]
    exact ⟨output, member, kept⟩

/-- Letters, by a rule on whom they go to and a rule on where they go. -/
def letters : Document :=
  ⟨[("Letter", .intersection
      [.object [("to", .object [("name", .plain .string)] [] {} .allow)] [] {} .allow,
        .object [("to", .object [("street", .plain .string)] [] {} .allow),
          ("stamp", .plain .number)] [] {} .allow])], []⟩

/-- A letter to someone in a street, with a stamp and a note on it. -/
def letter : Json :=
  .object [("to", .object [("name", .string "a"), ("street", .string "b")]),
    ("stamp", .number (.int 1)), ("note", .null)]

/-- What the first rule has not kept of the letter is there as the second rule has it. -/
theorem letter_keeps_its_stamp :
    letters.WellMade ∧ letter.WellFormed ∧ ∃ r, build ⟨3, .strip⟩ letters = .ok r ∧
      ∃ branches, (Check.intersection branches).Within (r.checks.getD 0 .any) ∧
      ∃ form, Check.run r.setting 4 (.intersection branches) letter [] = .ok form ∧
        form.at? [.key "stamp"] = some (.number (.int 1)) := by
  have made : letters.WellMade := by
    intro entry member
    obtain rfl := List.mem_singleton.mp member
    refine .intersection (fun rule inside => ?_) rfl
    rcases List.mem_pair.mp inside with rfl | rfl
    · refine .object (fun property declared => ?_) nofun rfl
      obtain rfl := List.mem_singleton.mp declared
      refine .object (fun property declared => ?_) nofun rfl
      obtain rfl := List.mem_singleton.mp declared
      exact .scalar
    · refine .object (fun property declared => ?_) nofun rfl
      rcases List.mem_pair.mp declared with rfl | rfl
      · refine .object (fun property declared => ?_) nofun rfl
        obtain rfl := List.mem_singleton.mp declared
        exact .scalar
      · exact .scalar
  have wellFormed : letter.WellFormed := by
    refine .object (by decide) ?_
    simp only [List.forall_mem_cons, List.not_mem_nil, false_implies, implies_true, and_true]
    refine ⟨.object (by decide) ?_, .number (.int (by decide) (by decide)), .null⟩
    simp only [List.forall_mem_cons, List.not_mem_nil, false_implies, implies_true, and_true]
    exact ⟨.string, .string⟩
  obtain ⟨outputs, results, law, -⟩ := places_of_conjunction letters (.inl made) 3 _ rfl 0 _ .self 4
    letter wellFormed [] _ rfl
  refine ⟨made, wellFormed, _, rfl, _, .self, _, rfl, (law (.key "stamp") []).trans ?_⟩
  cases results with
  | cons first results =>
    cases results with
    | cons second results =>
      cases results
      cases first
      cases second
      rfl

/-- What the second rule keeps below a member that the first rule has kept is lost. -/
theorem letter_loses_its_street :
    ∃ r, build ⟨3, .strip⟩ letters = .ok r ∧
      ∃ first second, r.checks.getD 0 .any = .intersection [first, second] ∧
      ∃ form, Check.run r.setting 4 (.intersection [first, second]) letter [] = .ok form ∧
      ∃ output, Check.run r.setting 4 second letter [] = .ok output ∧
        (output.at? [.key "to", .key "street"]).isSome = true ∧
        form.at? [.key "to", .key "street"] = none :=
  ⟨_, rfl, _, _, rfl, _, rfl, _, rfl, rfl, rfl⟩

end Registry
end DataSchema
