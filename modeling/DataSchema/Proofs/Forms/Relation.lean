import DataSchema.Proofs.Json.Members
import DataSchema.Proofs.WellMade

/-!
How an accepted form comes from its value. Checking hands on the value itself, puts arrays and
objects together from forms of their parts, or merges several forms of one value. A relation that
each of these respects holds between every value and its form, and the first of them is equality
where no members are stripped.
-/
namespace DataSchema
namespace Check

/-- A relation between values and forms that every way to make a form respects. Members are left out
of an object only if they may be stripped. -/
structure FormRelation (strip : Bool) (R : Json → Json → Prop) : Prop where
  same (value : Json) : R value value
  array {items forms : List Json} (each : List.Forall₂ R items forms) :
    R (.array items) (.array forms)
  object {members picked kept : Members} (chosen : picked.Sublist members)
    (all : strip = false → picked = members)
    (each : List.Forall₂ (fun member form => member.1 = form.1 ∧ R member.2 form.2) picked kept) :
    R (.object members) (.object kept)
  merge {value : Json} {outputs : List Json} (some : outputs ≠ [])
    (each : ∀ output ∈ outputs, R value output) : R value (mergeOutputs outputs)

/-- On a step down the accepted form is related to the value, and a rejection has an issue. -/
structure Relates (R : Json → Json → Prop) (down : Descent) : Prop where
  accepted (check : Check) (conjoined : check.Conjoined) (value : Json) (path : Path) (form : Json)
    (accepts : down check value path = .ok form) : R value form
  rejected (check : Check) (value : Json) (path : Path) : down check value path ≠ .error []

section Steps

variable {R : Json → Json → Prop} {setting : Setting} {down : Descent} {value form : Json}
  {path : Path}

/-- A result that tells no issue, and does not reject without one, accepts. -/
theorem exists_ok_of_issuesOf_eq_nil {result : Checked} (rejected : result ≠ .error [])
    (clean : issuesOf result = []) : ∃ form, result = .ok form := by
  cases result with
  | ok form => exact ⟨form, rfl⟩
  | error issues => exact absurd (congrArg Except.error clean) rejected

/-! ## Items and members -/

/-- Where no item has an issue, the forms are those of the items in their order. -/
theorem itemsWith_forms {items : Check} {index : Nat} {list : List Json}
    (rejected : ∀ value path, down items value path ≠ .error [])
    (clean : (itemsWith down items path index list).2 = []) :
    List.Forall₂ (fun item form => ∃ place, down items item place = .ok form) list
      (itemsWith down items path index list).1 := by
  induction list generalizing index with
  | nil => exact .nil
  | cons item rest ih =>
    simp only [itemsWith] at clean ⊢
    cases result : down items item (path ++ [.index index]) with
    | ok form =>
      simp only [result] at clean ⊢
      exact .cons ⟨_, result⟩ (ih clean)
    | error issues =>
      simp only [result, List.append_eq_nil_iff] at clean
      exact absurd (clean.1 ▸ result) (rejected _ _)

/-- The forms of members are those of the members that have one, in their order. -/
theorem membersWith_picked (member : String → Json → MemberResult) (members : Members) :
    List.Forall₂ (fun m form => m.1 = form.1 ∧ (member m.1 m.2).form = some form.2)
      (members.filter fun m => (member m.1 m.2).form.isSome) (membersWith member members).1 := by
  induction members with
  | nil => exact .nil
  | cons head rest ih =>
    rw [membersWith, List.filter_cons]
    cases made : (member head.1 head.2).form with
    | none => simpa [made] using ih
    | some form =>
      simp only [Option.isSome_some, if_true, Option.toList_some, List.map_cons, List.map_nil,
        List.cons_append, List.nil_append]
      exact .cons ⟨rfl, made⟩ ih

/-- A member has the form that its check accepts, or is kept as it is. -/
theorem form_of_memberWith {strip : Bool} {properties : List (String × Check)}
    {extra : Extra Check} {name : String}
    (made : (memberWith strip down properties extra path name value).form = some form) :
    (∃ check, memberCheck? properties extra name = some check ∧
      down check value (path ++ [.key name]) = .ok form) ∨ form = value := by
  cases given : memberCheck? properties extra name with
  | some check =>
    rw [memberWith_of_check given] at made
    cases result : down check value (path ++ [.key name]) with
    | ok own =>
      rw [result] at made
      cases made
      exact .inl ⟨check, rfl, result⟩
    | error issues => simp [result, MemberResult.of] at made
  | none =>
    rw [memberWith_of_none given] at made
    cases extra with
    | allow =>
      cases strip with
      | true => cases made
      | false =>
        cases made
        exact .inr rfl
    | _ => cases made

/-- A member without an issue has a form unless it may be stripped. -/
theorem memberWith_form_isSome {properties : List (String × Check)} {extra : Extra Check}
    {name : String} (rejected : ∀ check, down check value (path ++ [.key name]) ≠ .error [])
    (clean : (memberWith false down properties extra path name value).issues = []) :
    (memberWith false down properties extra path name value).form.isSome = true := by
  cases given : memberCheck? properties extra name with
  | some check =>
    rw [memberWith_of_check given] at clean ⊢
    obtain ⟨form, result⟩ :=
      exists_ok_of_issuesOf_eq_nil (rejected check) (MemberResult.of_issues _ ▸ clean)
    rw [result]
    rfl
  | none =>
    rw [memberWith_of_none given] at clean ⊢
    cases extra with
    | allow => rfl
    | _ => cases clean

/-! ## Branches -/

/-- What is said to have been accepted is a result. -/
theorem mem_of_mem_acceptedFrom {results : List Checked} {index place : Nat}
    (member : (place, form) ∈ acceptedFrom index results) : .ok form ∈ results := by
  induction results generalizing index with
  | nil => cases member
  | cons result rest ih =>
    cases result with
    | ok own =>
      rcases List.mem_cons.mp member with same | later
      · cases same
        exact List.mem_cons_self
      · exact List.mem_cons_of_mem _ (ih later)
    | error issues => exact List.mem_cons_of_mem _ (ih member)

/-- An exclusive choice accepts what the only branch that accepts does. -/
theorem exists_of_choose_eq_ok {matched : List (Nat × Json)} {failures : List (List Issue)}
    (chosen : choose path matched failures = .ok form) : ∃ place, (place, form) ∈ matched := by
  unfold choose at chosen
  split at chosen
  · cases chosen
  · cases chosen
    exact ⟨_, List.mem_cons_self⟩
  · cases chosen

/-- The forms of results that all accept, in their order. -/
theorem forall₂_formOf? {results : List Checked}
    (accept : ∀ result ∈ results, ∃ form, result = .ok form) :
    List.Forall₂ (fun result form => result = .ok form) results (results.filterMap formOf?) := by
  induction results with
  | nil => exact .nil
  | cons result rest ih =>
    obtain ⟨⟨form, rfl⟩, later⟩ := List.forall_mem_cons.mp accept
    rw [List.filterMap_cons]
    exact .cons rfl (ih later)

/-- A conjunction accepts what the outputs of its branches, all of which accept, are merged to. -/
theorem exists_outputs_of_allOfWith {branches : List Check}
    (rejected : ∀ branch, evalWith setting down branch value path ≠ .error [])
    (accepts : allOfWith setting down branches value path [] [] = .ok form) :
    ∃ outputs, List.Forall₂
        (fun branch output => evalWith setting down branch value path = .ok output)
        branches outputs ∧
      mergeOutputs outputs = form := by
  rcases allOfWith_cases setting down value path branches [] [] with
    ⟨branch, -, deep, eq⟩ | ⟨-, eq⟩
  · rw [← eq, accepts] at deep
    exact absurd deep (not_overrun_ok form)
  · obtain ⟨clean, merged⟩ := settle_eq_ok_iff.mp (eq.symm.trans accepts)
    simp only [List.nil_append, List.flatMap_eq_nil_iff] at clean merged
    refine ⟨_, ?_, merged⟩
    have accept (result : Checked)
        (member : result ∈ branchResults setting down value path branches) :
        ∃ form, result = .ok form := by
      obtain ⟨branch, -, rfl⟩ := List.mem_map.mp member
      exact exists_ok_of_issuesOf_eq_nil (rejected branch) (clean _ member)
    exact List.forall₂_map_left_iff.mp (forall₂_formOf? accept)

section Branches

variable {branches : List Check}
  (each : ∀ branch ∈ branches, ∀ form, evalWith setting down branch value path = .ok form →
    R value form)
include each

theorem anyOfWith_relates {failures : List (List Issue)}
    (accepts : anyOfWith setting down branches value path failures = .ok form) : R value form := by
  rcases anyOfWith_cases setting down value path branches failures with
    ⟨branch, member, -, eq⟩ | ⟨branch, member, own, result, eq⟩ | ⟨eq, -⟩
  · exact each branch member form (eq ▸ accepts)
  · exact each branch member form (result.trans (eq.symm.trans accepts))
  · exact absurd (eq.symm.trans accepts) (by simp [reject])

theorem oneOfWith_relates
    (accepts : oneOfWith setting down branches value path 0 [] [] = .ok form) : R value form := by
  rcases oneOfWith_cases setting down value path branches 0 [] [] with
    ⟨branch, member, -, eq⟩ | ⟨-, eq⟩
  · exact each branch member form (eq ▸ accepts)
  · obtain ⟨place, matched⟩ := exists_of_choose_eq_ok (eq.symm.trans accepts)
    obtain ⟨branch, member, result⟩ := List.mem_map.mp (mem_of_mem_acceptedFrom matched)
    exact each branch member form result

theorem allOfWith_relates (closed : FormRelation setting.stripUnknown R) (some : branches ≠ [])
    (rejected : ∀ branch, evalWith setting down branch value path ≠ .error [])
    (accepts : allOfWith setting down branches value path [] [] = .ok form) : R value form := by
  obtain ⟨outputs, accepted, rfl⟩ := exists_outputs_of_allOfWith rejected accepts
  refine closed.merge ?_ fun output member => ?_
  · exact List.ne_nil_of_length_pos (accepted.length_eq ▸ List.length_pos_iff.mpr some)
  · obtain ⟨branch, among, result⟩ := forall₂_mem_right accepted member
    exact each branch among output result

end Branches

/-! ## Checks -/

/-- An object without issues in its members is related to what is put together of their forms. -/
theorem membersWith_relates (closed : FormRelation setting.stripUnknown R)
    (parts : Relates R down) {properties : List (String × Check)} {required : List String}
    {extra : Extra Check} {rules : List ObjectRule}
    (own : (Check.object properties required extra rules).Conjoined) {members : Members}
    (clean : (membersWith (memberWith setting.stripUnknown down properties extra path)
      members).2.2 = []) :
    R (.object members) (.object
      (membersWith (memberWith setting.stripUnknown down properties extra path) members).1) := by
  rw [membersWith_issues, List.flatMap_eq_nil_iff] at clean
  refine closed.object List.filter_sublist (fun keeps => List.filter_eq_self.mpr ?_)
    ((membersWith_picked _ members).imp fun member form ⟨name, made⟩ => ⟨name, ?_⟩)
  · intro member inside
    have clean := clean member inside
    rw [keeps] at clean ⊢
    exact memberWith_form_isSome (fun check => parts.rejected check _ _) clean
  · rcases form_of_memberWith made with ⟨check, given, result⟩ | same
    · have inner : check.Conjoined := fun branches inside =>
        own branches (.of_memberCheck? given inside required rules)
      exact parts.accepted check inner _ _ _ result
    · exact same ▸ closed.same _

/-- One level accepts related forms if the steps down do. -/
theorem evalWith_relates (closed : FormRelation setting.stripUnknown R)
    (slots : ∀ slot, (setting.slots.getD slot .any).Conjoined) (parts : Relates R down) :
    Relates R (evalWith setting down) := by
  have rejected (check : Check) (value : Json) (path : Path) :
      evalWith setting down check value path ≠ .error [] :=
    evalWith_ne_error_nil (fun slot => parts.rejected _ value path) check
  refine ⟨fun check => ?_, rejected⟩
  have settled {value own form : Json} {issues : List Issue}
      (related : issues = [] → R value own) (accepts : settle own issues = .ok form) :
      R value form := by
    obtain ⟨clean, rfl⟩ := settle_eq_ok_iff.mp accepts
    exact related clean
  have same {value form : Json} {issues : List Issue} (accepts : settle value issues = .ok form) :
      R value form := settled (fun _ => closed.same value) accepts
  have never {value form : Json} {path : Path} {reason : Reason}
      (accepts : reject path reason = .ok form) : R value form := by cases accepts
  induction check with
  | any =>
    intro _ value path form accepts
    cases accepts
    exact closed.same value
  | string rules =>
    intro _ value path form accepts
    cases value with
    | string s => exact same accepts
    | _ => exact never accepts
  | number integer rules =>
    intro _ value path form accepts
    cases value with
    | number n =>
      simp only [evalWith] at accepts
      split at accepts
      · exact never accepts
      · exact same accepts
    | _ => exact never accepts
  | boolean =>
    intro _ value path form accepts
    cases value with
    | bool b =>
      cases accepts
      exact closed.same _
    | _ => exact never accepts
  | null =>
    intro _ value path form accepts
    cases value with
    | null =>
      cases accepts
      exact closed.same _
    | _ => exact never accepts
  | enum values =>
    intro _ value path form accepts
    simp only [evalWith] at accepts
    split at accepts
    · cases accepts
      exact closed.same value
    · exact never accepts
  | array items rules =>
    intro own value path form accepts
    cases value with
    | array list =>
      have inner : items.Conjoined := fun branches inside => own branches (.array inside)
      refine settled (fun clean => closed.array ?_) accepts
      have forms := itemsWith_forms (parts.rejected items) (List.append_eq_nil_iff.mp clean).1
      refine forms.imp fun item form made => ?_
      obtain ⟨place, result⟩ := made
      exact parts.accepted items inner item place form result
    | _ => exact never accepts
  | object properties required extra rules =>
    intro own value path form accepts
    cases value with
    | object members =>
      refine settled (fun clean => membersWith_relates closed parts own ?_) accepts
      exact (List.append_eq_nil_iff.mp (List.append_eq_nil_iff.mp clean).1).1
    | _ => exact never accepts
  | union mode branches ih =>
    intro own value path form accepts
    have each (branch : Check) (member : branch ∈ branches) := ih branch member
      (fun inner inside => own inner (.union member inside)) value path
    cases mode with
    | anyOf => exact anyOfWith_relates each (by simpa [evalWith] using accepts)
    | oneOf => exact oneOfWith_relates each (by simpa [evalWith] using accepts)
  | intersection branches ih =>
    intro own value path form accepts
    have each (branch : Check) (member : branch ∈ branches) := ih branch member
      (fun inner inside => own inner (.intersection member inside)) value path
    refine allOfWith_relates each closed (own branches .self) (rejected · value path) ?_
    simpa [evalWith] using accepts
  | negation inner ih =>
    intro _ value path form accepts
    simp only [evalWith] at accepts
    split at accepts
    · exact never accepts
    · split at accepts
      · cases accepts
      · cases accepts
        exact closed.same value
  | ref slot =>
    intro _ value path form accepts
    exact parts.accepted _ (slots slot) value path form (by simpa [evalWith] using accepts)

/-- Within any budget, accepted forms are related to their values. -/
theorem run_relates (closed : FormRelation setting.stripUnknown R)
    (slots : ∀ slot, (setting.slots.getD slot .any).Conjoined) (levels : Nat) :
    Relates R (run setting levels) := by
  induction levels with
  | zero => exact ⟨fun _ _ _ _ _ accepts => (by cases accepts), run_ne_error_nil setting 0⟩
  | succ levels ih => exact evalWith_relates closed slots ih

end Steps
end Check

namespace Registry

/-- What an entry of a document that is well made, or read from a source, accepts is related to the
value by every relation that the ways to make a form respect. -/
theorem related_of_accepted {R : Json → Json → Prop} (options : Options) {d : Document}
    {r : Registry} (closed : Check.FormRelation (options.unknownKeys = .strip) R)
    (made : d.WellMade ∨ ∃ source, Document.ofJson source = .ok d)
    (built : build options d = .ok r) {name : String} {value form : Json}
    (accepted : r.validate? name value = some (.accepted form)) : R value form := by
  have made : d.WellMade := made.elim id fun ⟨_, read⟩ => Document.wellMade_of_ofJson read
  obtain ⟨compiled, from'⟩ := builtFrom_of_build built
  obtain ⟨slot, -, result⟩ := validate?_eq_accepted_iff.mp accepted
  have conjoined := from'.conjoined made
  have closed : Check.FormRelation r.setting.stripUnknown R := by
    simpa [setting, options_of_build built] using closed
  have relates := Check.run_relates closed conjoined (r.setting.maxDepth + 1)
  exact relates.accepted _ (conjoined slot) value [] form result

end Registry

/-! ## Forms without stripping -/

/-- Equality is respected where nothing is stripped: a merge of equal outputs adds no member. -/
theorem Check.formRelation_eq : FormRelation false Eq where
  same _ := rfl
  array each := congrArg Json.array (List.forall₂_eq_eq_eq ▸ each)
  object _ all each := by
    obtain rfl := all rfl
    have equal := each.imp fun member form same => Prod.ext same.1 same.2
    rw [List.forall₂_eq_eq_eq] at equal
    exact congrArg Json.object equal
  merge some each := (mergeOutputs_eq_of_all_eq some fun output member =>
    (each output member).symm).symm

namespace Registry

/-- A document that is well made, or read from a source, accepts values just as they are if no
members are stripped: an accepted form has the same members in the same order, and the same
representation of every number. -/
theorem form_eq_of_accepted (d : Document)
    (made : d.WellMade ∨ ∃ source, Document.ofJson source = .ok d) (maxDepth : Nat) (r : Registry)
    (built : build ⟨maxDepth, .passthrough⟩ d = .ok r) (name : String) (value form : Json)
    (accepted : r.validate? name value = some (.accepted form)) : form = value := by
  exact (related_of_accepted ⟨maxDepth, .passthrough⟩ Check.formRelation_eq made built
    accepted).symm

-- A conjunction of nothing, which is never made, would accept every value as null.
example :
    (build ⟨0, .passthrough⟩ ⟨[("All", .intersection [])], []⟩).toOption.bind
      (validate? · "All" (.bool true)) = some (.accepted .null) := rfl

/-- Readings of a sensor: what is measured, and when, by a rule each. -/
def measurements : Document :=
  ⟨[("Measurement", .intersection
      [.object [("at", .plain .number)] ["at"] {} .allow,
        .object [("level", .union .oneOf [.plain .number, .plain .null])] [] {} .allow])], []⟩

/-- A measurement that also says by whom it was made. Its time is a float. -/
def measurement : Json :=
  .object [("level", .number (.int 1)), ("by", .array [.string "a"]), ("at", .number (.float .one))]

/-- Merging what both rules accept changes neither the order of members nor the float. -/
theorem measurement_is_accepted_unchanged :
    measurements.WellMade ∧ ∃ r, build ⟨2, .passthrough⟩ measurements = .ok r ∧
      ∃ form, r.validate? "Measurement" measurement = some (.accepted form) ∧
        form = measurement := by
  have made : measurements.WellMade := by
    intro entry member
    obtain rfl := List.mem_singleton.mp member
    refine .intersection (fun rule inside => ?_) rfl
    rcases List.mem_pair.mp inside with rfl | rfl
    · refine .object (fun property declared => ?_) nofun rfl
      obtain rfl := List.mem_singleton.mp declared
      exact .scalar
    · refine .object (fun property declared => ?_) nofun rfl
      obtain rfl := List.mem_singleton.mp declared
      refine .union (fun branch among => ?_) rfl
      rcases List.mem_pair.mp among with rfl | rfl <;> exact .scalar
  exact ⟨made, _, rfl, _, rfl,
    form_eq_of_accepted measurements (.inl made) 2 _ rfl "Measurement" measurement _ rfl⟩

end Registry
end DataSchema
