import DataSchema.Proofs.DeepEqual.Twins
import DataSchema.Proofs.Meaning.Rules

/-!
Checks agree on twins. A check takes both or refuses both, both with an overrun of the budget or
both without, and forms that it accepts are twins again. Issues may come in another order, so of
them only what decides the verdict is compared.
-/
namespace DataSchema

open Json (Twins UpToOrder)

/-! ## Rules -/

/-- Rules on numbers do not see the sign of zero. -/
theorem NumberRule.reasons_canonical (rules : List NumberRule) (x : Binary64) :
    reasons rules x.canonical = reasons rules x := by
  have each : reason? x.canonical = reason? x := by
    funext rule
    cases rule <;> simp [reason?, isMultipleOf]
  rw [reasons, each, reasons]

namespace Json

/-- No value comes twice exactly when no canonical image does. -/
theorem firstRepeat_eq_none_iff_nodup (items : List Json) :
    firstRepeat items = none ↔ (items.map canonical).Nodup := by
  rw [firstRepeat_eq_none_iff, List.Nodup, List.pairwise_map]
  simp only [← Bool.not_eq_true, deepEqual_iff, ne_eq]

end Json

/-- Rules on arrays are broken by both of two arrays of twins, or by none. -/
theorem ArrayRule.reasons_eq_nil_iff_of_twins {items items' : List Json}
    (each : List.Forall₂ Twins items items') (rules : List ArrayRule) :
    reasons rules items = [] ↔ reasons rules items' = [] := by
  have images : items.map Json.canonical = items'.map Json.canonical :=
    map_eq_map_iff_forall₂.mpr
      (each.imp fun v w twins => Json.deepEqual_iff.mp twins.equal)
  have same (rule : ArrayRule) : reason? items rule = none ↔ reason? items' rule = none := by
    cases rule with
    | minItems min => simp [reason?, each.length_eq]
    | maxItems max => simp [reason?, each.length_eq]
    | uniqueItems => simp [reason?, Json.firstRepeat_eq_none_iff_nodup, images]
  simp only [reasons, List.filterMap_eq_nil_iff, same]

namespace Check

/-! ## Issues -/

/-- Issues that are none together, and tell of a budget that is used up together. -/
structure SameWeight (issues issues' : List Issue) : Prop where
  none_iff : issues = [] ↔ issues' = []
  overrun : anyDepthExceeded issues = anyDepthExceeded issues'

namespace SameWeight

variable {issues issues' more more' : List Issue}

theorem refl (issues : List Issue) : SameWeight issues issues := ⟨.rfl, rfl⟩

theorem append (first : SameWeight issues issues') (second : SameWeight more more') :
    SameWeight (issues ++ more) (issues' ++ more') where
  none_iff := by simp only [List.append_eq_nil_iff, first.none_iff, second.none_iff]
  overrun := by simp only [anyDepthExceeded_append, first.overrun, second.overrun]

/-- Plain reasons weigh the same if there are some in both or in none. -/
theorem issuesAt {path : Path} {reasons reasons' : List Reason}
    (plain : ∀ reason ∈ reasons, Reason.isPlain reason = true)
    (plain' : ∀ reason ∈ reasons', Reason.isPlain reason = true)
    (same : reasons = [] ↔ reasons' = []) :
    SameWeight (issuesAt path reasons) (issuesAt path reasons') where
  none_iff := by simpa [Check.issuesAt] using same
  overrun := by
    rw [anyDepthExceeded_issuesAt path _ plain, anyDepthExceeded_issuesAt path _ plain']

/-- Issues of members weigh the same if those of related members do. -/
theorem flatMap {R : Json → Json → Prop} {members members' : Members}
    (related : UpToOrder R members members') {f g : String × Json → List Issue}
    (same : ∀ member other : String × Json, member.1 = other.1 → R member.2 other.2 →
      SameWeight (f member) (g other)) :
    SameWeight (members.flatMap f) (members'.flatMap g) where
  none_iff := by
    simp only [List.flatMap_eq_nil_iff]
    constructor
    · intro none other inside
      obtain ⟨member, inside, name, h⟩ := related.exists_left inside
      exact (same member other name h).none_iff.mp (none member inside)
    · intro none member inside
      obtain ⟨other, inside, name, h⟩ := related.exists_right inside
      exact (same member other name h).none_iff.mpr (none other inside)
  overrun := by
    rw [Bool.eq_iff_iff, anyDepthExceeded_flatMap, anyDepthExceeded_flatMap]
    constructor
    · rintro ⟨member, inside, deep⟩
      obtain ⟨other, inside, name, h⟩ := related.exists_right inside
      exact ⟨other, inside, (same member other name h).overrun ▸ deep⟩
    · rintro ⟨other, inside, deep⟩
      obtain ⟨member, inside, name, h⟩ := related.exists_left inside
      exact ⟨member, inside, (same member other name h).overrun ▸ deep⟩

end SameWeight

/-! ## Results -/

/-- Twins are accepted in both, or there are issues in both, with an overrun in both or in none. -/
inductive Agree : Checked → Checked → Prop
  | accepted {form form' : Json} (twins : Twins form form') : Agree (.ok form) (.ok form')
  | refused {issues issues' : List Issue} (found : issues ≠ []) (found' : issues' ≠ [])
      (overrun : anyDepthExceeded issues = anyDepthExceeded issues') :
      Agree (.error issues) (.error issues')

namespace Agree

variable {result result' : Checked} {path : Path}

theorem rejected (path : Path) {reason reason' : Reason}
    (same : reason.isDepthExceeded = reason'.isDepthExceeded) :
    Agree (reject path reason) (reject path reason') :=
  .refused (by simp) (by simp) (by simp [anyDepthExceeded, Issue.isDepthExceeded, same])

theorem settled {form form' : Json} {issues issues' : List Issue}
    (weight : SameWeight issues issues') (twins : issues = [] → Twins form form') :
    Agree (settle form issues) (settle form' issues') := by
  by_cases none : issues = []
  · obtain rfl := none
    obtain rfl := weight.none_iff.mp rfl
    exact .accepted (twins rfl)
  · have some : issues' ≠ [] := none ∘ weight.none_iff.mpr
    rw [settle, settle, List.isEmpty_eq_false_iff.mpr none, List.isEmpty_eq_false_iff.mpr some]
    exact .refused none some weight.overrun

theorem sameWeight (agree : Agree result result') :
    SameWeight (issuesOf result) (issuesOf result') := by
  cases agree with
  | accepted twins => exact .refl []
  | refused found found' overrun => exact ⟨by simp [found, found'], overrun⟩

/-- An overrun is passed on; past other issues, what comes next decides. -/
theorem unlessOverrun {issues issues' : List Issue} (refused : Agree (.error issues) (.error issues'))
    {next next' : Checked} (later : Agree next next') :
    Agree (if anyDepthExceeded issues then .error issues else next)
      (if anyDepthExceeded issues' then .error issues' else next') := by
  have overrun : anyDepthExceeded issues = anyDepthExceeded issues' := refused.sameWeight.overrun
  rw [overrun]
  split
  · exact refused
  · exact later

end Agree

/-- A step down agrees on twins. -/
def Respects (down : Descent) : Prop :=
  ∀ check v w, Twins v w → ∀ path, Agree (down check v path) (down check w path)

variable {setting : Setting} {down : Descent} {v w : Json} {path : Path}

/-! ## Items and members -/

theorem itemsWith_agree (respects : Respects down) {items items' : List Json}
    (each : List.Forall₂ Twins items items') (check : Check) (path : Path) (index : Nat) :
    SameWeight (itemsWith down check path index items).2
        (itemsWith down check path index items').2 ∧
      ((itemsWith down check path index items).2 = [] →
        List.Forall₂ Twins (itemsWith down check path index items).1
          (itemsWith down check path index items').1) := by
  induction each generalizing index with
  | nil => exact ⟨.refl [], fun _ => .nil⟩
  | @cons item item' rest rest' twins _ ih =>
    obtain ⟨weight, forms⟩ := ih (index + 1)
    have first := respects check item item' twins (path ++ [.index index])
    simp only [itemsWith]
    generalize down check item (path ++ [.index index]) = result at first ⊢
    generalize down check item' (path ++ [.index index]) = result' at first ⊢
    cases first with
    | accepted twins => exact ⟨weight, fun none => .cons twins (forms none)⟩
    | refused found found' overrun =>
      -- A refused item has issues, so that there is nothing to compare of the forms.
      refine ⟨.append ⟨by simp [found, found'], overrun⟩ weight, fun none => ?_⟩
      exact absurd (List.append_eq_nil_iff.mp none).1 found

/-- What is made of one member agrees in all that decides the verdict. -/
structure MembersAgree (result result' : MemberResult) : Prop where
  form : Option.Rel Twins result.form result'.form
  counts : result.counts = result'.counts
  weight : SameWeight result.issues result'.issues

theorem MembersAgree.of_agree {result result' : Checked} (agree : Agree result result') :
    MembersAgree (.of result) (.of result') := by
  cases agree with
  | accepted twins => exact ⟨.some twins, rfl, .refl []⟩
  | refused found found' overrun =>
    exact ⟨.none, rfl, ⟨by simp [MemberResult.of, found, found'], overrun⟩⟩

theorem memberWith_agree (respects : Respects down) (strip : Bool)
    (properties : List (String × Check)) (extra : Extra Check) (path : Path) (name : String)
    (twins : Twins v w) :
    MembersAgree (memberWith strip down properties extra path name v)
      (memberWith strip down properties extra path name w) := by
  cases given : memberCheck? properties extra name with
  | some check =>
    rw [memberWith_of_check given, memberWith_of_check given]
    exact .of_agree (respects check v w twins (path ++ [.key name]))
  | none =>
    rw [memberWith_of_none given, memberWith_of_none given]
    cases extra with
    | allow =>
      cases strip with
      | true => exact ⟨.none, rfl, .refl _⟩
      | false => exact ⟨.some twins, rfl, .refl _⟩
    | _ => exact ⟨.none, rfl, .refl _⟩

/-- Accepted forms of members are those of each member that has one, under its name. -/
theorem membersWith_forms (member : String → Json → MemberResult) (members : Members) :
    (membersWith member members).1 =
      members.filterMap fun m => (member m.1 m.2).form.map (Prod.mk m.1) := by
  induction members with
  | nil => rfl
  | cons head rest ih =>
    rw [List.filterMap_cons, ← ih, membersWith]
    cases (member head.1 head.2).form <;> rfl

/-- Names of accepted forms are names of members, in their order. -/
theorem membersWith_names (member : String → Json → MemberResult) (members : Members) :
    ((membersWith member members).1.map Prod.fst).Sublist (members.map Prod.fst) := by
  induction members with
  | nil => exact .slnil
  | cons head rest ih =>
    rw [membersWith]
    cases (member head.1 head.2).form with
    | none => exact ih.cons _
    | some form => exact ih.cons_cons _

/-- Members in any order give forms in any order, and count alike. -/
theorem membersWith_agree {member : String → Json → MemberResult}
    (agree : ∀ name v w, Twins v w → MembersAgree (member name v) (member name w))
    {members members' : Members} (related : UpToOrder Twins members members') :
    UpToOrder Twins (membersWith member members).1 (membersWith member members').1 ∧
      (membersWith member members).2.1 = (membersWith member members').2.1 ∧
      SameWeight (membersWith member members).2.2 (membersWith member members').2.2 := by
  refine ⟨?_, ?_, ?_⟩
  · rw [membersWith_forms, membersWith_forms]
    exact related.filterMap fun name v w twins => (agree name v w twins).form
  · rw [membersWith_kept, membersWith_kept]
    refine related.countP_eq fun m other name twins => ?_
    rw [name]
    exact (agree other.1 m.2 other.2 twins).counts
  · rw [membersWith_issues, membersWith_issues]
    refine .flatMap related fun m other name twins => ?_
    rw [name]
    exact (agree other.1 m.2 other.2 twins).weight

/-! ## Branches -/

section Branches

variable {branches : List Check}
  (each : ∀ branch ∈ branches,
    Agree (evalWith setting down branch v path) (evalWith setting down branch w path))

include each in
theorem anyOfWith_agree (failures failures' : List (List Issue)) :
    Agree (anyOfWith setting down branches v path failures)
      (anyOfWith setting down branches w path failures') := by
  induction branches generalizing failures failures' with
  | nil => exact .rejected path rfl
  | cons branch rest ih =>
    have first := each branch (by simp)
    have later := ih fun other inside => each other (by simp [inside])
    simp only [anyOfWith]
    generalize evalWith setting down branch v path = result at first ⊢
    generalize evalWith setting down branch w path = result' at first ⊢
    cases first with
    | accepted twins => exact .accepted twins
    | refused found found' overrun =>
      exact .unlessOverrun (.refused found found' overrun) (later _ _)

include each in
theorem oneOfWith_agree (index : Nat) {matched matched' : List (Nat × Json)}
    (forms : List.Forall₂ (fun one other => Twins one.2 other.2) matched matched')
    (failures failures' : List (List Issue)) :
    Agree (oneOfWith setting down branches v path index matched failures)
      (oneOfWith setting down branches w path index matched' failures') := by
  induction branches generalizing index matched matched' failures failures' with
  | nil =>
    simp only [oneOfWith]
    cases forms with
    | nil => exact .rejected path rfl
    | cons twins rest =>
      cases rest with
      | nil => exact .accepted twins
      | cons => exact .rejected path rfl
  | cons branch rest ih =>
    have first := each branch (by simp)
    have later {index : Nat} := @ih (fun other inside => each other (by simp [inside])) index
    simp only [oneOfWith]
    generalize evalWith setting down branch v path = result at first ⊢
    generalize evalWith setting down branch w path = result' at first ⊢
    cases first with
    | accepted twins => exact later (List.rel_append forms (.cons twins .nil)) _ _
    | refused found found' overrun =>
      exact .unlessOverrun (.refused found found' overrun) (later forms _ _)

include each in
theorem allOfWith_agree {outputs outputs' : List Json} (forms : List.Forall₂ Twins outputs outputs')
    {issues issues' : List Issue} (weight : SameWeight issues issues') :
    Agree (allOfWith setting down branches v path outputs issues)
      (allOfWith setting down branches w path outputs' issues') := by
  induction branches generalizing outputs outputs' issues issues' with
  | nil => exact .settled weight fun _ => mergeOutputs_twins forms
  | cons branch rest ih =>
    have first := each branch (by simp)
    have later {outputs outputs' : List Json} :=
      @ih (fun other inside => each other (by simp [inside])) outputs outputs'
    simp only [allOfWith]
    generalize evalWith setting down branch v path = result at first ⊢
    generalize evalWith setting down branch w path = result' at first ⊢
    have more := first.sameWeight
    cases first with
    | accepted twins => exact later (List.rel_append forms (.cons twins .nil)) weight
    | refused found found' overrun =>
      exact .unlessOverrun (.refused found found' overrun) (later forms (weight.append more))

end Branches

/-! ## Checks -/

/-- One level agrees on twins if the steps down do. -/
theorem evalWith_agree (setting : Setting) (respects : Respects down) :
    Respects (evalWith setting down) := by
  intro check
  induction check with
  | any =>
    intro v w twins path
    exact .accepted twins
  | string rules =>
    intro v w twins path
    cases twins.forms with
    | @string s => exact .settled (.refl _) fun _ => twins
    | _ => exact .rejected path rfl
  | number integer rules =>
    intro v w twins path
    cases twins.forms with
    | @number n n' left right same =>
      have integral : n.isIntegral = n'.isIntegral := by
        rw [left.isIntegral_eq, right.isIntegral_eq, ← Binary64.isIntegral_canonical, same,
          Binary64.isIntegral_canonical]
      have reasons : NumberRule.reasons rules n.toBinary64 =
          NumberRule.reasons rules n'.toBinary64 := by
        rw [← NumberRule.reasons_canonical, same, NumberRule.reasons_canonical]
      -- Neither the test for integers nor a rule sees in which of its forms a number comes.
      simp only [evalWith, integral, reasons]
      split
      · exact .rejected path rfl
      · exact .settled (.refl _) fun _ => twins
    | _ => exact .rejected path rfl
  | boolean =>
    intro v w twins path
    cases twins.forms with
    | bool => exact .accepted twins
    | _ => exact .rejected path rfl
  | null =>
    intro v w twins path
    cases twins.forms with
    | null => exact .accepted twins
    | _ => exact .rejected path rfl
  | enum values =>
    intro v w twins path
    have same (allowed : Json) : allowed.deepEqual v = allowed.deepEqual w :=
      Json.deepEqual_congr (Json.deepEqual_refl allowed) twins.equal
    simp only [evalWith, same]
    split
    · exact .accepted twins
    · exact .rejected path rfl
  | array items rules =>
    intro v w twins path
    cases twins.forms with
    | array each =>
      obtain ⟨weight, forms⟩ := itemsWith_agree respects each items path 0
      refine .settled (weight.append (.issuesAt ?_ ?_ ?_)) fun none => ?_
      · exact ArrayRule.reasons_plain rules _
      · exact ArrayRule.reasons_plain rules _
      · exact ArrayRule.reasons_eq_nil_iff_of_twins each rules
      · exact Json.twins_array_iff.mpr (forms (List.append_eq_nil_iff.mp none).1)
    | _ => exact .rejected path rfl
  | object properties required extra rules =>
    intro v w twins path
    cases twins.forms with
    | @object members members' names related =>
      obtain ⟨forms, kept, weight⟩ := membersWith_agree
        (fun name v w twins =>
          memberWith_agree respects setting.stripUnknown properties extra path name twins) related
      have absent : missing required members path = missing required members' path := by
        simp only [missing, related.hasMember_eq]
      simp only [evalWith, absent, kept]
      -- What is missing and how many count does not depend on the order of members.
      refine .settled ((weight.append (.refl _)).append (.refl _)) fun _ => ?_
      exact Json.twins_object_iff.mpr ⟨names.sublist (membersWith_names _ members), forms⟩
    | _ => exact .rejected path rfl
  | union mode branches ih =>
    intro v w twins path
    cases mode with
    | anyOf =>
      simp only [evalWith]
      exact anyOfWith_agree (fun branch inside => ih branch inside v w twins path) [] []
    | oneOf =>
      simp only [evalWith]
      exact oneOfWith_agree (fun branch inside => ih branch inside v w twins path) 0 .nil [] []
  | intersection branches ih =>
    intro v w twins path
    simp only [evalWith]
    exact allOfWith_agree (fun branch inside => ih branch inside v w twins path) .nil (.refl [])
  | negation inner ih =>
    intro v w twins path
    have agree := ih v w twins path
    simp only [evalWith]
    generalize evalWith setting down inner v path = result at agree ⊢
    generalize evalWith setting down inner w path = result' at agree ⊢
    cases agree with
    | accepted => exact .rejected path rfl
    | refused found found' overrun =>
      exact .unlessOverrun (.refused found found' overrun) (.accepted twins)
  | ref slot =>
    intro v w twins path
    simp only [evalWith]
    exact respects _ v w twins path

/-- Whatever the budget, checks agree on twins. -/
theorem run_agree (setting : Setting) (levels : Nat) : Respects (run setting levels) := by
  induction levels with
  | zero => exact fun check v w twins path => .rejected path rfl
  | succ levels ih => exact evalWith_agree setting ih

end Check

/-! ## Outcomes -/

/-- Two outcomes of one verdict: accepted with deep-equal forms, refused because a budget is used
up, or refused for other reasons only. -/
inductive Outcome.SameVerdict : Outcome → Outcome → Prop
  | accepted {form form' : Json} (equal : form.deepEqual form' = true) :
      Outcome.SameVerdict (.accepted form) (.accepted form')
  | overrun {issues issues' : List Issue} (deep : (Outcome.rejected issues).depthExceeded = true)
      (deep' : (Outcome.rejected issues').depthExceeded = true) :
      Outcome.SameVerdict (.rejected issues) (.rejected issues')
  | refused {issues issues' : List Issue} (within : (Outcome.rejected issues).depthExceeded = false)
      (within' : (Outcome.rejected issues').depthExceeded = false) :
      Outcome.SameVerdict (.rejected issues) (.rejected issues')

theorem Check.outcome_sameVerdict (setting : Setting) (check : Check) {v w : Json}
    (twins : Twins v w) : (outcome setting check v).SameVerdict (outcome setting check w) := by
  have agree := run_agree setting (setting.maxDepth + 1) check v w twins []
  unfold outcome
  generalize run setting (setting.maxDepth + 1) check v [] = result at agree ⊢
  generalize run setting (setting.maxDepth + 1) check w [] = result' at agree ⊢
  cases agree with
  | accepted twins => exact .accepted twins.equal
  | @refused issues issues' found found' overrun =>
    cases deep : anyDepthExceeded issues with
    | true => exact .overrun deep (overrun.symm.trans deep)
    | false => exact .refused deep (overrun.symm.trans deep)

namespace Registry

/-- Deep-equal values have the same verdict under every name: both are accepted, with deep-equal
forms, or both are nested too deep, or both are rejected and neither is nested too deep. -/
theorem verdict_of_deepEqual (r : Registry) (name : String) (v w : Json) (left : v.WellFormed)
    (right : w.WellFormed) (equal : v.deepEqual w = true) :
    Option.Rel Outcome.SameVerdict (r.validate? name v) (r.validate? name w) := by
  unfold validate?
  cases r.slot? name with
  | none => exact .none
  | some slot => exact .some (Check.outcome_sameVerdict _ _ ⟨left, right, equal⟩)

/-- Points in a plane, by whole coordinates. -/
def points : Document :=
  ⟨[("Point", .object [("x", .plain .integer), ("y", .plain .integer)] ["x", "y"] {} .deny)], []⟩

/-- The point (1, 0), the second coordinate a float that has a sign. -/
def point : Json := .object [("x", .number (.int 1)), ("y", .number (.float (.finite true 0)))]

/-- The same point with the second coordinate before the first, which is a float now. -/
def turnedPoint : Json := .object [("y", .number (.int 0)), ("x", .number (.float .one))]

/-- Both spellings of a point have one verdict. -/
theorem point_has_one_verdict :
    ∃ r, build {} points = .ok r ∧ point.WellFormed ∧ turnedPoint.WellFormed ∧
      point.deepEqual turnedPoint = true ∧
      Option.Rel Outcome.SameVerdict (r.validate? "Point" point)
        (r.validate? "Point" turnedPoint) := by
  have left : point.WellFormed := by
    refine .object (by decide) ?_
    simp only [List.forall_mem_cons, List.not_mem_nil, false_implies, implies_true, and_true]
    exact ⟨.number (.int (by decide) (by decide)), .number (.float rfl)⟩
  have right : turnedPoint.WellFormed := by
    refine .object (by decide) ?_
    simp only [List.forall_mem_cons, List.not_mem_nil, false_implies, implies_true, and_true]
    exact ⟨.number (.int (by decide) (by decide)), .number (.float rfl)⟩
  have equal : point.deepEqual turnedPoint = true := by decide +kernel
  exact ⟨_, rfl, left, right, equal, verdict_of_deepEqual _ "Point" _ _ left right equal⟩

end Registry
end DataSchema
