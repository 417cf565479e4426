import DataSchema.Check.Evaluate
import DataSchema.Proofs.Related
import DataSchema.Proofs.Tree

/-!
What an evaluation reports. Issues of items and members are those of the parts in their order, and
a conjunction or exclusive choice whose branches keep within the budget is a function of the
results of its branches. An overrun of the budget always comes from a part that has one.
-/
namespace DataSchema

/-! ## Reasons -/

/-- Reasons that tell of a value alone, not of the budget or of what branches have found. -/
def Reason.isPlain : Reason → Bool
  | .depthExceeded _ => false
  | .noBranchMatched _ _ => false
  | _ => true

theorem Reason.within_budget_of_plain {reason : Reason} (plain : reason.isPlain = true) :
    reason.isDepthExceeded = false := by
  cases reason <;> first | rfl | cases plain

theorem StringRule.reasons_plain (rules : List StringRule) (s : String) :
    ∀ reason ∈ StringRule.reasons rules s, Reason.isPlain reason = true := by
  intro reason member
  obtain ⟨rule, -, broken⟩ := List.mem_filterMap.mp member
  cases rule <;>
    simp only [StringRule.reason?, Option.ite_none_left_eq_some, Option.ite_none_right_eq_some,
      Option.some.injEq] at broken <;>
    obtain ⟨-, rfl⟩ := broken <;> rfl

theorem NumberRule.reasons_plain (rules : List NumberRule) (x : Binary64) :
    ∀ reason ∈ NumberRule.reasons rules x, Reason.isPlain reason = true := by
  intro reason member
  obtain ⟨rule, -, broken⟩ := List.mem_filterMap.mp member
  cases rule <;>
    simp only [NumberRule.reason?, Option.ite_none_left_eq_some, Option.ite_none_right_eq_some,
      Option.some.injEq] at broken <;>
    obtain ⟨-, rfl⟩ := broken <;> rfl

theorem ArrayRule.reasons_plain (rules : List ArrayRule) (items : List Json) :
    ∀ reason ∈ ArrayRule.reasons rules items, Reason.isPlain reason = true := by
  intro reason member
  obtain ⟨rule, -, broken⟩ := List.mem_filterMap.mp member
  cases rule with
  | minItems min =>
    obtain ⟨-, found⟩ := Option.ite_none_right_eq_some.mp broken
    cases found
    rfl
  | maxItems max =>
    obtain ⟨-, found⟩ := Option.ite_none_right_eq_some.mp broken
    cases found
    rfl
  | uniqueItems =>
    obtain ⟨places, -, rfl⟩ := Option.map_eq_some_iff.mp broken
    rfl

theorem ObjectRule.reasons_plain (rules : List ObjectRule) (actual : Nat) :
    ∀ reason ∈ ObjectRule.reasons rules actual, Reason.isPlain reason = true := by
  intro reason member
  obtain ⟨rule, -, broken⟩ := List.mem_filterMap.mp member
  cases rule <;>
    simp only [ObjectRule.reason?, Option.ite_none_right_eq_some, Option.some.injEq] at broken <;>
    obtain ⟨-, rfl⟩ := broken <;> rfl

/-! ## Results -/

namespace Check

/-- The issues of a result; an accepted value has none. -/
def issuesOf : Checked → List Issue
  | .ok _ => []
  | .error issues => issues

/-- The form of an accepted value. -/
def formOf? : Checked → Option Json
  | .ok form => some form
  | .error _ => none

/-- A result that tells of a budget that is used up. -/
def Overrun (result : Checked) : Prop := anyDepthExceeded (issuesOf result) = true

@[simp] theorem issuesOf_ok (form : Json) : issuesOf (.ok form) = [] := rfl

@[simp] theorem issuesOf_error (issues : List Issue) : issuesOf (.error issues) = issues := rfl

@[simp] theorem issuesOf_settle (form : Json) (issues : List Issue) :
    issuesOf (settle form issues) = issues := by
  cases issues <;> rfl

@[simp] theorem issuesOf_reject (path : Path) (reason : Reason) :
    issuesOf (reject path reason) = [⟨path, reason⟩] := rfl

@[simp] theorem anyDepthExceeded_nil : anyDepthExceeded [] = false := rfl

@[simp] theorem anyDepthExceeded_append (issues more : List Issue) :
    anyDepthExceeded (issues ++ more) = (anyDepthExceeded issues || anyDepthExceeded more) :=
  List.any_append

theorem anyDepthExceeded_flatMap {α : Type} (list : List α) (f : α → List Issue) :
    anyDepthExceeded (list.flatMap f) = true ↔ ∃ x ∈ list, anyDepthExceeded (f x) = true := by
  simp [anyDepthExceeded]

theorem not_overrun_ok (form : Json) : ¬ Overrun (.ok form) := by simp [Overrun]

theorem overrun_error {issues : List Issue} :
    Overrun (.error issues) ↔ anyDepthExceeded issues = true := Iff.rfl

/-- A rejection for any reason but the budget is no overrun. -/
theorem not_overrun_reject (path : Path) {reason : Reason}
    (other : reason.isDepthExceeded = false) : ¬ Overrun (reject path reason) := by
  simpa [Overrun, anyDepthExceeded, Issue.isDepthExceeded] using other

theorem anyDepthExceeded_issuesAt (path : Path) (reasons : List Reason)
    (plain : ∀ reason ∈ reasons, Reason.isPlain reason = true) :
    anyDepthExceeded (issuesAt path reasons) = false := by
  have within : ∀ reason ∈ reasons, Reason.isDepthExceeded reason = false :=
    fun reason member => Reason.within_budget_of_plain (plain reason member)
  simpa [anyDepthExceeded, issuesAt, Issue.isDepthExceeded] using within

theorem settle_eq_ok_iff {value form : Json} {issues : List Issue} :
    settle value issues = .ok form ↔ issues = [] ∧ value = form := by
  cases issues <;> simp [settle]

theorem settle_eq_error_iff {value : Json} {issues found : List Issue} :
    settle value issues = .error found ↔ issues ≠ [] ∧ issues = found := by
  cases issues <;> simp [settle]

end Check

namespace Check

variable {setting : Setting} {down : Descent} {value : Json} {path : Path}

/-! ## Items and members -/

/-- The issues of items are those of each item in turn, an index at the end of each path. -/
theorem itemsWith_issues (items : Check) (index : Nat) (list : List Json) :
    (itemsWith down items path index list).2 =
      (list.zipIdx index).flatMap fun (item, place) =>
        issuesOf (down items item (path ++ [.index place])) := by
  induction list generalizing index with
  | nil => rfl
  | cons item rest ih =>
    rw [List.zipIdx_cons, List.flatMap_cons, ← ih, itemsWith]
    cases result : down items item (path ++ [.index index]) <;> simp [result]

theorem itemsWith_congr {down' : Descent} {items items' : Check} {index : Nat} {list : List Json}
    (same : ∀ entry ∈ list.zipIdx index, down items entry.1 (path ++ [.index entry.2]) =
      down' items' entry.1 (path ++ [.index entry.2])) :
    itemsWith down items path index list = itemsWith down' items' path index list := by
  induction list generalizing index with
  | nil => rfl
  | cons item rest ih =>
    rw [List.zipIdx_cons] at same
    have first := same (item, index) (by simp)
    have others : itemsWith down items path (index + 1) rest =
        itemsWith down' items' path (index + 1) rest :=
      ih fun entry member => same entry (by simp [member])
    simp only at first
    simp only [itemsWith, first, others]

/-- The check that a member is given: the declared one, or the one for all others. -/
def memberCheck? (properties : List (String × Check)) (extra : Extra Check) (name : String) :
    Option Check :=
  match properties.lookup name with
  | some check => some check
  | none =>
    match extra with
    | .check check => some check
    | _ => none

theorem mem_of_memberCheck? {properties : List (String × Check)} {extra : Extra Check}
    {name : String} {check : Check} (given : memberCheck? properties extra name = some check) :
    (name, check) ∈ properties ∨ extra = .check check := by
  unfold memberCheck? at given
  cases declared : properties.lookup name with
  | some own =>
    simp only [declared, Option.some.injEq] at given
    subst given
    obtain ⟨before, after, rfl, -⟩ := List.lookup_eq_some_iff.mp declared
    exact .inl (by simp)
  | none =>
    cases extra with
    | check own =>
      simp only [declared, Option.some.injEq] at given
      exact .inr (given ▸ rfl)
    | _ => simp [declared] at given

theorem memberWith_of_check {properties : List (String × Check)} {extra : Extra Check}
    {name : String} {check : Check} (given : memberCheck? properties extra name = some check)
    (strip : Bool) :
    memberWith strip down properties extra path name value =
      .of (down check value (path ++ [.key name])) := by
  unfold memberCheck? at given
  unfold memberWith
  cases declared : properties.lookup name with
  | some own =>
    simp only [declared, Option.some.injEq] at given ⊢
    rw [given]
  | none =>
    simp only [declared] at given ⊢
    cases extra <;> cases given
    rfl

theorem memberWith_of_none {properties : List (String × Check)} {extra : Extra Check}
    {name : String} (free : memberCheck? properties extra name = none) (strip : Bool) :
    memberWith strip down properties extra path name value =
      match extra with
      | .allow => if strip then {} else ⟨some value, true, []⟩
      | _ => ⟨none, false, [⟨path ++ [.key name], .unknownProperty name⟩]⟩ := by
  unfold memberCheck? at free
  unfold memberWith
  cases declared : properties.lookup name with
  | some own => simp [declared] at free
  | none =>
    simp only [declared] at free ⊢
    cases extra <;> first | rfl | cases free

theorem MemberResult.of_issues (result : Checked) :
    (MemberResult.of result).issues = issuesOf result := by
  cases result <;> rfl

theorem MemberResult.of_counts (result : Checked) : (MemberResult.of result).counts = true := by
  cases result <;> rfl

theorem membersWith_issues (member : String → Json → MemberResult) (members : Members) :
    (membersWith member members).2.2 = members.flatMap fun m => (member m.1 m.2).issues := by
  induction members with
  | nil => rfl
  | cons head rest ih => rw [List.flatMap_cons, ← ih, membersWith]

theorem membersWith_kept (member : String → Json → MemberResult) (members : Members) :
    (membersWith member members).2.1 = members.countP fun m => (member m.1 m.2).counts := by
  induction members with
  | nil => rfl
  | cons head rest ih => rw [List.countP_cons, ← ih, membersWith]

theorem membersWith_congr {member member' : String → Json → MemberResult} {members : Members}
    (same : ∀ m ∈ members, member m.1 m.2 = member' m.1 m.2) :
    membersWith member members = membersWith member' members := by
  induction members with
  | nil => rfl
  | cons head rest ih =>
    have first := same head (by simp)
    have others := ih fun m belongs => same m (by simp [belongs])
    simp only [membersWith, first, others]

/-- Two descents that agree on the check a member is given agree on what is made of it. -/
theorem memberWith_congr {down' : Descent} {properties : List (String × Check)}
    {extra : Extra Check} {name : String}
    (same : ∀ check, memberCheck? properties extra name = some check →
      down check value (path ++ [.key name]) = down' check value (path ++ [.key name]))
    (strip : Bool) :
    memberWith strip down properties extra path name value =
      memberWith strip down' properties extra path name value := by
  cases given : memberCheck? properties extra name with
  | some check => rw [memberWith_of_check given, memberWith_of_check given, same check given]
  | none => rw [memberWith_of_none given, memberWith_of_none given]

/-! ## Branches -/

/-- The places of the results that accept, with what they accept. -/
def acceptedFrom (index : Nat) : List Checked → List (Nat × Json)
  | [] => []
  | .ok form :: rest => (index, form) :: acceptedFrom (index + 1) rest
  | .error _ :: rest => acceptedFrom (index + 1) rest

/-- The issues of the results that reject, one list for each. -/
def refusals : List Checked → List (List Issue)
  | [] => []
  | .ok _ :: rest => refusals rest
  | .error issues :: rest => issues :: refusals rest

/-- The results of branches on one value. -/
def branchResults (setting : Setting) (down : Descent) (value : Json) (path : Path)
    (branches : List Check) : List Checked :=
  branches.map fun branch => evalWith setting down branch value path

variable (setting down value path) in
/-- A disjunction ends at the first branch that has an overrun or accepts, or every branch of it
rejects. -/
theorem anyOfWith_cases (branches : List Check) (failures : List (List Issue)) :
    (∃ branch ∈ branches, Overrun (evalWith setting down branch value path) ∧
      anyOfWith setting down branches value path failures =
        evalWith setting down branch value path) ∨
    (∃ branch ∈ branches, ∃ form, evalWith setting down branch value path = .ok form ∧
      anyOfWith setting down branches value path failures = .ok form) ∨
    (anyOfWith setting down branches value path failures =
        reject path (.noBranchMatched .anyOf
          (failures ++ refusals (branchResults setting down value path branches))) ∧
      ∀ branch ∈ branches, ∃ issues, evalWith setting down branch value path = .error issues ∧
        anyDepthExceeded issues = false) := by
  induction branches generalizing failures with
  | nil => simp [anyOfWith, branchResults, refusals]
  | cons branch rest ih =>
    cases result : evalWith setting down branch value path with
    | ok form =>
      exact .inr (.inl ⟨branch, by simp, form, result, by simp [anyOfWith, result]⟩)
    | error issues =>
      cases deep : anyDepthExceeded issues with
      | true =>
        refine .inl ⟨branch, by simp, ?_, by simp [anyOfWith, result, deep]⟩
        rw [result]
        exact deep
      | false =>
        have step : anyOfWith setting down (branch :: rest) value path failures =
            anyOfWith setting down rest value path (failures ++ [issues]) := by
          simp [anyOfWith, result, deep]
        rw [step]
        rcases ih (failures ++ [issues]) with ⟨b, member, found⟩ | ⟨b, member, found⟩ | ⟨eq, all⟩
        · exact .inl ⟨b, by simp [member], found⟩
        · exact .inr (.inl ⟨b, by simp [member], found⟩)
        · refine .inr (.inr ⟨?_, ?_⟩)
          · rw [eq]
            simp [branchResults, result, refusals]
          · intro b member
            rcases List.mem_cons.mp member with rfl | member
            · exact ⟨issues, result, deep⟩
            · exact all b member

/-- What an exclusive choice makes of the branches that accept and of the issues of the others. -/
def choose (path : Path) (matched : List (Nat × Json)) (failures : List (List Issue)) : Checked :=
  match matched with
  | [] => reject path (.noBranchMatched .oneOf failures)
  | [(_, form)] => .ok form
  | _ => reject path (.multipleBranchesMatched (matched.map (·.1)))

theorem not_overrun_choose (path : Path) (matched : List (Nat × Json))
    (failures : List (List Issue)) : ¬ Overrun (choose path matched failures) := by
  unfold choose
  split
  · exact not_overrun_reject path rfl
  · exact not_overrun_ok _
  · exact not_overrun_reject path rfl

variable (setting down value path) in
/-- An exclusive choice ends at the first branch with an overrun, or counts those that accept. -/
theorem oneOfWith_cases (branches : List Check) (index : Nat) (matched : List (Nat × Json))
    (failures : List (List Issue)) :
    (∃ branch ∈ branches, Overrun (evalWith setting down branch value path) ∧
      oneOfWith setting down branches value path index matched failures =
        evalWith setting down branch value path) ∨
    ((∀ branch ∈ branches, ¬ Overrun (evalWith setting down branch value path)) ∧
      oneOfWith setting down branches value path index matched failures =
        choose path
          (matched ++ acceptedFrom index (branchResults setting down value path branches))
          (failures ++ refusals (branchResults setting down value path branches))) := by
  induction branches generalizing index matched failures with
  | nil =>
    refine .inr ⟨by simp, ?_⟩
    simp only [branchResults, List.map_nil, acceptedFrom, refusals, List.append_nil]
    rfl
  | cons branch rest ih =>
    cases result : evalWith setting down branch value path with
    | ok form =>
      have step : oneOfWith setting down (branch :: rest) value path index matched failures =
          oneOfWith setting down rest value path (index + 1) (matched ++ [(index, form)])
            failures := by
        simp [oneOfWith, result]
      rw [step]
      rcases ih (index + 1) (matched ++ [(index, form)]) failures with
        ⟨b, member, found⟩ | ⟨within, eq⟩
      · exact .inl ⟨b, by simp [member], found⟩
      · refine .inr ⟨?_, ?_⟩
        · simpa [result, not_overrun_ok] using within
        · simpa [branchResults, result, acceptedFrom, refusals] using eq
    | error issues =>
      cases deep : anyDepthExceeded issues with
      | true =>
        refine .inl ⟨branch, by simp, ?_, by simp [oneOfWith, result, deep]⟩
        rw [result]
        exact deep
      | false =>
        have step : oneOfWith setting down (branch :: rest) value path index matched failures =
            oneOfWith setting down rest value path (index + 1) matched (failures ++ [issues]) := by
          simp [oneOfWith, result, deep]
        rw [step]
        rcases ih (index + 1) matched (failures ++ [issues]) with ⟨b, member, found⟩ | ⟨within, eq⟩
        · exact .inl ⟨b, by simp [member], found⟩
        · refine .inr ⟨?_, ?_⟩
          · simpa [result, overrun_error, deep] using within
          · simpa [branchResults, result, acceptedFrom, refusals] using eq

variable (setting down value path) in
/-- A conjunction ends at the first branch with an overrun, or merges what its branches accept and
collects their issues. -/
theorem allOfWith_cases (branches : List Check) (outputs : List Json) (issues : List Issue) :
    (∃ branch ∈ branches, Overrun (evalWith setting down branch value path) ∧
      allOfWith setting down branches value path outputs issues =
        evalWith setting down branch value path) ∨
    ((∀ branch ∈ branches, ¬ Overrun (evalWith setting down branch value path)) ∧
      allOfWith setting down branches value path outputs issues =
        settle
          (mergeOutputs
            (outputs ++ (branchResults setting down value path branches).filterMap formOf?))
          (issues ++ (branchResults setting down value path branches).flatMap issuesOf)) := by
  induction branches generalizing outputs issues with
  | nil => exact .inr ⟨by simp, by simp [allOfWith, branchResults]⟩
  | cons branch rest ih =>
    cases result : evalWith setting down branch value path with
    | ok form =>
      have step : allOfWith setting down (branch :: rest) value path outputs issues =
          allOfWith setting down rest value path (outputs ++ [form]) issues := by
        simp [allOfWith, result]
      rw [step]
      rcases ih (outputs ++ [form]) issues with ⟨b, member, found⟩ | ⟨within, eq⟩
      · exact .inl ⟨b, by simp [member], found⟩
      · refine .inr ⟨?_, ?_⟩
        · simpa [result, not_overrun_ok] using within
        · simpa [branchResults, result, formOf?] using eq
    | error found =>
      cases deep : anyDepthExceeded found with
      | true =>
        refine .inl ⟨branch, by simp, ?_, by simp [allOfWith, result, deep]⟩
        rw [result]
        exact deep
      | false =>
        have step : allOfWith setting down (branch :: rest) value path outputs issues =
            allOfWith setting down rest value path outputs (issues ++ found) := by
          simp [allOfWith, result, deep]
        rw [step]
        rcases ih outputs (issues ++ found) with ⟨b, member, more⟩ | ⟨within, eq⟩
        · exact .inl ⟨b, by simp [member], more⟩
        · refine .inr ⟨?_, ?_⟩
          · simpa [result, overrun_error, deep] using within
          · simpa [branchResults, result, List.filterMap_cons, formOf?] using eq

/-- An exclusive choice depends on the results of its branches only. -/
theorem oneOfWith_congr {setting' : Setting} {down' : Descent} {branches branches' : List Check}
    (each : List.Forall₂ (fun branch branch' => evalWith setting down branch value path =
      evalWith setting' down' branch' value path) branches branches')
    (index : Nat) (matched : List (Nat × Json)) (failures : List (List Issue)) :
    oneOfWith setting down branches value path index matched failures =
      oneOfWith setting' down' branches' value path index matched failures := by
  induction each generalizing index matched failures with
  | nil => rfl
  | cons same _ ih => simp only [oneOfWith, same, ih]

/-- A conjunction depends on the results of its branches only. -/
theorem allOfWith_congr {setting' : Setting} {down' : Descent} {branches branches' : List Check}
    (each : List.Forall₂ (fun branch branch' => evalWith setting down branch value path =
      evalWith setting' down' branch' value path) branches branches')
    (outputs : List Json) (issues : List Issue) :
    allOfWith setting down branches value path outputs issues =
      allOfWith setting' down' branches' value path outputs issues := by
  induction each generalizing outputs issues with
  | nil => rfl
  | cons same _ ih => simp only [allOfWith, same, ih]

/-! ## Where an overrun comes from -/

/-- Checks that look at the value alone. -/
def isLeaf : Check → Bool
  | .any | .string _ | .number _ _ | .boolean | .null | .enum _ => true
  | _ => false

variable (setting down value path) in
/-- Such a check finds plain reasons only, at the place itself. -/
theorem leaf_issues {check : Check} (isLeaf : check.isLeaf = true) :
    ∃ reasons : List Reason, (∀ reason ∈ reasons, Reason.isPlain reason = true) ∧
      issuesOf (evalWith setting down check value path) = issuesAt path reasons := by
  have rejected (reason : Reason) (plain : reason.isPlain = true) :
      ∃ reasons : List Reason, (∀ reason ∈ reasons, Reason.isPlain reason = true) ∧
        issuesOf (reject path reason) = issuesAt path reasons :=
    ⟨[reason], List.forall_mem_singleton.mpr plain, rfl⟩
  have accepted (form : Json) : ∃ reasons : List Reason,
      (∀ reason ∈ reasons, Reason.isPlain reason = true) ∧
        issuesOf (.ok form) = issuesAt path reasons := ⟨[], nofun, rfl⟩
  cases check with
  | any => exact accepted value
  | string rules =>
    cases value with
    | string s => exact ⟨_, StringRule.reasons_plain rules s, issuesOf_settle _ _⟩
    | _ => exact rejected _ rfl
  | number integer rules =>
    cases value with
    | number n =>
      simp only [evalWith]
      split
      · exact rejected _ rfl
      · exact ⟨_, NumberRule.reasons_plain rules _, issuesOf_settle _ _⟩
    | _ => exact rejected _ rfl
  | boolean => cases value <;> first | exact accepted _ | exact rejected _ rfl
  | null => cases value <;> first | exact accepted _ | exact rejected _ rfl
  | enum values =>
    simp only [evalWith]
    split
    · exact accepted value
    · exact rejected _ rfl
  | _ => cases isLeaf

theorem not_overrun_of_leaf {check : Check} (isLeaf : check.isLeaf = true) :
    ¬ Overrun (evalWith setting down check value path) := by
  obtain ⟨reasons, plain, found⟩ := leaf_issues setting down value path isLeaf
  rw [Overrun, found, anyDepthExceeded_issuesAt path reasons plain]
  exact Bool.false_ne_true

/-- An array has an overrun when one of its items has. -/
theorem overrun_array_iff {items : Check} {rules : List ArrayRule} :
    Overrun (evalWith setting down (.array items rules) value path) ↔
      ∃ list, value = .array list ∧ ∃ entry ∈ list.zipIdx,
        Overrun (down items entry.1 (path ++ [.index entry.2])) := by
  cases value with
  | array list =>
    have clean := anyDepthExceeded_issuesAt path _ (ArrayRule.reasons_plain rules list)
    simp only [evalWith, Overrun, issuesOf_settle, anyDepthExceeded_append, clean,
      itemsWith_issues, Bool.or_false, anyDepthExceeded_flatMap]
    simp
  | _ => simp [evalWith, Overrun, anyDepthExceeded, Issue.isDepthExceeded, Reason.isDepthExceeded]

/-- An object has an overrun when a member has for which there is a check. -/
theorem overrun_object_iff {properties : List (String × Check)} {required : List String}
    {extra : Extra Check} {rules : List ObjectRule} :
    Overrun (evalWith setting down (.object properties required extra rules) value path) ↔
      ∃ members, value = .object members ∧ ∃ member ∈ members, ∃ check,
        memberCheck? properties extra member.1 = some check ∧
        Overrun (down check member.2 (path ++ [.key member.1])) := by
  cases value with
  | object members =>
    have clean (kept : Nat) :=
      anyDepthExceeded_issuesAt path _ (ObjectRule.reasons_plain rules kept)
    have present : anyDepthExceeded (missing required members path) = false := by
      simp [anyDepthExceeded, missing, Issue.isDepthExceeded, Reason.isDepthExceeded]
    have each (member : String × Json) :
        anyDepthExceeded (memberWith setting.stripUnknown down properties extra path
          member.1 member.2).issues = true ↔
        ∃ check, memberCheck? properties extra member.1 = some check ∧
          Overrun (down check member.2 (path ++ [.key member.1])) := by
      cases given : memberCheck? properties extra member.1 with
      | some check => simp [memberWith_of_check given, MemberResult.of_issues, Overrun]
      | none =>
        rw [memberWith_of_none given]
        cases extra with
        | allow => cases setting.stripUnknown <;> simp
        | reject => simp [anyDepthExceeded, Issue.isDepthExceeded, Reason.isDepthExceeded]
        | check check => simp [anyDepthExceeded, Issue.isDepthExceeded, Reason.isDepthExceeded]
    simp only [evalWith, Overrun, issuesOf_settle, anyDepthExceeded_append, clean, present,
      membersWith_issues, Bool.or_false, anyDepthExceeded_flatMap]
    simp only [each, Json.object.injEq, exists_eq_left']
    rfl
  | _ => simp [evalWith, Overrun, anyDepthExceeded, Issue.isDepthExceeded, Reason.isDepthExceeded]

/-- A disjunction has an overrun only when a branch has. -/
theorem Overrun.of_anyOf {branches : List Check} {failures : List (List Issue)}
    (deep : Overrun (anyOfWith setting down branches value path failures)) :
    ∃ branch ∈ branches, Overrun (evalWith setting down branch value path) := by
  rcases anyOfWith_cases setting down value path branches failures with
    ⟨branch, member, found, -⟩ | ⟨branch, -, form, -, eq⟩ | ⟨eq, -⟩
  · exact ⟨branch, member, found⟩
  · rw [eq] at deep
    exact absurd deep (not_overrun_ok form)
  · rw [eq] at deep
    exact absurd deep (not_overrun_reject path rfl)

theorem overrun_oneOf_iff {branches : List Check} {index : Nat} {matched : List (Nat × Json)}
    {failures : List (List Issue)} :
    Overrun (oneOfWith setting down branches value path index matched failures) ↔
      ∃ branch ∈ branches, Overrun (evalWith setting down branch value path) := by
  rcases oneOfWith_cases setting down value path branches index matched failures with
    ⟨branch, member, found, eq⟩ | ⟨within, eq⟩
  · exact ⟨fun _ => ⟨branch, member, found⟩, fun _ => eq ▸ found⟩
  · rw [eq]
    refine ⟨fun deep => absurd deep (not_overrun_choose _ _ _), ?_⟩
    rintro ⟨branch, member, deep⟩
    exact absurd deep (within branch member)

theorem overrun_allOf_iff {branches : List Check} :
    Overrun (allOfWith setting down branches value path [] []) ↔
      ∃ branch ∈ branches, Overrun (evalWith setting down branch value path) := by
  rcases allOfWith_cases setting down value path branches [] [] with
    ⟨branch, member, found, eq⟩ | ⟨within, eq⟩
  · exact ⟨fun _ => ⟨branch, member, found⟩, fun _ => eq ▸ found⟩
  · constructor
    · intro deep
      simp only [eq, Overrun, issuesOf_settle, List.nil_append, anyDepthExceeded_flatMap,
        branchResults, List.mem_map] at deep
      obtain ⟨_, ⟨branch, member, rfl⟩, found⟩ := deep
      exact ⟨branch, member, found⟩
    · rintro ⟨branch, member, deep⟩
      exact absurd deep (within branch member)

/-- A negation has an overrun exactly when the negated check has. -/
theorem overrun_negation_iff {inner : Check} :
    Overrun (evalWith setting down (.negation inner) value path) ↔
      Overrun (evalWith setting down inner value path) := by
  cases result : evalWith setting down inner value path with
  | ok form =>
    simp [evalWith, result, Overrun, anyDepthExceeded, Issue.isDepthExceeded,
      Reason.isDepthExceeded]
  | error issues => cases deep : anyDepthExceeded issues <;> simp [evalWith, result, Overrun, deep]

theorem outcome_eq_accepted_iff {check : Check} {form : Json} :
    outcome setting check value = .accepted form ↔
      run setting (setting.maxDepth + 1) check value [] = .ok form := by
  unfold outcome
  cases run setting (setting.maxDepth + 1) check value [] <;> simp

theorem outcome_eq_rejected_iff {check : Check} {issues : List Issue} :
    outcome setting check value = .rejected issues ↔
      run setting (setting.maxDepth + 1) check value [] = .error issues := by
  unfold outcome
  cases run setting (setting.maxDepth + 1) check value [] <;> simp

theorem depthExceeded_outcome_iff {check : Check} :
    (outcome setting check value).depthExceeded = true ↔
      Overrun (run setting (setting.maxDepth + 1) check value []) := by
  unfold outcome
  cases run setting (setting.maxDepth + 1) check value [] with
  | ok form => simp [Outcome.depthExceeded, Outcome.issues, Overrun]
  | error issues => exact Iff.rfl

/-! ## Rejections have issues -/

/-- One level never rejects without an issue if what references lead to never does. -/
theorem evalWith_ne_error_nil
    (slots : ∀ slot, down (setting.slots.getD slot .any) value path ≠ .error []) (check : Check) :
    evalWith setting down check value path ≠ .error [] := by
  have settled (form : Json) (issues : List Issue) : settle form issues ≠ .error [] := by
    intro empty
    obtain ⟨unclean, clean⟩ := settle_eq_error_iff.mp empty
    exact unclean clean
  have rejected (reason : Reason) : (reject path reason : Checked) ≠ .error [] := by simp [reject]
  induction check with
  | any => simp [evalWith]
  | string rules => cases value <;> first | exact settled _ _ | exact rejected _
  | number integer rules =>
    cases value with
    | number n =>
      simp only [evalWith]
      split
      · exact rejected _
      · exact settled _ _
    | _ => exact rejected _
  | boolean => cases value <;> first | exact rejected _ | simp [evalWith]
  | null => cases value <;> first | exact rejected _ | simp [evalWith]
  | enum values =>
    simp only [evalWith]
    split
    · simp
    · exact rejected _
  | array items rules => cases value <;> first | exact settled _ _ | exact rejected _
  | object properties required extra rules =>
    cases value <;> first | exact settled _ _ | exact rejected _
  | union mode branches ih =>
    cases mode with
    | anyOf =>
      simp only [evalWith]
      rcases anyOfWith_cases setting down value path branches [] with
        ⟨branch, member, -, eq⟩ | ⟨branch, -, form, -, eq⟩ | ⟨eq, -⟩
      · exact eq ▸ ih branch member
      · simp [eq]
      · exact eq ▸ rejected _
    | oneOf =>
      simp only [evalWith]
      rcases oneOfWith_cases setting down value path branches 0 [] [] with
        ⟨branch, member, -, eq⟩ | ⟨-, eq⟩
      · exact eq ▸ ih branch member
      · rw [eq]
        unfold choose
        split <;> simp [reject]
  | intersection branches ih =>
    simp only [evalWith]
    rcases allOfWith_cases setting down value path branches [] [] with
      ⟨branch, member, -, eq⟩ | ⟨-, eq⟩
    · exact eq ▸ ih branch member
    · exact eq ▸ settled _ _
  | negation inner ih =>
    simp only [evalWith]
    split
    · exact rejected _
    · rename_i issues result
      split
      · exact result ▸ ih
      · simp
  | ref slot => exact slots slot

/-- Whatever the budget, a rejection has an issue. -/
theorem run_ne_error_nil (setting : Setting) (levels : Nat) (check : Check) (value : Json)
    (path : Path) : run setting levels check value path ≠ .error [] := by
  induction levels generalizing check value path with
  | zero => simp [run, reject]
  | succ levels ih => exact evalWith_ne_error_nil (fun slot => ih _ value path) check

end Check
end DataSchema
