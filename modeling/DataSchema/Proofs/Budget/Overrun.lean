import DataSchema.Proofs.Issues.Basic

/-!
How an overrun of the budget is told. A combination hands the value on at its own place, and what it
tells of an overrun is what the first part with one has told, as it is. So no overrun is hidden
among the failures of branches, and where nothing steps down into the value all that is told of an
overrun is the budget.
-/
namespace DataSchema

/-- Checks that hand the value on to others at its own place. -/
def Check.combines : Check → Bool
  | .union _ _ | .intersection _ | .negation _ | .ref _ => true
  | _ => false

namespace Check

/-- The results of what a check hands the value on to: those of its branches in their order, of the
negated check, or of the check in a slot. -/
def partResults (setting : Setting) (down : Descent) (value : Json) (path : Path) :
    Check → List Checked
  | .union _ branches => branchResults setting down value path branches
  | .intersection branches => branchResults setting down value path branches
  | .negation inner => [evalWith setting down inner value path]
  | .ref slot => [down (setting.slots.getD slot .any) value path]
  | _ => []

/-- The first result that tells of an overrun. -/
def firstOverrun (results : List Checked) : Option Checked :=
  results.find? fun result => anyDepthExceeded (issuesOf result)

/-- An overrun is told as it is, and anything else is told by what follows. -/
theorem firstOverrun_error_cons {issues : List Issue} {rest : List Checked} {next : Checked}
    (later : anyDepthExceeded issues = false → Overrun next → firstOverrun rest = some next)
    (deep : Overrun (if anyDepthExceeded issues then .error issues else next)) :
    firstOverrun (.error issues :: rest) =
      some (if anyDepthExceeded issues then .error issues else next) := by
  rw [firstOverrun, List.find?_cons, issuesOf_error, ← firstOverrun]
  cases own : anyDepthExceeded issues with
  | true => rfl
  | false =>
    rw [own] at deep
    exact later own deep

variable {setting : Setting} {down : Descent} {value : Json} {path : Path}

/-! ## The first part with an overrun -/

section Branches

variable {branches : List Check}

theorem firstOverrun_of_anyOf {failures : List (List Issue)}
    (deep : Overrun (anyOfWith setting down branches value path failures)) :
    firstOverrun (branchResults setting down value path branches) =
      some (anyOfWith setting down branches value path failures) := by
  induction branches generalizing failures with
  | nil => exact absurd deep (not_overrun_reject path rfl)
  | cons branch rest ih =>
    rw [branchResults, List.map_cons, ← branchResults]
    rw [anyOfWith] at deep ⊢
    cases result : evalWith setting down branch value path with
    | ok form =>
      rw [result] at deep
      exact absurd deep (not_overrun_ok form)
    | error issues =>
      rw [result] at deep
      exact firstOverrun_error_cons (fun _ => ih) deep

theorem firstOverrun_of_oneOf {index : Nat} {matched : List (Nat × Json)}
    {failures : List (List Issue)}
    (deep : Overrun (oneOfWith setting down branches value path index matched failures)) :
    firstOverrun (branchResults setting down value path branches) =
      some (oneOfWith setting down branches value path index matched failures) := by
  induction branches generalizing index matched failures with
  | nil => exact absurd deep (not_overrun_choose path matched failures)
  | cons branch rest ih =>
    rw [branchResults, List.map_cons, ← branchResults]
    rw [oneOfWith] at deep ⊢
    cases result : evalWith setting down branch value path with
    | ok form =>
      rw [result] at deep
      exact ih deep
    | error issues =>
      rw [result] at deep
      exact firstOverrun_error_cons (fun _ => ih) deep

/-- The issues of the branches before are no part of what is told. -/
theorem firstOverrun_of_allOf {outputs : List Json} {issues : List Issue}
    (clean : anyDepthExceeded issues = false)
    (deep : Overrun (allOfWith setting down branches value path outputs issues)) :
    firstOverrun (branchResults setting down value path branches) =
      some (allOfWith setting down branches value path outputs issues) := by
  induction branches generalizing outputs issues with
  | nil =>
    rw [Overrun, allOfWith, issuesOf_settle, clean] at deep
    cases deep
  | cons branch rest ih =>
    rw [branchResults, List.map_cons, ← branchResults]
    rw [allOfWith] at deep ⊢
    cases result : evalWith setting down branch value path with
    | ok form =>
      rw [result] at deep
      exact ih clean deep
    | error found =>
      rw [result] at deep
      exact firstOverrun_error_cons (fun own => ih (by simp [clean, own])) deep

end Branches

/-- What a combination tells of an overrun is the result of the first part that tells of one. -/
theorem firstOverrun_of_combination {check : Check} (combines : check.combines = true)
    (deep : Overrun (evalWith setting down check value path)) :
    firstOverrun (partResults setting down value path check) =
      some (evalWith setting down check value path) := by
  cases check with
  | union mode branches =>
    cases mode with
    | anyOf => exact firstOverrun_of_anyOf deep
    | oneOf => exact firstOverrun_of_oneOf deep
  | intersection branches => exact firstOverrun_of_allOf rfl deep
  | negation inner =>
    rw [partResults]
    rw [evalWith] at deep ⊢
    cases result : evalWith setting down inner value path with
    | ok form =>
      rw [result] at deep
      exact absurd deep (not_overrun_reject path rfl)
    | error issues =>
      rw [result] at deep
      exact firstOverrun_error_cons (fun _ accepted => absurd accepted (not_overrun_ok value)) deep
  | ref slot => exact List.find?_cons_of_pos deep
  | _ => cases combines

/-! ## Failures of branches -/

end Check

/-- No failures in the issue, at any depth, tell of an overrun. -/
def Issue.HidesNoOverrun (issue : Issue) : Prop :=
  ∀ part : Issue, part.Within issue → ∀ mode failures,
    part.reason = .noBranchMatched mode failures →
    ∀ found ∈ failures, Check.anyDepthExceeded found = false

namespace Issue.HidesNoOverrun

variable {path : Path}

/-- An issue without failures hides none. -/
theorem of_plain {reason : Reason} (plain : reason.isPlain = true) :
    HidesNoOverrun ⟨path, reason⟩ := by
  intro part inside mode failures same
  cases inside with
  | self =>
    subst same
    cases plain
  | failure => cases plain

theorem of_overrun {limit : Nat} : HidesNoOverrun ⟨path, .depthExceeded limit⟩ := by
  intro part inside mode failures same
  cases inside
  cases same

/-- One with failures hides none if they tell of none and hide none. -/
theorem of_failures {mode : UnionMode} {failures : List (List Issue)}
    (told : ∀ found ∈ failures, Check.anyDepthExceeded found = false)
    (hidden : ∀ found ∈ failures, ∀ issue ∈ found, issue.HidesNoOverrun) :
    HidesNoOverrun ⟨path, .noBranchMatched mode failures⟩ := by
  intro part inside mode' failures' same
  cases inside with
  | self =>
    cases same
    exact told
  | failure among member inside => exact hidden _ among _ member part inside mode' failures' same

end Issue.HidesNoOverrun

namespace Check

/-- No issue of a result hides an overrun. -/
def HidesNoOverrun (result : Checked) : Prop := ∀ issue ∈ issuesOf result, issue.HidesNoOverrun

theorem hidesNoOverrun_issuesAt {path : Path} {reasons : List Reason}
    (plain : ∀ reason ∈ reasons, Reason.isPlain reason = true) :
    ∀ issue ∈ issuesAt path reasons, issue.HidesNoOverrun := by
  intro issue member
  obtain ⟨reason, given, rfl⟩ := List.mem_map.mp member
  exact .of_plain (plain reason given)

theorem hidesNoOverrun_reject {path : Path} {reason : Reason} (plain : reason.isPlain = true) :
    HidesNoOverrun (reject path reason) :=
  List.forall_mem_singleton.mpr (.of_plain plain)

theorem hidesNoOverrun_ok (form : Json) : HidesNoOverrun (.ok form) := nofun

/-- Lists of issues are those of results that reject. -/
theorem mem_refusals {results : List Checked} {issues : List Issue}
    (member : issues ∈ refusals results) : .error issues ∈ results := by
  induction results with
  | nil => cases member
  | cons result rest ih =>
    cases result with
    | ok form => exact List.mem_cons_of_mem _ (ih member)
    | error own =>
      rcases List.mem_cons.mp member with rfl | later
      · exact List.mem_cons_self
      · exact List.mem_cons_of_mem _ (ih later)

section Steps

variable {setting : Setting} {down : Descent} {value : Json} {path : Path}

/-- Where no branch tells of an overrun or hides one, neither does the union. -/
theorem hidesNoOverrun_noBranch {branches : List Check} {mode : UnionMode}
    (each : ∀ branch ∈ branches, HidesNoOverrun (evalWith setting down branch value path))
    (within : ∀ branch ∈ branches, ¬ Overrun (evalWith setting down branch value path)) :
    HidesNoOverrun (reject path (.noBranchMatched mode
      (refusals (branchResults setting down value path branches)))) := by
  have source {found : List Issue}
      (among : found ∈ refusals (branchResults setting down value path branches)) :
      ∃ branch ∈ branches, evalWith setting down branch value path = .error found :=
    List.mem_map.mp (mem_refusals among)
  refine List.forall_mem_singleton.mpr (.of_failures (fun found among => ?_) fun found among => ?_)
  · obtain ⟨branch, member, result⟩ := source among
    have own := within branch member
    rw [result] at own
    exact Bool.eq_false_iff.mpr own
  · obtain ⟨branch, member, result⟩ := source among
    have own := each branch member
    rwa [result] at own

variable (parts : ∀ check value path, HidesNoOverrun (down check value path))
include parts

theorem hidesNoOverrun_array (items : Check) (rules : List ArrayRule) :
    HidesNoOverrun (evalWith setting down (.array items rules) value path) := by
  cases value with
  | array list =>
    rw [HidesNoOverrun, evalWith, issuesOf_settle, itemsWith_issues]
    refine List.forall_mem_append.mpr
      ⟨fun issue member => ?_, hidesNoOverrun_issuesAt (ArrayRule.reasons_plain rules list)⟩
    obtain ⟨entry, -, own⟩ := List.mem_flatMap.mp member
    exact parts items _ _ issue own
  | _ => exact hidesNoOverrun_reject rfl

theorem hidesNoOverrun_object (properties : List (String × Check)) (required : List String)
    (extra : Extra Check) (rules : List ObjectRule) :
    HidesNoOverrun
      (evalWith setting down (.object properties required extra rules) value path) := by
  cases value with
  | object members =>
    simp only [HidesNoOverrun, evalWith, issuesOf_settle, membersWith_issues,
      List.forall_mem_append]
    refine ⟨⟨fun issue member => ?_, fun issue member => ?_⟩,
      hidesNoOverrun_issuesAt (ObjectRule.reasons_plain rules _)⟩
    · obtain ⟨m, -, own⟩ := List.mem_flatMap.mp member
      cases given : memberCheck? properties extra m.1 with
      | some check =>
        rw [memberWith_of_check given, MemberResult.of_issues] at own
        exact parts check _ _ issue own
      | none =>
        rw [memberWith_of_none given] at own
        cases extra with
        | allow => cases stripped : setting.stripUnknown <;> simp [stripped] at own
        | _ =>
          cases List.mem_singleton.mp own
          exact .of_plain rfl
    · obtain ⟨name, -, rfl⟩ := List.mem_map.mp member
      exact .of_plain rfl
  | _ => exact hidesNoOverrun_reject rfl

/-- One level hides no overrun if no step down does. -/
theorem evalWith_hidesNoOverrun (check : Check) :
    HidesNoOverrun (evalWith setting down check value path) := by
  have leaf {check : Check} (isLeaf : check.isLeaf = true) :
      HidesNoOverrun (evalWith setting down check value path) := by
    obtain ⟨reasons, plain, found⟩ := leaf_issues setting down value path isLeaf
    rw [HidesNoOverrun, found]
    exact hidesNoOverrun_issuesAt plain
  induction check with
  | any => exact leaf rfl
  | string rules => exact leaf rfl
  | number integer rules => exact leaf rfl
  | boolean => exact leaf rfl
  | null => exact leaf rfl
  | enum values => exact leaf rfl
  | array items rules => exact hidesNoOverrun_array parts items rules
  | object properties required extra rules =>
    exact hidesNoOverrun_object parts properties required extra rules
  | union mode branches ih =>
    cases mode with
    | anyOf =>
      simp only [evalWith]
      rcases anyOfWith_cases setting down value path branches [] with
        ⟨branch, member, -, eq⟩ | ⟨branch, -, form, -, eq⟩ | ⟨eq, refused⟩
      · exact eq ▸ ih branch member
      · exact eq ▸ hidesNoOverrun_ok form
      · rw [eq]
        refine hidesNoOverrun_noBranch ih fun branch member => ?_
        obtain ⟨issues, result, within⟩ := refused branch member
        rw [result, overrun_error, within]
        exact Bool.false_ne_true
    | oneOf =>
      simp only [evalWith]
      rcases oneOfWith_cases setting down value path branches 0 [] [] with
        ⟨branch, member, -, eq⟩ | ⟨within, eq⟩
      · exact eq ▸ ih branch member
      · rw [eq]
        unfold choose
        split
        · exact hidesNoOverrun_noBranch ih within
        · exact hidesNoOverrun_ok _
        · exact hidesNoOverrun_reject rfl
  | intersection branches ih =>
    simp only [evalWith]
    rcases allOfWith_cases setting down value path branches [] [] with
      ⟨branch, member, -, eq⟩ | ⟨-, eq⟩
    · exact eq ▸ ih branch member
    · rw [eq, HidesNoOverrun, issuesOf_settle, List.nil_append]
      intro issue member
      obtain ⟨result, inside, own⟩ := List.mem_flatMap.mp member
      obtain ⟨branch, among, rfl⟩ := List.mem_map.mp inside
      exact ih branch among issue own
  | negation inner ih =>
    rw [evalWith]
    cases result : evalWith setting down inner value path with
    | ok form => exact hidesNoOverrun_reject rfl
    | error issues =>
      rw [result] at ih
      dsimp only
      split
      · exact ih
      · exact hidesNoOverrun_ok value
  | ref slot => exact parts _ value path

end Steps

/-- No evaluation hides an overrun, whatever the budget. -/
theorem run_hidesNoOverrun (setting : Setting) (levels : Nat) (check : Check) (value : Json)
    (path : Path) : HidesNoOverrun (run setting levels check value path) := by
  induction levels generalizing check value path with
  | zero => exact List.forall_mem_singleton.mpr .of_overrun
  | succ levels ih => exact evalWith_hidesNoOverrun ih check

/-! ## Without steps down -/

/-- Checks that step down into a value. -/
def isContainer : Check → Bool
  | .array _ _ | .object _ _ _ _ => true
  | _ => false

/-- Nothing at any depth of a check steps down into a value. -/
def StaysPut (check : Check) : Prop := ∀ part : Check, part.Within check → part.isContainer = false

/-- Where nothing steps down into the value, an overrun is the budget that is used up, told once and
where the value stands. -/
theorem run_eq_of_overrun {setting : Setting}
    (slots : ∀ slot, StaysPut (setting.slots.getD slot .any)) {levels : Nat} {check : Check}
    {value : Json} {path : Path} (staysPut : check.StaysPut)
    (deep : Overrun (run setting levels check value path)) :
    run setting levels check value path = reject path (.depthExceeded setting.maxDepth) := by
  induction levels generalizing check with
  | zero => rfl
  | succ levels ihLevels =>
    have combination {check : Check} (combines : check.combines = true)
        (deep : Overrun (run setting (levels + 1) check value path))
        (each : ∀ result ∈ partResults setting (run setting levels) value path check,
          Overrun result → result = reject path (.depthExceeded setting.maxDepth)) :
        run setting (levels + 1) check value path =
          reject path (.depthExceeded setting.maxDepth) := by
      have first := firstOverrun_of_combination combines deep
      exact each _ (List.mem_of_find?_eq_some first) deep
    induction check with
    | array items rules => cases staysPut _ .self
    | object properties required extra rules => cases staysPut _ .self
    | union mode branches ih =>
      refine combination rfl deep fun result member own => ?_
      obtain ⟨branch, among, rfl⟩ := List.mem_map.mp member
      exact ih branch among (fun part inside => staysPut part (.union among inside)) own
    | intersection branches ih =>
      refine combination rfl deep fun result member own => ?_
      obtain ⟨branch, among, rfl⟩ := List.mem_map.mp member
      exact ih branch among (fun part inside => staysPut part (.intersection among inside)) own
    | negation inner ih =>
      refine combination rfl deep fun result member own => ?_
      cases List.mem_singleton.mp member
      exact ih (fun part inside => staysPut part (.negation inside)) own
    | ref slot =>
      refine combination rfl deep fun result member own => ?_
      cases List.mem_singleton.mp member
      exact ihLevels (slots slot) own
    | _ => exact absurd deep (not_overrun_of_leaf rfl)

end Check

/-- Nodes that step down into a value. -/
def Node.isContainer : Node → Bool
  | .array _ _ _ | .object _ _ _ _ => true
  | _ => false

namespace Registry

/-- Checks step down into a value only where nodes do. -/
theorem BuiltFrom.staysPut {d : Document} {r : Registry} {compiled : List (Compiled Check)}
    (built : BuiltFrom d r compiled)
    (flat : ∀ entry ∈ d.entries, ∀ part : Node, part.Within entry.2 → part.isContainer = false)
    (slot : Nat) : (r.checks.getD slot .any).StaysPut := by
  intro part within
  rcases built.exists_within within with rfl | ⟨entry, member, inner, inside, has⟩
  · rfl
  · have own := flat entry member inner inside
    cases has.form <;> first | rfl | cases own

/-- An overrun of the budget goes through combinations unchanged: what a union, a conjunction, a
negation or a reference tells of one is what the first of its parts with an overrun has told, and
nothing else. No list of failures tells of one, however deep in an issue. Where no entry has an
array or object, an outcome with an overrun is a single issue on the whole value, which names the
budget. -/
theorem overruns_pass_unchanged :
    (∀ (setting : Setting) (levels : Nat) (check : Check) (value : Json) (path : Path),
      check.combines = true → Check.Overrun (Check.run setting (levels + 1) check value path) →
      Check.firstOverrun (Check.partResults setting (Check.run setting levels) value path check) =
        some (Check.run setting (levels + 1) check value path)) ∧
    (∀ (setting : Setting) (levels : Nat) (check : Check) (value : Json) (path : Path),
      ∀ issue ∈ Check.issuesOf (Check.run setting levels check value path),
        issue.HidesNoOverrun) ∧
    ∀ (options : Options) (d : Document) (r : Registry), build options d = .ok r →
      (∀ entry ∈ d.entries, ∀ part : Node, part.Within entry.2 → part.isContainer = false) →
      ∀ name value outcome, r.validate? name value = some outcome → outcome.depthExceeded = true →
        outcome = .rejected [⟨[], .depthExceeded options.maxDepth⟩] := by
  refine ⟨fun setting levels check value path => Check.firstOverrun_of_combination,
    Check.run_hidesNoOverrun, ?_⟩
  intro options d r built flat name value outcome given deep
  obtain ⟨compiled, from'⟩ := builtFrom_of_build built
  obtain ⟨slot, -, rfl⟩ := Option.map_eq_some_iff.mp given
  have limit : r.setting.maxDepth = options.maxDepth := by rw [setting, options_of_build built]
  have result := Check.run_eq_of_overrun (from'.staysPut flat) (from'.staysPut flat slot)
    (Check.depthExceeded_outcome_iff.mp deep)
  rw [← limit]
  exact Check.outcome_eq_rejected_iff.mpr result

/-- Entries that refer to themselves several times over. -/
def fannedOut : Document :=
  ⟨[("Both", .intersection [.reference "Both", .reference "Both", .reference "Both"]),
    ("Pick", .union .oneOf [.plain .string, .reference "Pick", .reference "Pick"])], []⟩

theorem fannedOut_flat : ∀ entry ∈ fannedOut.entries, ∀ part : Node, part.Within entry.2 →
    part.isContainer = false := by
  have reference {name : String} {part : Node} (within : part.Within (.reference name)) :
      part.isContainer = false := by
    cases within
    rfl
  refine List.forall_mem_cons.mpr ⟨?_, List.forall_mem_singleton.mpr ?_⟩
  · intro part within
    cases within with
    | self => rfl
    | intersection member inside =>
      rcases (by simpa using member) with rfl
      exact reference inside
  · intro part within
    cases within with
    | self => rfl
    | union member inside =>
      rcases (by simpa using member) with rfl | rfl
      · cases inside
        rfl
      · exact reference inside

/-- However many references there are, an overrun is told once, and what a string is refused for
before that is not told. -/
theorem fanned_out_overruns_are_told_once : ∃ r, build ⟨4, .strip⟩ fannedOut = .ok r ∧
    (∀ entry ∈ fannedOut.entries, ∀ part : Node, part.Within entry.2 →
      part.isContainer = false) ∧
    r.validate? "Pick" .null = some (.rejected [⟨[], .depthExceeded 4⟩]) ∧
    Check.firstOverrun (Check.partResults r.setting (Check.run r.setting 4) .null []
      (r.checks.getD 1 .any)) =
        some (Check.run r.setting 5 (r.checks.getD 1 .any) .null []) ∧
    ∀ issue ∈ Check.issuesOf (Check.run r.setting 5 (r.checks.getD 1 .any) .null []),
      issue.HidesNoOverrun := by
  obtain ⟨first, hidden, told⟩ := overruns_pass_unchanged
  refine ⟨_, rfl, fannedOut_flat, ?_, first _ 4 _ _ _ rfl rfl, hidden _ 5 _ _ _⟩
  exact congrArg some (told ⟨4, .strip⟩ fannedOut _ rfl fannedOut_flat "Pick" .null _ rfl rfl)

end Registry
end DataSchema
