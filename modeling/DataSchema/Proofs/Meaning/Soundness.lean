import DataSchema.Proofs.Meaning.Limits
import DataSchema.Proofs.Meaning.Rules

/-!
Checks decide the meaning of their nodes. What a check of a node accepts satisfies the node, what it
rejects for other reasons than the budget violates the node, and so the outcome of an entry within
the budget is the verdict of its node, with the limits of ranges rounded. The same is true of exact
limits but for values with a number that rounding brings into a range.
-/
namespace DataSchema
namespace Check

/-- A result that is true to the meaning of a node, with the limits that checks have. A result with
an overrun says nothing. -/
structure Faithful (d : Document) (strip : Bool) (node : Node) (value : Json) (result : Checked) :
    Prop where
  accepted : ∀ form, result = .ok form → Satisfies .rounded d strip node value
  rejected : ∀ issues, result = .error issues → anyDepthExceeded issues = false →
    Violates .rounded d strip node value

namespace Faithful

variable {d : Document} {strip : Bool} {node : Node} {value form : Json} {issues : List Issue}
  {result : Checked}

theorem of_ok (satisfied : Satisfies .rounded d strip node value) :
    Faithful d strip node value (.ok form) :=
  ⟨fun _ _ => satisfied, fun _ failed _ => (by cases failed)⟩

theorem of_error (violated : Violates .rounded d strip node value) :
    Faithful d strip node value (.error issues) :=
  ⟨fun _ passed => (by cases passed), fun _ _ _ => violated⟩

theorem of_overrun (deep : Overrun result) : Faithful d strip node value result := by
  constructor
  · rintro form rfl
    exact absurd deep (not_overrun_ok form)
  · rintro issues rfl within
    rw [overrun_error, within] at deep
    cases deep

/-- Where rejections have issues, no issues mean acceptance. -/
theorem of_no_issues (faithful : Faithful d strip node value result) (telling : result ≠ .error [])
    (clean : issuesOf result = []) : Satisfies .rounded d strip node value := by
  cases result with
  | ok form => exact faithful.accepted form rfl
  | error issues => exact absurd (congrArg Except.error clean) telling

theorem of_issues (faithful : Faithful d strip node value result) (unclean : issuesOf result ≠ [])
    (within : anyDepthExceeded (issuesOf result) = false) :
    Violates .rounded d strip node value := by
  cases result with
  | ok form => exact absurd rfl unclean
  | error issues => exact faithful.rejected issues rfl within

/-- A value that is accepted unless there are issues. -/
theorem of_settle (clean : issues = [] → Satisfies .rounded d strip node value)
    (unclean : issues ≠ [] → anyDepthExceeded issues = false →
      Violates .rounded d strip node value) :
    Faithful d strip node value (settle form issues) := by
  constructor
  · intro _ passed
    exact clean (settle_eq_ok_iff.mp passed).1
  · intro found failed within
    obtain ⟨nonempty, rfl⟩ := settle_eq_error_iff.mp failed
    exact unclean nonempty within

/-- A leaf is accepted if it meets what its rules stand for. -/
theorem of_leaf {path : Path} {reasons : List Reason} {meets : Prop} (means : reasons = [] ↔ meets)
    (satisfied : meets → Satisfies .rounded d strip node value)
    (violated : ¬ meets → Violates .rounded d strip node value) :
    Faithful d strip node value (leaf value path reasons) := by
  apply of_settle
  · intro clean
    exact satisfied (means.mp (List.map_eq_nil_iff.mp clean))
  · intro unclean _
    refine violated fun met => unclean ?_
    rw [means.mpr met]
    rfl

end Faithful

variable {d : Document} {setting : Setting} {down : Descent} {value : Json} {path : Path}

/-! ## Scalars -/

theorem scalar_faithful (kind : ScalarKind) (format : Option Format) (c : Constraints) :
    Faithful d setting.stripUnknown (.scalar kind format c) value
      (evalWith setting down (scalarCheck kind format c) value path) := by
  have other (issues : List Issue) (fails : ¬ ScalarMeets .rounded kind format c value) :
      Faithful d setting.stripUnknown (.scalar kind format c) value (.error issues) :=
    .of_error (.scalar_not fails)
  cases kind with
  | string =>
    cases value with
    | string s =>
      exact .of_leaf StringRule.reasons_draft_eq_nil_iff (fun meets => .scalar meets)
        fun fails => .scalar_not fails
    | _ => exact other _ id
  | number =>
    cases value with
    | number n =>
      exact .of_leaf (NumberRule.reasons_draft_eq_nil_iff .number) (fun meets => .scalar meets)
        fun fails => .scalar_not fails
    | _ => exact other _ id
  | integer =>
    cases value with
    | number n =>
      cases integral : n.isIntegral with
      | true =>
        have whole : evalWith setting down (scalarCheck .integer format c) (.number n) path =
            leaf (.number n) path
              (NumberRule.reasons (NumberRule.draft .integer format c).1 n.toBinary64) := by
          simp [evalWith, scalarCheck, integral]
        rw [whole]
        exact .of_leaf (NumberRule.reasons_draft_eq_nil_iff .integer)
          (fun meets => .scalar ⟨integral, meets⟩) fun fails => .scalar_not fun met => fails met.2
      | false =>
        have partial' : evalWith setting down (scalarCheck .integer format c) (.number n) path =
            reject path (.type "integer" .number) := by
          simp [evalWith, scalarCheck, integral]
        rw [partial']
        refine other _ fun met => ?_
        rw [met.1] at integral
        cases integral
    | _ => exact other _ id
  | boolean =>
    cases value with
    | bool b => exact .of_ok (.scalar trivial)
    | _ => exact other _ id
  | null =>
    cases value with
    | null => exact .of_ok (.scalar trivial)
    | _ => exact other _ id

theorem enum_faithful (values : List Json) :
    Faithful d setting.stripUnknown (.enum values) value
      (evalWith setting down (.enum values) value path) := by
  simp only [evalWith]
  split
  · rename_i listed
    obtain ⟨allowed, member, equal⟩ := List.any_eq_true.mp listed
    exact .of_ok (.enum member equal)
  · rename_i unlisted
    refine .of_error (.enum_not fun allowed member => ?_)
    rw [Bool.not_eq_true, List.any_eq_false] at unlisted
    simpa using unlisted allowed member

/-! ## Items and members -/

/-- Issues of parts within the budget are those of some part within the budget. -/
theorem exists_issues {α : Type} {list : List α} {f : α → List Issue}
    (nonempty : list.flatMap f ≠ []) (within : anyDepthExceeded (list.flatMap f) = false) :
    ∃ x ∈ list, f x ≠ [] ∧ anyDepthExceeded (f x) = false := by
  rw [ne_eq, List.flatMap_eq_nil_iff] at nonempty
  push Not at nonempty
  obtain ⟨x, member, own⟩ := nonempty
  refine ⟨x, member, own, ?_⟩
  rw [← Bool.not_eq_true, anyDepthExceeded_flatMap] at within
  simpa using fun deep => within ⟨x, member, deep⟩

/-- Checks that are true to the meaning of the nodes that have them. -/
def TrueToNodes (d : Document) (setting : Setting) (down : Descent) : Prop :=
  ∀ node check value path, HasCheck d.names node check →
    Faithful d setting.stripUnknown node value (down check value path)

theorem array_faithful (down_true : TrueToNodes d setting down)
    (telling : ∀ check value path, down check value path ≠ .error []) {items : Node}
    {check : Check} (has : HasCheck d.names items check) (count : CountRange) (unique : Bool) :
    Faithful d setting.stripUnknown (.array items count unique) value
      (evalWith setting down (.array check (ArrayRule.draft count unique).1) value path) := by
  cases value with
  | array list =>
    have counted : issuesAt path (ArrayRule.reasons (ArrayRule.draft count unique).1 list) = [] ↔
        ArrayMeets count unique list :=
      List.map_eq_nil_iff.trans ArrayRule.reasons_draft_eq_nil_iff
    simp only [evalWith, itemsWith_issues]
    apply Faithful.of_settle
    · intro clean
      obtain ⟨each, bounds⟩ := List.append_eq_nil_iff.mp clean
      refine .array (counted.mp bounds) fun item member => ?_
      obtain ⟨place, found⟩ := List.getElem?_of_mem member
      have clean := List.flatMap_eq_nil_iff.mp each (item, place)
        (List.mk_mem_zipIdx_iff_getElem?.mpr found)
      exact (down_true items check item _ has).of_no_issues (telling check item _) clean
    · intro unclean within
      by_cases meets : ArrayMeets count unique list
      · rw [counted.mpr meets, List.append_nil] at unclean within
        obtain ⟨⟨item, place⟩, entry, own, shallow⟩ := exists_issues unclean within
        have member : item ∈ list := List.fst_mem_of_mem_zipIdx entry
        exact .array_item member ((down_true items check item _ has).of_issues own shallow)
      · exact .array_not meets
  | _ => exact .of_error (.array_kind (by simp [Json.kind]))

section Members

variable {properties : List (String × Node)} {declared : List (String × Check)}
  {count : CountRange} {additional : Additional Node} {extra : Extra Check}
  (each : List.Forall₂ (HasProperty d.names) properties declared)
  (others : HasExtra d.names count additional extra)
include each others

variable (down value path) in
/-- What is made of a member is what its check gives, or it has no schema and is let through or
refused. -/
theorem memberWith_cases (strip : Bool) (name : String) :
    (∃ node check, memberNode? properties additional name = some node ∧
      HasCheck d.names node check ∧
      memberWith strip down declared extra path name value =
        .of (down check value (path ++ [.key name]))) ∨
    (memberNode? properties additional name = none ∧ additional.isClosed count = false ∧
      (memberWith strip down declared extra path name value).issues = [] ∧
      (memberWith strip down declared extra path name value).counts = !strip) ∨
    (memberNode? properties additional name = none ∧ additional.isClosed count = true ∧
      memberWith strip down declared extra path name value =
        ⟨none, false, [⟨path ++ [.key name], .unknownProperty name⟩]⟩) := by
  cases given : memberCheck? declared extra name with
  | some check =>
    obtain ⟨node, schema, has⟩ := memberNode?_of_check each others given
    exact .inl ⟨node, check, schema, has, memberWith_of_check given strip⟩
  | none =>
    have free := memberNode?_of_none each others given
    cases others with
    | closed _ closed => exact .inr (.inr ⟨free, closed, memberWith_of_none given strip⟩)
    | allowed opened =>
      refine .inr (.inl ⟨free, opened, ?_⟩)
      rw [memberWith_of_none given]
      cases strip <;> exact ⟨rfl, rfl⟩
    | checked node check has =>
      unfold memberCheck? at given
      split at given <;> cases given

theorem memberWith_counts (strip : Bool) (name : String) :
    (memberWith strip down declared extra path name value).counts =
      memberCounts strip properties count additional name := by
  unfold memberCounts
  rcases memberWith_cases down value path each others strip name with
    ⟨node, check, schema, -, eq⟩ | ⟨schema, opened, -, eq⟩ | ⟨schema, closed, eq⟩
  · rw [eq, MemberResult.of_counts, schema]
    rfl
  · rw [eq, schema, opened]
    rfl
  · rw [eq, schema, closed]
    rfl

variable {name : String}

/-- A member without issues satisfies its schema, and has one if the object is closed. -/
theorem satisfies_of_no_issues (down_true : TrueToNodes d setting down)
    (telling : ∀ check value path, down check value path ≠ .error [])
    (clean : (memberWith setting.stripUnknown down declared extra path name value).issues = []) :
    (additional.isClosed count = true →
      (memberNode? properties additional name).isSome = true) ∧
    ∀ node, memberNode? properties additional name = some node →
      Satisfies .rounded d setting.stripUnknown node value := by
  rcases memberWith_cases down value path each others setting.stripUnknown name with
    ⟨node, check, schema, has, eq⟩ | ⟨free, opened, -⟩ | ⟨-, -, eq⟩
  · rw [eq, MemberResult.of_issues] at clean
    rw [schema]
    refine ⟨fun _ => rfl, fun own same => ?_⟩
    cases same
    exact (down_true node check value _ has).of_no_issues (telling check value _) clean
  · rw [free, opened]
    exact ⟨fun closed => (by cases closed), fun own same => (by cases same)⟩
  · rw [eq] at clean
    cases clean

/-- A member with issues violates its schema, or has none in a closed object. -/
theorem violates_of_issues (down_true : TrueToNodes d setting down)
    (unclean : (memberWith setting.stripUnknown down declared extra path name value).issues ≠ [])
    (within : anyDepthExceeded
      (memberWith setting.stripUnknown down declared extra path name value).issues = false) :
    (additional.isClosed count = true ∧ memberNode? properties additional name = none) ∨
    ∃ node, memberNode? properties additional name = some node ∧
      Violates .rounded d setting.stripUnknown node value := by
  rcases memberWith_cases down value path each others setting.stripUnknown name with
    ⟨node, check, schema, has, eq⟩ | ⟨-, -, clean, -⟩ | ⟨free, closed, -⟩
  · rw [eq, MemberResult.of_issues] at unclean within
    exact .inr ⟨node, schema, (down_true node check value _ has).of_issues unclean within⟩
  · exact absurd clean unclean
  · exact .inl ⟨closed, free⟩

theorem object_faithful (down_true : TrueToNodes d setting down)
    (telling : ∀ check value path, down check value path ≠ .error []) (required : List String) :
    Faithful d setting.stripUnknown (.object properties required count additional) value
      (evalWith setting down (.object declared required extra (ObjectRule.draft count).1) value
        path) := by
  cases value with
  | object members =>
    simp only [evalWith, membersWith_issues, membersWith_kept, memberWith_counts each others]
    apply Faithful.of_settle
    · intro clean
      obtain ⟨front, bounds⟩ := List.append_eq_nil_iff.mp clean
      obtain ⟨parts, present⟩ := List.append_eq_nil_iff.mp front
      obtain ⟨min, max⟩ := ObjectRule.reasons_draft_eq_nil_iff.mp (List.map_eq_nil_iff.mp bounds)
      have good (m : String × Json) (member : m ∈ members) :=
        satisfies_of_no_issues each others down_true telling
          (List.flatMap_eq_nil_iff.mp parts m member)
      refine .object ⟨?_, missing_eq_nil_iff.mp present, min, max⟩ ?_
      · exact fun closed m member => (good m member).1 closed
      · exact fun m member => (good m member).2
    · intro unclean within
      -- An object that meets its own bounds can only fail in a member.
      by_cases meets : ObjectMeets setting.stripUnknown properties required count additional members
      · rw [ObjectRule.reasons_draft_eq_nil_iff.mpr ⟨meets.minProperties, meets.maxProperties⟩,
          missing_eq_nil_iff.mpr meets.required] at unclean within
        simp only [issuesAt, List.map_nil, List.append_nil] at unclean within
        obtain ⟨m, member, own, shallow⟩ := exists_issues unclean within
        rcases violates_of_issues each others down_true own shallow with
          ⟨closed, free⟩ | ⟨node, schema, violated⟩
        · have known := meets.known closed m member
          rw [free] at known
          cases known
        · exact .object_member member schema violated
      · exact .object_not meets
  | _ => exact .of_error (.object_kind (by simp [Json.kind]))

end Members

/-! ## Branches -/

section Branches

variable {branches : List Node} {results : List Checked} {strip : Bool}

/-- Of faithful results within the budget none accept, or one, or there are two that do. -/
theorem acceptedFrom_cases
    (each : List.Forall₂ (fun branch result => Faithful d strip branch value result)
      branches results)
    (within : ∀ result ∈ results, ¬ Overrun result) (index : Nat) :
    (acceptedFrom index results = [] ∧
      ∀ branch ∈ branches, Violates .rounded d strip branch value) ∨
    (∃ entry, acceptedFrom index results = [entry] ∧
      ∃ before branch after, branches = before ++ branch :: after ∧
        Satisfies .rounded d strip branch value ∧
        ∀ other ∈ before ++ after, Violates .rounded d strip other value) ∨
    (∃ entry entry' more, acceptedFrom index results = entry :: entry' :: more ∧
      ∃ before first between second after,
        branches = before ++ first :: (between ++ second :: after) ∧
        Satisfies .rounded d strip first value ∧ Satisfies .rounded d strip second value) := by
  induction each generalizing index with
  | nil => exact .inl ⟨rfl, by simp⟩
  | @cons branch result branches results faithful _ ih =>
    have later := ih (fun other member => within other (by simp [member])) (index + 1)
    cases result with
    | ok form =>
      -- What the later branches accept goes up by one: none to one, one to two.
      have satisfied := faithful.accepted form rfl
      simp only [acceptedFrom]
      rcases later with ⟨unmatched, violated⟩ |
        ⟨entry, one, before, second, after, split, also, -⟩ |
        ⟨entry, entry', more, two, before, second, between, third, after, split, also, -⟩
      · refine .inr (.inl
          ⟨(index, form), by rw [unmatched], [], branch, branches, rfl, satisfied, ?_⟩)
        exact violated
      · exact .inr (.inr ⟨(index, form), entry, [], by rw [one], [], branch, before, second, after,
          by simp [split], satisfied, also⟩)
      · exact .inr (.inr ⟨(index, form), entry, entry' :: more, by rw [two], [], branch, before,
          second, between ++ third :: after, by simp [split], satisfied, also⟩)
    | error issues =>
      have shallow : anyDepthExceeded issues = false := by
        simpa [overrun_error] using within (.error issues) (by simp)
      have violated := faithful.rejected issues rfl shallow
      simp only [acceptedFrom]
      rcases later with ⟨unmatched, others⟩ |
        ⟨entry, one, before, only, after, split, satisfied, others⟩ |
        ⟨entry, entry', more, two, before, first, between, second, after, split, both⟩
      · exact .inl ⟨unmatched, by simpa [violated] using others⟩
      · refine .inr (.inl
          ⟨entry, one, branch :: before, only, after, by simp [split], satisfied, ?_⟩)
        simpa [violated] using others
      · exact .inr (.inr ⟨entry, entry', more, two, branch :: before, first, between, second, after,
          by simp [split], both⟩)

end Branches

/-! ## All nodes -/

theorem union_faithful {mode : UnionMode} {branches : List Node} {checks : List Check}
    (each : List.Forall₂
      (fun branch check => Faithful d setting.stripUnknown branch value
        (evalWith setting down check value path)) branches checks) :
    Faithful d setting.stripUnknown (.union mode branches) value
      (evalWith setting down (.union mode checks) value path) := by
  cases mode with
  | anyOf =>
    simp only [evalWith]
    rcases anyOfWith_cases setting down value path checks [] with
      ⟨check, -, deep, eq⟩ | ⟨check, member, form, passed, eq⟩ | ⟨eq, refused⟩
    · rw [eq]
      exact .of_overrun deep
    · rw [eq]
      obtain ⟨branch, inside, faithful⟩ := forall₂_mem_right each member
      exact .of_ok (.anyOf inside (faithful.accepted form passed))
    · rw [eq]
      refine .of_error (.anyOf_not fun branch inside => ?_)
      obtain ⟨check, member, faithful⟩ := forall₂_mem_right each.flip inside
      obtain ⟨issues, failed, within⟩ := refused check member
      exact faithful.rejected issues failed within
  | oneOf =>
    have faithful : List.Forall₂ (fun branch result =>
        Faithful d setting.stripUnknown branch value result) branches
        (branchResults setting down value path checks) :=
      List.forall₂_map_right_iff.mpr each
    simp only [evalWith]
    rcases oneOfWith_cases setting down value path checks 0 [] [] with
      ⟨check, -, deep, eq⟩ | ⟨within, eq⟩
    · rw [eq]
      exact .of_overrun deep
    · rw [eq, List.nil_append]
      have shallow : ∀ result ∈ branchResults setting down value path checks, ¬ Overrun result :=
        List.forall_mem_map.mpr within
      rcases acceptedFrom_cases faithful shallow 0 with ⟨unmatched, violated⟩ |
        ⟨entry, one, before, branch, after, split, satisfied, others⟩ |
        ⟨entry, entry', more, two, before, first, between, second, after, split, both⟩
      · rw [unmatched]
        exact .of_error (.oneOf_none violated)
      · rw [one]
        exact .of_ok (.oneOf split satisfied others)
      · rw [two]
        exact .of_error (.oneOf_several split both.1 both.2)

theorem intersection_faithful {branches : List Node} {checks : List Check}
    (each : List.Forall₂
      (fun branch check => Faithful d setting.stripUnknown branch value
        (evalWith setting down check value path)) branches checks)
    (telling : ∀ check, evalWith setting down check value path ≠ .error []) :
    Faithful d setting.stripUnknown (.intersection branches) value
      (evalWith setting down (.intersection checks) value path) := by
  simp only [evalWith]
  rcases allOfWith_cases setting down value path checks [] [] with
    ⟨check, -, deep, eq⟩ | ⟨-, eq⟩
  · rw [eq]
    exact .of_overrun deep
  · rw [eq, List.nil_append, List.nil_append, branchResults, List.flatMap_map]
    apply Faithful.of_settle
    · intro clean
      refine .allOf fun branch inside => ?_
      obtain ⟨check, member, faithful⟩ := forall₂_mem_right each.flip inside
      exact faithful.of_no_issues (telling check) (List.flatMap_eq_nil_iff.mp clean check member)
    · intro unclean within
      obtain ⟨check, member, own, shallow⟩ := exists_issues unclean within
      obtain ⟨branch, inside, faithful⟩ := forall₂_mem_right each member
      exact .allOf_not inside (faithful.of_issues own shallow)

theorem negation_faithful {inner : Node} {check : Check}
    (faithful : Faithful d setting.stripUnknown inner value
      (evalWith setting down check value path)) :
    Faithful d setting.stripUnknown (.negation inner) value
      (evalWith setting down (.negation check) value path) := by
  simp only [evalWith]
  cases result : evalWith setting down check value path with
  | ok form => exact .of_error (.negation_not (faithful.accepted form result))
  | error issues =>
    cases deep : anyDepthExceeded issues with
    | true =>
      simp only [deep, if_true]
      exact .of_overrun deep
    | false =>
      simp only [deep, Bool.false_eq_true, if_false]
      exact .of_ok (.negation (faithful.rejected issues result deep))

theorem Faithful.reference {strip : Bool} {name : String} {node : Node} {result : Checked}
    (entry : d.node? name = some node) (faithful : Faithful d strip node value result) :
    Faithful d strip (.reference name) value result :=
  ⟨fun form passed => .reference entry (faithful.accepted form passed),
    fun issues failed within => .reference entry (faithful.rejected issues failed within)⟩

/-- One level is true to the meaning of all nodes if what it goes down to is. The induction is on
the node, each part of which has the check that compilation gave it. -/
theorem evalWith_faithful (down_true : TrueToNodes d setting down)
    (telling : ∀ check value path, down check value path ≠ .error [])
    (slots : ∀ slot name node, d.entries[slot]? = some (name, node) →
      HasCheck d.names node (setting.slots.getD slot .any)) :
    TrueToNodes d setting (evalWith setting down) := by
  intro node check value path has
  obtain ⟨c, compiles, rfl⟩ := has
  have ofParts {branches : List Node} {parts : List (Compiled Check)}
      (each : List.Forall₂ (CompilesTo d.names) branches parts)
      (ih : ∀ branch ∈ branches, ∀ c, CompilesTo d.names branch c →
        Faithful d setting.stripUnknown branch value (evalWith setting down c.value value path)) :
      List.Forall₂ (fun branch check => Faithful d setting.stripUnknown branch value
        (evalWith setting down check value path)) branches (parts.map Compiled.value) := by
    rw [List.forall₂_map_right_iff]
    exact ((List.forall₂_and_left _ _).mpr ⟨fun _ inside => inside, each⟩).imp
      fun branch c both => ih branch both.1 c both.2
  induction node generalizing c with
  | scalar kind format constraints =>
    rw [compiles.scalar.1]
    exact scalar_faithful kind format constraints
  | enum values =>
    rw [compiles.enum.1]
    exact enum_faithful values
  | unknown token raw =>
    rw [compiles.unknown.1]
    exact .of_ok .unknown
  | array items count unique =>
    obtain ⟨check, has, eq, -⟩ := compiles.array
    rw [eq]
    exact array_faithful down_true telling has count unique
  | object properties required count additional =>
    obtain ⟨declared, extra, each, others, eq, -⟩ := compiles.object
    rw [eq]
    exact object_faithful each others down_true telling required
  | union mode nodes ih =>
    obtain ⟨parts, each, eq, -⟩ := compiles.union
    rw [eq]
    exact union_faithful (ofParts each ih)
  | intersection nodes ih =>
    obtain ⟨parts, each, eq, -⟩ := compiles.intersection
    rw [eq]
    exact intersection_faithful (ofParts each ih)
      (evalWith_ne_error_nil fun slot => telling _ value path)
  | negation inner ih =>
    obtain ⟨part, compiled, eq, -⟩ := compiles.negation
    rw [eq]
    exact negation_faithful (ih part compiled)
  | reference name =>
    obtain ⟨slot, found, eq, -⟩ := compiles.reference
    rw [eq]
    obtain ⟨node, entry, place⟩ := Document.node?_of_slot found
    exact .reference entry (down_true node _ value path (slots slot name node place))

/-- Whatever the budget, checks are true to the meaning of their nodes. -/
theorem run_faithful (slots : ∀ slot name node, d.entries[slot]? = some (name, node) →
      HasCheck d.names node (setting.slots.getD slot .any)) (levels : Nat) :
    TrueToNodes d setting (run setting levels) := by
  induction levels with
  | zero =>
    intro node check value path _
    exact .of_overrun rfl
  | succ levels ih => exact evalWith_faithful ih (run_ne_error_nil setting levels) slots

/-- An outcome within the budget is the verdict that its result is faithful to. -/
theorem outcome_isVerdict_of_faithful {strip : Bool} {node : Node} {check : Check}
    (faithful : Faithful d strip node value (run setting (setting.maxDepth + 1) check value []))
    (within : (outcome setting check value).depthExceeded = false) :
    (outcome setting check value).IsVerdict .rounded d strip node value := by
  unfold outcome at within ⊢
  cases result : run setting (setting.maxDepth + 1) check value [] with
  | ok form =>
    have satisfied := faithful.accepted form result
    have unviolated := not_violates_of_satisfies satisfied
    constructor <;> simp [Outcome.isAccepted, satisfied, unviolated]
  | error issues =>
    rw [result] at within
    have violated := faithful.rejected issues result within
    have unsatisfied : ¬ Satisfies .rounded d strip node value :=
      fun satisfied => not_violates_of_satisfies satisfied violated
    constructor <;> simp [Outcome.isAccepted, violated, unsatisfied]

end Check

namespace Registry

/-- Whatever the budget, the check in the slot of an entry is true to the meaning of its node. -/
theorem BuiltFrom.run_faithful {d : Document} {r : Registry} {compiled : List (Compiled Check)}
    (built : BuiltFrom d r compiled) {slot : Nat} {name : String} {node : Node}
    (entry : d.entries[slot]? = some (name, node)) (levels : Nat) (value : Json) (path : Path) :
    Check.Faithful d r.setting.stripUnknown node value
      (Check.run r.setting levels (r.checks.getD slot .any) value path) :=
  Check.run_faithful (fun _ _ _ place => built.hasCheck place) levels node _ value path
    (built.hasCheck entry)

/-- The outcome of an entry of a document that builds is the verdict of its node, unless the budget
is used up: a value is accepted exactly when it satisfies the node, and rejected exactly when it
violates it. With rounded limits this is so for every value. With limits as they are it is so for
every value of JSON whose numbers, if they are beyond the greatest integer of 64 bits, are also
beyond 2 ^ 63 + 2 ^ 10, up to which integers are rounded to the same limit. -/
theorem outcome_is_verdict (options : Options) (d : Document) (r : Registry)
    (built : build options d = .ok r) (name : String) (node : Node)
    (entry : d.node? name = some node) (value : Json) :
    ∃ outcome, r.validate? name value = some outcome ∧
      (outcome.depthExceeded = false →
        outcome.IsVerdict .rounded d (options.unknownKeys = .strip) node value ∧
        (value.WellFormed →
          (∀ n, value.HasNumber n → n.AtMost (2 ^ 63 + 2 ^ 10) → n.AtMost (2 ^ 63 - 1)) →
          outcome.IsVerdict .exact d (options.unknownKeys = .strip) node value)) := by
  obtain ⟨compiled, from'⟩ := builtFrom_of_build built
  obtain ⟨slot, found, place⟩ := Document.slot_iff_node?.mp entry
  have strip : r.setting.stripUnknown = decide (options.unknownKeys = .strip) := by
    rw [setting, options_of_build built]
  have faithful := from'.run_faithful place (r.setting.maxDepth + 1) value []
  refine ⟨r.validateSlot slot value, by simp [validate?, slot?, from'.names, found], ?_⟩
  intro within
  rw [← strip]
  have verdict := Check.outcome_isVerdict_of_faithful faithful within
  exact ⟨verdict, fun wellFormed clear => verdict.of_agree (Limits.agree_of_clear wellFormed clear)⟩

/-- Chains of links, each of which has a size, and ends or goes on but not both. -/
def chains : Document :=
  ⟨[("Link", .object [("next", .reference "Rest"), ("size", .scalar .integer (some .int64) {})]
      ["next", "size"] {} .deny),
    ("Rest", .union .oneOf [.reference "Link", .plain .null])], []⟩

def link (size : Int) (next : Json) : Json := .object [("size", .int size), ("next", next)]

theorem link_wellFormed {size : Int} {next : Json} (fits : (Number.int size).WellFormed)
    (rest : next.WellFormed) : (link size next).WellFormed := by
  refine .object (by simp) fun member inside => ?_
  rcases List.mem_pair.mp inside with rfl | rfl
  · exact .number fits
  · exact rest

theorem hasNumber_link_iff {size : Int} {next : Json} {n : Number} :
    (link size next).HasNumber n ↔ n = .int size ∨ next.HasNumber n := by
  simp [link, Json.int]

/-- A chain of two links is accepted, and so it satisfies the schema of links. One of them has the
greatest size. -/
theorem chain_of_two_links_satisfies :
    ∃ r, build {} chains = .ok r ∧ ∃ node, chains.node? "Link" = some node ∧
      Satisfies .exact chains false node (link (2 ^ 63 - 1) (link (-1) .null)) := by
  obtain ⟨outcome, given, verdict⟩ := outcome_is_verdict {} chains _ rfl "Link" _ rfl
    (link (2 ^ 63 - 1) (link (-1) .null))
  have accepted : (Option.map Outcome.isAccepted (some outcome)) = some true ∧
      (Option.map Outcome.depthExceeded (some outcome)) = some false := by
    rw [← given]
    decide +kernel
  have fits : (link (2 ^ 63 - 1) (link (-1) .null)).WellFormed :=
    link_wellFormed (.int (by decide) (by decide))
      (link_wellFormed (.int (by decide) (by decide)) .null)
  have clear (n : Number) (has : (link (2 ^ 63 - 1) (link (-1) .null)).HasNumber n) :
      n.AtMost (2 ^ 63 + 2 ^ 10) → n.AtMost (2 ^ 63 - 1) := by
    rcases hasNumber_link_iff.mp has with rfl | has
    · decide
    · rcases hasNumber_link_iff.mp has with rfl | has
      · decide
      · cases has
  simp only [Option.map_some, Option.some.injEq] at accepted
  exact ⟨_, rfl, _, rfl, ((verdict accepted.2).2 fits clear).accepted.mp accepted.1⟩

/-- Integers of 64 bits. -/
def wholes : Document := ⟨[("Whole", .scalar .integer (some .int64) {})], []⟩

/-- The integer that follows the greatest one of 64 bits violates its node and is accepted. -/
theorem whole_beyond_64_bits_is_accepted :
    ∃ r, build {} wholes = .ok r ∧ ∃ node, wholes.node? "Whole" = some node ∧
      (Json.int (2 ^ 63)).WellFormed ∧ Violates .exact wholes false node (.int (2 ^ 63)) ∧
      ¬ Satisfies .exact wholes false node (.int (2 ^ 63)) ∧
      ∃ outcome, r.validate? "Whole" (.int (2 ^ 63)) = some outcome ∧
        outcome.depthExceeded = false ∧ outcome.isAccepted = true := by
  have violated : Violates .exact wholes false (.scalar .integer (some .int64) {})
      (.int (2 ^ 63)) := by
    refine .scalar_not fun meets => ?_
    exact absurd (meets.2.range _ rfl _ _ rfl) (by decide)
  refine ⟨_, rfl, _, rfl, .number (.int (by decide) (by decide)), violated,
    fun satisfied => not_violates_of_satisfies satisfied violated, _, rfl, ?_⟩
  decide +kernel

end Registry
end DataSchema
