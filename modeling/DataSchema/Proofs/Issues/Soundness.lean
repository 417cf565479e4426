import DataSchema.Proofs.Issues.Basic

/-!
Rejections are true and located. Every issue that a rejection has, and every failure in one at any
depth, stands at a place that there is in the value, and gives a reason that is true of what stands
there.
-/
namespace DataSchema
namespace Check

/-- All issues stand at places below the path, or at its end, and are told of the value. -/
def AllTold (d : Document) (setting : Setting) (root : Json) (path : Path) (issues : List Issue) :
    Prop :=
  ∀ issue ∈ issues, path <+: issue.path ∧ issue.Told d setting root

theorem allTold_nil {d : Document} {setting : Setting} {root : Json} {path : Path} :
    AllTold d setting root path [] := List.forall_mem_nil _

/-- Wherever a path leads to, a step down from there tells the truth. -/
def TellsTruth (d : Document) (setting : Setting) (root : Json) (down : Descent) : Prop :=
  ∀ node check value path, d.Contains node → HasCheck d.names node check →
    root.at? path = some value → AllTold d setting root path (issuesOf (down check value path))

section Steps

variable {d : Document} {setting : Setting} {root : Json} {down : Descent} {value : Json}
  {path : Path} {node : Node} (found : root.at? path = some value)
  (slots : ∀ slot name node, d.entries[slot]? = some (name, node) →
    HasCheck d.names node (setting.slots.getD slot .any))
include found

/-! ## Scalars, arrays and objects -/

/-- Issues at the place itself are told if the node refuses the value for their reasons. -/
theorem told_of_issuesAt (contained : d.Contains node) {reasons : List Reason}
    (each : ∀ reason ∈ reasons, Refuses d setting path node value reason) :
    AllTold d setting root path (issuesAt path reasons) := by
  intro issue member
  obtain ⟨reason, given, rfl⟩ := List.mem_map.mp member
  exact ⟨List.prefix_rfl, value, found, node, contained, each reason given⟩

theorem told_of_reject (contained : d.Contains node) {reason : Reason}
    (refuses : Refuses d setting path node value reason) :
    AllTold d setting root path (issuesOf (reject path reason)) :=
  told_of_issuesAt found contained (List.forall_mem_singleton.mpr refuses)

/-- Issues of a child are told of the value that it stands in. -/
theorem told_of_child (tells : TellsTruth d setting root down) {check : Check} {segment : Segment}
    {child : Json} (contained : d.Contains node) (has : HasCheck d.names node check)
    (inside : value.child? segment = some child) :
    AllTold d setting root path (issuesOf (down check child (path ++ [segment]))) := by
  intro issue member
  obtain ⟨below, told⟩ := tells node check child _ contained has
    ((Json.at?_snoc found segment).trans inside) issue member
  exact ⟨(List.prefix_append path [segment]).trans below, told⟩

theorem scalar_told {kind : ScalarKind} {format : Option Format} {c : Constraints} {check : Check}
    (contained : d.Contains (.scalar kind format c))
    (has : HasCheck d.names (.scalar kind format c) check) :
    AllTold d setting root path (issuesOf (evalWith setting down check value path)) := by
  have refused (other : kind.admits value = false) :
      AllTold d setting root path (issuesOf (reject path (.type kind.name value.kind))) :=
    told_of_reject found contained (.scalarType other)
  cases has.form with
  | string =>
    cases value with
    | string s =>
      rw [evalWith, leaf, issuesOf_settle]
      exact told_of_issuesAt found contained fun reason member =>
        .string (StringRule.breaks_of_mem_reasons member)
    | _ => exact refused rfl
  | number =>
    cases value with
    | number n =>
      simp only [evalWith, Bool.false_and, Bool.false_eq_true, if_false, leaf, issuesOf_settle]
      exact told_of_issuesAt found contained fun reason member =>
        .number rfl (NumberRule.breaks_of_mem_reasons member)
    | _ => exact refused rfl
  | integer =>
    cases value with
    | number n =>
      simp only [evalWith, Bool.true_and]
      cases whole : n.isIntegral with
      | true =>
        simp only [Bool.not_true, Bool.false_eq_true, if_false, leaf, issuesOf_settle]
        exact told_of_issuesAt found contained fun reason member =>
          .number whole (NumberRule.breaks_of_mem_reasons member)
      | false => exact refused whole
    | _ => exact refused rfl
  | boolean =>
    cases value with
    | bool b => exact allTold_nil
    | _ => exact refused rfl
  | null =>
    cases value with
    | null => exact allTold_nil
    | _ => exact refused rfl

theorem array_told (tells : TellsTruth d setting root down) {items : Node} {check : Check}
    {count : CountRange} {unique : Bool} (contained : d.Contains (.array items count unique))
    (has : HasCheck d.names items check) :
    AllTold d setting root path (issuesOf
      (evalWith setting down (.array check (ArrayRule.draft count unique).1) value path)) := by
  cases value with
  | array list =>
    rw [evalWith, issuesOf_settle, itemsWith_issues]
    refine List.forall_mem_append.mpr ⟨fun issue member => ?_, ?_⟩
    · obtain ⟨⟨item, place⟩, entry, own⟩ := List.mem_flatMap.mp member
      have child : Json.child? (.array list) (.index place) = some item :=
        List.mk_mem_zipIdx_iff_getElem?.mp entry
      exact told_of_child found tells (contained.part (.array .self)) has child issue own
    · exact told_of_issuesAt found contained fun reason member =>
        .array (ArrayRule.breaks_of_mem_reasons member)
  | _ => exact told_of_reject found contained (.arrayType (by simp [Json.kind]))

theorem object_told (wellFormed : value.WellFormed) (tells : TellsTruth d setting root down)
    {properties : List (String × Node)} {declared : List (String × Check)} {required : List String}
    {count : CountRange} {additional : Additional Node} {extra : Extra Check}
    (contained : d.Contains (.object properties required count additional))
    (each : List.Forall₂ (HasProperty d.names) properties declared)
    (others : HasExtra d.names count additional extra) :
    AllTold d setting root path (issuesOf
      (evalWith setting down (.object declared required extra (ObjectRule.draft count).1) value
        path)) := by
  cases value with
  | object members =>
    simp only [evalWith, issuesOf_settle, membersWith_issues, membersWith_kept,
      memberWith_counts each others]
    refine List.forall_mem_append.mpr ⟨List.forall_mem_append.mpr ⟨?_, ?_⟩, ?_⟩
    · intro issue member
      obtain ⟨⟨name, own⟩, inside, member⟩ := List.mem_flatMap.mp member
      have child : Json.child? (.object members) (.key name) = some own :=
        Json.member?_of_mem wellFormed.names inside
      rcases memberWith_cases down own path each others setting.stripUnknown name with
        ⟨node, check, schema, has, eq⟩ | ⟨-, -, clean, -⟩ | ⟨free, closed, eq⟩
      · rw [eq, MemberResult.of_issues] at member
        exact told_of_child found tells
          (contained.part (.of_memberNode? schema .self required count)) has child issue member
      · rw [clean] at member
        cases member
      · rw [eq, List.mem_singleton] at member
        subst member
        exact ⟨List.prefix_append path _, own, (Json.at?_snoc found _).trans child, _, contained,
          .unknown rfl closed free⟩
    · intro issue member
      obtain ⟨name, missed, rfl⟩ := List.mem_map.mp member
      obtain ⟨wanted, absent⟩ := List.mem_filter.mp missed
      refine told_of_reject found contained (.missing wanted fun there => ?_) _
        (List.mem_singleton.mpr rfl)
      simp [Json.hasMember_iff.mpr there] at absent
    · exact told_of_issuesAt found contained fun reason member =>
        .count (ObjectRule.breaks_of_mem_reasons member)
  | _ => exact told_of_reject found contained (.objectType (by simp [Json.kind]))

/-! ## Branches -/

section Branches

variable {branches : List Node} {checks : List Check} {levels : Nat}
  (each : List.Forall₂ (fun branch check => HasCheck d.names branch check ∧
    AllTold d setting root path (issuesOf (run setting (levels + 1) check value path)))
    branches checks)
include each

omit found in
/-- What a branch has found is told. -/
theorem told_of_branch {check : Check} (member : check ∈ checks) :
    AllTold d setting root path (issuesOf (run setting (levels + 1) check value path)) := by
  obtain ⟨branch, -, -, told⟩ := forall₂_mem_right each member
  exact told

include slots

/-- Where all branches refuse the value, the union tells what each of them has found. -/
theorem noBranch_told {mode : UnionMode} (contained : d.Contains (.union mode branches))
    (refused : ∀ check ∈ checks, ∃ issues,
      run setting (levels + 1) check value path = .error issues ∧
        anyDepthExceeded issues = false) :
    AllTold d setting root path (issuesOf (reject path (.noBranchMatched mode
      (refusals (branchResults setting (run setting levels) value path checks))))) := by
  have lists : refusals (branchResults setting (run setting levels) value path checks) =
      checks.map fun check => issuesOf (run setting (levels + 1) check value path) := by
    rw [refusals_eq_map, branchResults, List.map_map]
    · rfl
    · intro result member
      obtain ⟨check, inside, rfl⟩ := List.mem_map.mp member
      obtain ⟨issues, result, -⟩ := refused check inside
      exact ⟨issues, result⟩
  refine told_of_reject found contained (.noBranch ?_)
  rw [lists, List.forall₂_map_right_iff]
  refine forall₂_imp_of_mem each fun branch _ check member own => ?_
  obtain ⟨has, told⟩ := own
  obtain ⟨issues, result, within⟩ := refused check member
  have violated := (run_faithful slots (levels + 1) branch check value path has).rejected issues
    result within
  rw [result] at told ⊢
  refine ⟨violated, ?_, fun issue inside => (told issue inside).1, _, check, has, result⟩
  rintro rfl
  exact run_ne_error_nil setting _ check value path result

/-- Where several branches accept the value, an exclusive choice tells which. -/
theorem severalBranches_told (contained : d.Contains (.union .oneOf branches))
    {matched : List (Nat × Json)}
    (accepted : acceptedFrom 0 (branchResults setting (run setting levels) value path checks) =
      matched) (several : 2 ≤ matched.length) :
    AllTold d setting root path
      (issuesOf (reject path (.multipleBranchesMatched (matched.map (·.1))))) := by
  subst accepted
  obtain ⟨ascending, places⟩ := @acceptedFrom_places
    (branchResults setting (run setting levels) value path checks) 0
  refine told_of_reject found contained
    (.severalBranches (by simpa using several) ascending fun place member => ?_)
  obtain ⟨-, form, result⟩ := places place member
  obtain ⟨check, there, accepts⟩ := Option.map_eq_some_iff.mp
    ((List.getElem?_map ..).symm.trans result)
  obtain ⟨branch, own, has, -⟩ := forall₂_getElem? each.flip there
  exact ⟨branch, own, (run_faithful slots (levels + 1) branch check value path has).accepted form
    accepts⟩

theorem union_told {mode : UnionMode} (contained : d.Contains (.union mode branches)) :
    AllTold d setting root path
      (issuesOf (run setting (levels + 1) (.union mode checks) value path)) := by
  cases mode with
  | anyOf =>
    simp only [run, evalWith]
    rcases anyOfWith_cases setting (run setting levels) value path checks [] with
      ⟨check, member, -, eq⟩ | ⟨check, -, form, -, eq⟩ | ⟨eq, refused⟩
    · exact eq ▸ told_of_branch each member
    · rw [eq]
      exact allTold_nil
    · rw [eq]
      exact noBranch_told found slots each contained refused
  | oneOf =>
    simp only [run, evalWith]
    rcases oneOfWith_cases setting (run setting levels) value path checks 0 [] [] with
      ⟨check, member, -, eq⟩ | ⟨within, eq⟩
    · exact eq ▸ told_of_branch each member
    · rw [eq, List.nil_append, List.nil_append]
      cases accepted : acceptedFrom 0 (branchResults setting (run setting levels) value path checks)
        with
      | nil =>
        refine noBranch_told found slots each contained fun check member => ?_
        obtain ⟨issues, result⟩ :=
          refused_of_acceptedFrom_eq_nil accepted _ (List.mem_map_of_mem member)
        exact ⟨issues, result, by simpa [result, overrun_error] using within check member⟩
      | cons entry more =>
        cases more with
        | nil => exact allTold_nil
        | cons other more =>
          exact severalBranches_told found slots each contained accepted (by simp)

omit found slots in
theorem intersection_told : AllTold d setting root path
    (issuesOf (run setting (levels + 1) (.intersection checks) value path)) := by
  simp only [run, evalWith]
  rcases allOfWith_cases setting (run setting levels) value path checks [] [] with
    ⟨check, member, -, eq⟩ | ⟨-, eq⟩
  · exact eq ▸ told_of_branch each member
  · rw [eq, issuesOf_settle, List.nil_append]
    intro issue member
    obtain ⟨result, inside, own⟩ := List.mem_flatMap.mp member
    obtain ⟨check, among, rfl⟩ := List.mem_map.mp inside
    exact told_of_branch each among issue own

end Branches

include slots

theorem negation_told {inner : Node} {check : Check} {levels : Nat}
    (contained : d.Contains (.negation inner)) (has : HasCheck d.names inner check)
    (told : AllTold d setting root path (issuesOf (run setting (levels + 1) check value path))) :
    AllTold d setting root path
      (issuesOf (run setting (levels + 1) (.negation check) value path)) := by
  have faithful := run_faithful slots (levels + 1) inner check value path has
  simp only [run, evalWith] at told faithful ⊢
  cases result : evalWith setting (run setting levels) check value path with
  | ok form => exact told_of_reject found contained (.negation (faithful.accepted form result))
  | error issues =>
    rw [result] at told
    dsimp only
    split
    · exact told
    · exact allTold_nil

omit found

/-! ## All nodes -/

/-- Within any budget, checks tell the truth about values that JSON has. One level is gone through
by induction on the node, for branches and what is negated stay on it. -/
theorem run_tellsTruth (wellFormed : root.WellFormed) (levels : Nat) :
    TellsTruth d setting root (run setting levels) := by
  induction levels with
  | zero =>
    intro node check value path contained _ found
    exact told_of_reject found contained .depth
  | succ levels ih =>
    intro node check value path contained has found
    have ofParts {branches : List Node} {checks : List Check}
        (each : List.Forall₂ (HasCheck d.names) branches checks)
        (parts : ∀ branch ∈ branches, ∀ check, HasCheck d.names branch check →
          AllTold d setting root path (issuesOf (run setting (levels + 1) check value path))) :
        List.Forall₂ (fun branch check => HasCheck d.names branch check ∧
          AllTold d setting root path (issuesOf (run setting (levels + 1) check value path)))
          branches checks :=
      forall₂_imp_of_mem each fun branch inside check _ has => ⟨has, parts branch inside check has⟩
    induction node generalizing check with
    | scalar kind format constraints => exact scalar_told found contained has
    | enum values =>
      cases has.form
      simp only [run, evalWith]
      split
      · exact allTold_nil
      · next unlisted =>
        exact told_of_reject found contained (.enum (by simpa using unlisted))
    | unknown token raw =>
      cases has.form
      exact allTold_nil
    | array items count unique =>
      cases has.form with
      | array inner => exact array_told found ih contained inner
    | object properties required count additional =>
      cases has.form with
      | object each others =>
        exact object_told found (wellFormed.at? found) ih contained each others
    | union mode branches ihBranch =>
      cases has.form with
      | union each =>
        exact union_told found slots (ofParts each fun branch inside check has =>
          ihBranch branch inside check (contained.part (.union inside .self)) has) contained
    | intersection branches ihBranch =>
      cases has.form with
      | intersection each =>
        exact intersection_told (ofParts each fun branch inside check has =>
          ihBranch branch inside check (contained.part (.intersection inside .self)) has)
    | negation inner ihInner =>
      cases has.form with
      | negation part =>
        exact negation_told found slots contained part
          (ihInner _ (contained.part (.negation .self)) part)
    | reference name =>
      cases has.form with
      | reference slot =>
        obtain ⟨node, entry, place⟩ := Document.node?_of_slot slot
        simp only [run, evalWith]
        exact ih node _ value path ⟨_, List.mem_of_getElem? place, .self⟩ (slots _ _ _ place) found

/-- Failures in an issue are told if the issue is: each of them is one that a branch has found with
the same value. -/
theorem told_of_within (wellFormed : root.WellFormed) {part issue : Issue}
    (told : issue.Told d setting root) (inside : part.Within issue) : part.Told d setting root := by
  induction inside with
  | self => exact told
  | failure among member _ ih =>
    obtain ⟨value, found, node, contained, refuses⟩ := told
    cases refuses with
    | noBranch each =>
      obtain ⟨branch, own, -, -, -, levels, check, has, result⟩ := forall₂_mem_right each among
      have tells := run_tellsTruth slots wellFormed levels branch check value _
        (contained.part (.union own .self)) has found
      rw [result] at tells
      exact ih (tells _ member).2
    | string broken => cases broken
    | number _ broken => cases broken
    | array broken => cases broken
    | count broken => cases broken

end Steps
end Check

namespace Registry

/-- A rejection by an entry of a document that builds has an issue, and every issue, and every
failure in one at any depth, is told of the value: its path leads to a place in the value, and its
reason is one for which a node of the document refuses what stands there. -/
theorem told_of_rejected (options : Options) (d : Document) (r : Registry)
    (built : build options d = .ok r) (name : String) (value : Json) (wellFormed : value.WellFormed)
    (issues : List Issue) (rejected : r.validate? name value = some (.rejected issues)) :
    issues ≠ [] ∧ ∀ issue ∈ issues, ∀ part : Issue, part.Within issue →
      part.Told d r.setting value := by
  obtain ⟨compiled, from'⟩ := builtFrom_of_build built
  obtain ⟨slot, found, result⟩ := validate?_eq_rejected_iff.mp rejected
  rw [slot?, from'.names] at found
  obtain ⟨node, -, place⟩ := Document.node?_of_slot found
  refine ⟨?_, fun issue member part inside => ?_⟩
  · rintro rfl
    exact Check.run_ne_error_nil _ _ _ _ _ result
  · have slots (slot : Nat) (name : String) (node : Node)
        (place : d.entries[slot]? = some (name, node)) :
        HasCheck d.names node (r.setting.slots.getD slot .any) := from'.hasCheck place
    have tells := Check.run_tellsTruth slots wellFormed (r.setting.maxDepth + 1) node _ value []
      ⟨_, List.mem_of_getElem? place, .self⟩ (from'.hasCheck place) rfl
    rw [result] at tells
    exact Check.told_of_within slots wellFormed (tells issue member).2 inside

/-- Orders of one thing, or of a few different ones, and of nothing else. -/
def orders : Document :=
  ⟨[("Order", .object [("of", .reference "Things"), ("count", .plain .integer)] ["of", "count"] {}
      .deny),
    ("Things", .union .anyOf [.scalar .string none { minLength := some 2 },
      .array (.plain .string) ⟨none, some 2⟩ true])], []⟩

/-- An order of too many things, two of them equal, with a note but without a count. -/
def badOrder : Json :=
  .object [("of", .array [.string "a", .string "b", .string "a"]), ("note", .null)]

/-- The two equal things are told of, as a failure of the second branch for things. -/
theorem equal_things_are_told :
    badOrder.WellFormed ∧ ∃ r, build {} orders = .ok r ∧
      r.validate? "Order" badOrder = some (.rejected
        [⟨[.key "of"], .noBranchMatched .anyOf
          [[⟨[.key "of"], .type "string" .array⟩],
            [⟨[.key "of"], .tooManyItems 2 3⟩, ⟨[.key "of"], .duplicateItems 0 2⟩]]⟩,
          ⟨[.key "note"], .unknownProperty "note"⟩, ⟨[], .missingProperty "count"⟩]) ∧
      Issue.Told orders r.setting badOrder ⟨[.key "of"], .duplicateItems 0 2⟩ := by
  have wellFormed : badOrder.WellFormed := by
    refine .object (by decide) ?_
    simp only [List.forall_mem_cons, List.not_mem_nil, false_implies, implies_true, and_true]
    refine ⟨.array ?_, .null⟩
    simp only [List.forall_mem_cons, List.not_mem_nil, false_implies, implies_true, and_true]
    exact ⟨.string, .string, .string⟩
  refine ⟨wellFormed, _, rfl, rfl, ?_⟩
  refine (told_of_rejected {} orders _ rfl "Order" badOrder wellFormed _ rfl).2 _
    List.mem_cons_self _ (.failure (List.mem_cons_of_mem _ List.mem_cons_self) ?_ .self)
  exact List.mem_cons_of_mem _ List.mem_cons_self

end Registry
end DataSchema
