import DataSchema.Proofs.Parts

/-!
Stripping and verdicts. A check looks at the value that it is given and never at a form that it has
accepted, so members that are stripped are missed nowhere but in the form: the same values are
accepted, and others are rejected for the same issues. Only a least count of members sees a
difference, where it counts members that are let through.
-/
namespace DataSchema

/-- An object that asks for a number of members and lets others through than those it declares. A
greatest count would close it. -/
def Node.countsOthers : Node → Bool
  | .object _ _ count .allow => count.min.isSome && count.max.isNone
  | _ => false

/-- No object at any depth of any entry asks for a number of members and lets others through. -/
def Document.CountsNoOthers (d : Document) : Prop :=
  ∀ entry ∈ d.entries, ∀ part : Node, part.Within entry.2 → part.countsOthers = false

/-- No object at any depth of a check has a rule on the count of members and lets others through. -/
def Check.CountsNoOthers (check : Check) : Prop :=
  ∀ properties required rules, (Check.object properties required .allow rules).Within check →
    rules = []

theorem Registry.BuiltFrom.countsNoOthers {d : Document} {r : Registry}
    {compiled : List (Compiled Check)} (built : BuiltFrom d r compiled) (free : d.CountsNoOthers)
    (slot : Nat) : (r.checks.getD slot .any).CountsNoOthers := by
  intro properties required rules within
  rcases built.exists_within within with any | ⟨entry, member, inner, inside, has⟩
  · cases any
  · have free := free entry member inner inside
    cases has.form with
    | @object _ _ _ count _ _ each others =>
      cases others with
      | allowed opened =>
        have unbounded : count.max = none :=
          Option.isNone_iff_eq_none.mp (Option.isSome_eq_false_iff.mp opened)
        have free : count.min = none := by simpa [Node.countsOthers, unbounded] using free
        simp [ObjectRule.draft, unbounded, free]

namespace Check

/-! ## Results -/

/-- Both are accepted, whatever the forms, or both are refused for the same issues. -/
inductive SameIssues : Checked → Checked → Prop
  | accepted {form form' : Json} : SameIssues (.ok form) (.ok form')
  | refused {issues : List Issue} : SameIssues (.error issues) (.error issues)

namespace SameIssues

variable {result result' : Checked}

theorem refl (result : Checked) : SameIssues result result := by
  cases result with
  | ok form => exact .accepted
  | error issues => exact .refused

theorem issuesOf_eq (same : SameIssues result result') : issuesOf result = issuesOf result' := by
  cases same with
  | accepted => rfl
  | refused => rfl

theorem settled (form form' : Json) {issues issues' : List Issue} (equal : issues = issues') :
    SameIssues (settle form issues) (settle form' issues') := by
  subst equal
  cases issues with
  | nil => exact .accepted
  | cons issue rest => exact .refused

end SameIssues

variable {setting setting' : Setting} {down down' : Descent} {value : Json} {path : Path}

/-! ## Members -/

/-- A member has the same issues either way. It counts either way, unless it is one that is let
through. -/
theorem memberWith_sameIssues {properties : List (String × Check)} {extra : Extra Check}
    (path : Path) (name : String) (value : Json)
    (parts : ∀ check, memberCheck? properties extra name = some check →
      SameIssues (down check value (path ++ [.key name])) (down' check value (path ++ [.key name])))
    (strip strip' : Bool) :
    (memberWith strip down properties extra path name value).issues =
        (memberWith strip' down' properties extra path name value).issues ∧
      (extra ≠ .allow → (memberWith strip down properties extra path name value).counts =
        (memberWith strip' down' properties extra path name value).counts) := by
  cases given : memberCheck? properties extra name with
  | some check =>
    simp only [memberWith_of_check given, MemberResult.of_issues, MemberResult.of_counts]
    exact ⟨(parts check given).issuesOf_eq, fun _ => trivial⟩
  | none =>
    simp only [memberWith_of_none given]
    cases extra with
    | allow =>
      refine ⟨?_, fun other => absurd rfl other⟩
      cases strip <;> cases strip' <;> rfl
    | _ => exact ⟨rfl, fun _ => rfl⟩

/-! ## Branches -/

section Branches

variable {branches : List Check}
  (each : ∀ branch ∈ branches, SameIssues (evalWith setting down branch value path)
    (evalWith setting' down' branch value path))
include each

theorem anyOfWith_sameIssues (failures : List (List Issue)) :
    SameIssues (anyOfWith setting down branches value path failures)
      (anyOfWith setting' down' branches value path failures) := by
  induction branches generalizing failures with
  | nil => exact .refused
  | cons branch rest ih =>
    have first := each branch (by simp)
    have later := ih fun other inside => each other (by simp [inside])
    simp only [anyOfWith]
    generalize evalWith setting down branch value path = result at first ⊢
    generalize evalWith setting' down' branch value path = result' at first ⊢
    cases first with
    | accepted => exact .accepted
    | refused =>
      dsimp only
      split
      · exact .refused
      · exact later _

theorem oneOfWith_sameIssues (index : Nat) {matched matched' : List (Nat × Json)}
    (places : matched.map Prod.fst = matched'.map Prod.fst) (failures : List (List Issue)) :
    SameIssues (oneOfWith setting down branches value path index matched failures)
      (oneOfWith setting' down' branches value path index matched' failures) := by
  induction branches generalizing index matched matched' failures with
  | nil =>
    have count := congrArg List.length places
    simp only [List.length_map] at count
    match matched, matched', count with
    | [], [], _ => exact .refused
    | [_], [_], _ => exact .accepted
    | _ :: _ :: _, _ :: _ :: _, _ =>
      simp only [oneOfWith, places]
      exact .refused
  | cons branch rest ih =>
    have first := each branch (by simp)
    have later {index : Nat} := @ih (fun other inside => each other (by simp [inside])) index
    simp only [oneOfWith]
    generalize evalWith setting down branch value path = result at first ⊢
    generalize evalWith setting' down' branch value path = result' at first ⊢
    cases first with
    | accepted => exact later (by simp [places]) failures
    | refused =>
      dsimp only
      split
      · exact .refused
      · exact later places _

theorem allOfWith_sameIssues (outputs outputs' : List Json) (issues : List Issue) :
    SameIssues (allOfWith setting down branches value path outputs issues)
      (allOfWith setting' down' branches value path outputs' issues) := by
  induction branches generalizing outputs outputs' issues with
  | nil => exact .settled _ _ rfl
  | cons branch rest ih =>
    have first := each branch (by simp)
    have later := ih fun other inside => each other (by simp [inside])
    simp only [allOfWith]
    generalize evalWith setting down branch value path = result at first ⊢
    generalize evalWith setting' down' branch value path = result' at first ⊢
    cases first with
    | accepted => exact later _ _ _
    | refused =>
      dsimp only
      split
      · exact .refused
      · exact later _ _ _

end Branches

/-! ## Checks -/

/-- Steps down of two kinds have the same issues. -/
def KeepIssues (down down' : Descent) : Prop :=
  ∀ check : Check, check.CountsNoOthers → ∀ value path,
    SameIssues (down check value path) (down' check value path)

/-- One level has the same issues if the steps down have. The two may differ in what they strip. -/
theorem evalWith_keepIssues (table : setting.slots = setting'.slots)
    (free : ∀ slot, (setting.slots.getD slot .any).CountsNoOthers)
    (parts : KeepIssues down down') :
    KeepIssues (evalWith setting down) (evalWith setting' down') := by
  intro check
  induction check with
  | any => exact fun _ value path => .refl _
  | string rules =>
    intro _ value path
    simp only [evalWith]
    exact .refl _
  | number integer rules =>
    intro _ value path
    simp only [evalWith]
    exact .refl _
  | boolean =>
    intro _ value path
    simp only [evalWith]
    exact .refl _
  | null =>
    intro _ value path
    simp only [evalWith]
    exact .refl _
  | enum values =>
    intro _ value path
    simp only [evalWith]
    exact .refl _
  | array items rules =>
    intro own value path
    cases value with
    | array list =>
      have inner : items.CountsNoOthers := fun properties required rules inside =>
        own properties required rules (.array inside)
      have same (item : Json) (place : Nat) := parts items inner item (path ++ [.index place])
      simp only [evalWith, itemsWith_issues, fun item place => (same item place).issuesOf_eq]
      exact .settled _ _ rfl
    | _ => exact .refl _
  | object properties required extra rules =>
    intro own value path
    cases value with
    | object members =>
      have same (member : String × Json) :=
        memberWith_sameIssues path member.1 member.2
          (fun check given => parts check
            (fun _ _ _ inside => own _ _ _ (.of_memberCheck? given inside required rules)) _ _)
          setting.stripUnknown setting'.stripUnknown
      -- Where more members are let through, nothing asks how many there are.
      have counted (kept kept' : Nat) (equal : extra ≠ .allow → kept = kept') :
          ObjectRule.reasons rules kept = ObjectRule.reasons rules kept' := by
        cases extra with
        | allow =>
          rw [own properties required rules .self]
          rfl
        | _ => rw [equal (by simp)]
      simp only [evalWith, membersWith_issues, membersWith_kept]
      refine .settled _ _ ?_
      rw [counted _ _ fun other => List.countP_congr fun member _ => by
        rw [(same member).2 other]]
      simp only [fun member => (same member).1]
    | _ => exact .refl _
  | union mode branches ih =>
    intro own value path
    have each (branch : Check) (member : branch ∈ branches) := ih branch member
      (fun properties required rules inside => own properties required rules (.union member inside))
      value path
    cases mode with
    | anyOf =>
      simp only [evalWith]
      exact anyOfWith_sameIssues each []
    | oneOf =>
      simp only [evalWith]
      exact oneOfWith_sameIssues each 0 rfl []
  | intersection branches ih =>
    intro own value path
    have each (branch : Check) (member : branch ∈ branches) := ih branch member
      (fun properties required rules inside =>
        own properties required rules (.intersection member inside)) value path
    simp only [evalWith]
    exact allOfWith_sameIssues each [] [] []
  | negation inner ih =>
    intro own value path
    have same := ih (fun properties required rules inside =>
      own properties required rules (.negation inside)) value path
    simp only [evalWith]
    generalize evalWith setting down inner value path = result at same ⊢
    generalize evalWith setting' down' inner value path = result' at same ⊢
    cases same with
    | accepted => exact .refused
    | refused => exact .refl _
  | ref slot =>
    intro _ value path
    simp only [evalWith, ← table]
    exact parts _ (free slot) value path

/-- Within equal budgets, checks have the same issues whatever is stripped. -/
theorem run_keepIssues (table : setting.slots = setting'.slots)
    (limit : setting.maxDepth = setting'.maxDepth)
    (free : ∀ slot, (setting.slots.getD slot .any).CountsNoOthers) (levels : Nat) :
    KeepIssues (run setting levels) (run setting' levels) := by
  induction levels with
  | zero =>
    intro check _ value path
    simp only [run, limit]
    exact .refl _
  | succ levels ih => exact evalWith_keepIssues table free ih

end Check

/-! ## Outcomes -/

/-- Both outcomes accept, whatever the forms, or both reject for the same issues. -/
inductive Outcome.SameIssues : Outcome → Outcome → Prop
  | accepted {form form' : Json} : Outcome.SameIssues (.accepted form) (.accepted form')
  | rejected {issues : List Issue} : Outcome.SameIssues (.rejected issues) (.rejected issues)

theorem Check.outcome_sameIssues (setting setting' : Setting)
    (table : setting.slots = setting'.slots) (limit : setting.maxDepth = setting'.maxDepth)
    (free : ∀ slot, (setting.slots.getD slot .any).CountsNoOthers) (slot : Nat) (value : Json) :
    Outcome.SameIssues (outcome setting (setting.slots.getD slot .any) value)
      (outcome setting' (setting.slots.getD slot .any) value) := by
  have same := run_keepIssues table limit free (setting.maxDepth + 1) _ (free slot) value []
  unfold outcome
  rw [← limit]
  generalize run setting (setting.maxDepth + 1) _ value [] = result at same ⊢
  generalize run setting' (setting.maxDepth + 1) _ value [] = result' at same ⊢
  cases same with
  | accepted => exact .accepted
  | refused => exact .rejected

namespace Registry

/-- A document that asks no object that lets others through for a number of members has the same
verdicts whether members are stripped or not, and rejects for the same issues. -/
theorem verdict_of_stripping (d : Document) (free : d.CountsNoOthers) (maxDepth : Nat)
    (r : Registry) (built : build ⟨maxDepth, .passthrough⟩ d = .ok r) :
    ∃ s, build ⟨maxDepth, .strip⟩ d = .ok s ∧ ∀ name value,
      Option.Rel Outcome.SameIssues (r.validate? name value) (s.validate? name value) := by
  have options : r.options = ⟨maxDepth, .passthrough⟩ := options_of_build built
  obtain ⟨compiled, from'⟩ := builtFrom_of_build built
  refine ⟨{ r with options := ⟨maxDepth, .strip⟩ }, ?_, fun name value => ?_⟩
  · rw [build_options ⟨maxDepth, .passthrough⟩, built]
    rfl
  · have free := from'.countsNoOthers free
    -- Both registries have the same names, and so the same slots.
    change Option.Rel Outcome.SameIssues ((r.slot? name).map fun slot => r.validateSlot slot value)
      ((r.slot? name).map fun slot =>
        validateSlot { r with options := ⟨maxDepth, .strip⟩ } slot value)
    cases r.slot? name with
    | none => exact .none
    | some slot =>
      exact .some (Check.outcome_sameIssues r.setting ⟨r.checks, maxDepth, true⟩ rfl
        (by simp [setting, options]) free slot value)

-- A least count is a count of the members that are kept, so it can miss one that is stripped.
example :
    ((build ⟨1, .passthrough⟩ ⟨[("Some", .object [] [] ⟨some 1, none⟩ .allow)], []⟩).toOption.bind
      (validate? · "Some" (.object [("a", .null)]))).any Outcome.isAccepted = true ∧
    ((build ⟨1, .strip⟩ ⟨[("Some", .object [] [] ⟨some 1, none⟩ .allow)], []⟩).toOption.bind
      (validate? · "Some" (.object [("a", .null)]))).any Outcome.isAccepted = false :=
  ⟨rfl, rfl⟩

/-- Folders, which may say more of themselves, and everything else. No two folders in a folder are
equal. -/
def folders : Document :=
  ⟨[("Folder", .object [("name", .plain .string), ("inner", .array (.reference "Folder") {} true)]
      ["name"] {} .allow),
    ("Other", .negation (.reference "Folder"))], []⟩

/-- An empty folder with an owner, whom no schema declares. -/
def ownedFolder (owner : String) : Json :=
  .object [("name", .string "a"), ("owner", .string owner)]

/-- A folder of two folders that differ in their owners only. -/
def sharedFolder : Json :=
  .object [("name", .string "b"), ("inner", .array [ownedFolder "c", ownedFolder "d"])]

/-- Two folders that are equal once their owners are stripped are not taken to be equal. -/
theorem shared_folder_is_accepted_stripped :
    folders.CountsNoOthers ∧ ∃ r, build ⟨5, .passthrough⟩ folders = .ok r ∧
      ∃ s, build ⟨5, .strip⟩ folders = .ok s ∧
        (s.validate? "Folder" sharedFolder).any Outcome.isAccepted = true ∧
        s.validate? "Other" sharedFolder = some (.rejected [⟨[], .negatedSchemaMatched⟩]) := by
  have free : folders.CountsNoOthers := by
    intro entry member part within
    simp only [folders, List.mem_cons, List.not_mem_nil, or_false] at member
    rcases member with rfl | rfl
    · cases within with
      | self => rfl
      | property declared inside =>
        simp only [List.mem_cons, List.not_mem_nil, or_false] at declared
        rcases declared with rfl | rfl
        · cases inside
          rfl
        · cases inside with
          | self => rfl
          | array inside =>
            cases inside
            rfl
    · cases within with
      | self => rfl
      | negation inside =>
        cases inside
        rfl
  refine ⟨free, _, rfl, ?_⟩
  obtain ⟨s, built, same⟩ := verdict_of_stripping folders free 5 _ rfl
  have folder : Option.Rel Outcome.SameIssues (some (.accepted sharedFolder))
    (s.validate? "Folder" sharedFolder) := same "Folder" sharedFolder
  have other : Option.Rel Outcome.SameIssues (some (.rejected [⟨[], .negatedSchemaMatched⟩]))
    (s.validate? "Other" sharedFolder) := same "Other" sharedFolder
  refine ⟨s, built, ?_, ?_⟩
  · obtain ⟨outcome, given, alike⟩ := exists_of_rel folder
    cases alike
    rw [given]
    rfl
  · obtain ⟨outcome, given, alike⟩ := exists_of_rel other
    cases alike
    exact given

end Registry
end DataSchema
