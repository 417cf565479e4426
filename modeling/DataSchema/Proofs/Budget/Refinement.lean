import DataSchema.Proofs.Compilation

/-!
Larger budgets. A result that tells of no overrun stays the same, issue by issue, under any larger
budget: one level refines another when the levels below do, and so do whole evaluations. Negations
and exclusive choices are no exception, since they hand an overrun on instead of turning it round.
-/
namespace DataSchema
namespace Check

/-- A result with an overrun may become any other; a result without one stays as it is. -/
def Refines (small large : Checked) : Prop := Overrun small ∨ small = large

theorem Refines.refl (result : Checked) : Refines result result := .inr rfl

theorem Refines.eq_of_within {small large : Checked} (refines : Refines small large)
    (within : ¬ Overrun small) : small = large := refines.resolve_left within

/-- A result is refined if it is the same whenever it has no overrun. -/
theorem Refines.of_within {small large : Checked} (same : ¬ Overrun small → small = large) :
    Refines small large := by
  by_cases deep : Overrun small
  · exact .inl deep
  · exact .inr (same deep)

variable {setting : Setting} {down down' : Descent} {value : Json} {path : Path} {deeper : Nat}

section Branches

variable {setting' : Setting} {branches branches' : List Check}
  (each : List.Forall₂ (fun branch branch' => Refines (evalWith setting down branch value path)
    (evalWith setting' down' branch' value path)) branches branches')
include each

theorem anyOfWith_refines (failures : List (List Issue)) :
    Refines (anyOfWith setting down branches value path failures)
      (anyOfWith setting' down' branches' value path failures) := by
  induction each generalizing failures with
  | nil => exact .refl _
  | @cons branch _ _ _ first _ ih =>
    rcases first with deep | same
    · cases result : evalWith setting down branch value path with
      | ok form => exact absurd (result ▸ deep) (not_overrun_ok form)
      | error issues =>
        rw [result, overrun_error] at deep
        exact .inl (by simp [anyOfWith, result, deep, overrun_error])
    · simp only [anyOfWith, same]
      split
      · exact .refl _
      · split
        · exact .refl _
        · exact ih _

theorem oneOfWith_refines :
    Refines (oneOfWith setting down branches value path 0 [] [])
      (oneOfWith setting' down' branches' value path 0 [] []) := by
  refine .of_within fun within => ?_
  rw [overrun_oneOf_iff, not_exists] at within
  refine oneOfWith_congr (forall₂_imp_of_mem each fun branch member _ _ refines => ?_) 0 [] []
  exact refines.eq_of_within fun deep => within branch ⟨member, deep⟩

theorem allOfWith_refines :
    Refines (allOfWith setting down branches value path [] [])
      (allOfWith setting' down' branches' value path [] []) := by
  refine .of_within fun within => ?_
  rw [overrun_allOf_iff, not_exists] at within
  refine allOfWith_congr (forall₂_imp_of_mem each fun branch member _ _ refines => ?_) [] []
  exact refines.eq_of_within fun deep => within branch ⟨member, deep⟩

end Branches

/-- One level is refined when every step down is. -/
theorem evalWith_refines
    (parts : ∀ check value path, Refines (down check value path) (down' check value path))
    (check : Check) :
    Refines (evalWith setting down check value path)
      (evalWith { setting with maxDepth := deeper } down' check value path) := by
  induction check with
  | any => exact .refl _
  | string rules => simp only [evalWith]; exact .refl _
  | number integer rules => simp only [evalWith]; exact .refl _
  | boolean => simp only [evalWith]; exact .refl _
  | null => simp only [evalWith]; exact .refl _
  | enum values => simp only [evalWith]; exact .refl _
  | array items rules =>
    refine .of_within fun within => ?_
    simp only [overrun_array_iff, not_exists, not_and] at within
    cases value with
    | array list =>
      have same := itemsWith_congr fun entry member =>
        (parts items entry.1 (path ++ [.index entry.2])).eq_of_within (within list rfl entry member)
      simp only [evalWith, same]
    | _ => rfl
  | object properties required extra rules =>
    refine .of_within fun within => ?_
    simp only [overrun_object_iff, not_exists, not_and] at within
    cases value with
    | object members =>
      have same := membersWith_congr fun m member =>
        memberWith_congr (fun check given =>
          (parts check m.2 (path ++ [.key m.1])).eq_of_within
            (within members rfl m member check given)) setting.stripUnknown
      simp only [evalWith, same]
    | _ => rfl
  | union mode branches ih =>
    cases mode with
    | anyOf =>
      simp only [evalWith]
      exact anyOfWith_refines (List.forall₂_same.mpr ih) []
    | oneOf =>
      simp only [evalWith]
      exact oneOfWith_refines (List.forall₂_same.mpr ih)
  | intersection branches ih =>
    simp only [evalWith]
    exact allOfWith_refines (List.forall₂_same.mpr ih)
  | negation inner ih =>
    refine .of_within fun within => ?_
    have same := ih.eq_of_within (mt overrun_negation_iff.mpr within)
    simp only [evalWith, same]
  | ref slot => exact parts (setting.slots.getD slot .any) value path

/-- More levels refine a run, whatever limit its issues tell of. -/
theorem run_refines {levels levels' : Nat} (more : levels ≤ levels') (check : Check) (value : Json)
    (path : Path) :
    Refines (run setting levels check value path)
      (run { setting with maxDepth := deeper } levels' check value path) := by
  induction levels generalizing levels' check value path with
  | zero => exact .inl rfl
  | succ levels ih =>
    obtain ⟨below, rfl⟩ : ∃ below, levels' = below + 1 := ⟨levels' - 1, by omega⟩
    exact evalWith_refines (fun check value path => ih (by omega) check value path) check

/-- An outcome without an overrun stays the same when the result is refined. -/
theorem outcome_of_refines {setting' : Setting} {check check' : Check} {value : Json}
    (refines : Refines (run setting (setting.maxDepth + 1) check value [])
      (run setting' (setting'.maxDepth + 1) check' value []))
    (within : (outcome setting check value).depthExceeded = false) :
    outcome setting' check' value = outcome setting check value := by
  have same := refines.eq_of_within fun deep => by
    rw [depthExceeded_outcome_iff.mpr deep] at within
    cases within
  unfold outcome
  rw [same]

end Check

namespace Registry

/-- An outcome without an overrun stays the same when the budget grows. -/
theorem outcome_of_more_levels (setting : Setting) {deeper : Nat}
    (more : setting.maxDepth ≤ deeper) (check : Check) (value : Json)
    (within : (Check.outcome setting check value).depthExceeded = false) :
    Check.outcome { setting with maxDepth := deeper } check value =
      Check.outcome setting check value :=
  Check.outcome_of_refines (Check.run_refines (Nat.succ_le_succ more) check value []) within

/-- Raising the budget never changes an outcome that kept within it: the document builds again, and
every entry gives the same accepted form or the same issues. -/
theorem outcome_of_larger_budget (d : Document) (r : Registry) (keys : UnknownKeys)
    {small large : Nat} (more : small ≤ large) (built : build ⟨small, keys⟩ d = .ok r) :
    ∃ r', build ⟨large, keys⟩ d = .ok r' ∧ ∀ name value outcome,
      r.validate? name value = some outcome → outcome.depthExceeded = false →
        r'.validate? name value = some outcome := by
  have options : r.options = ⟨small, keys⟩ := options_of_build built
  refine ⟨{ r with options := ⟨large, keys⟩ }, ?_, ?_⟩
  · rw [build_options ⟨small, keys⟩, built]
    rfl
  · intro name value outcome given within
    obtain ⟨slot, found, rfl⟩ := Option.map_eq_some_iff.mp given
    refine Option.map_eq_some_iff.mpr ⟨slot, found, ?_⟩
    have same := outcome_of_more_levels r.setting (by simpa [setting, options] using more)
      (r.checks.getD slot .any) value within
    simpa [validateSlot, setting, options] using same

/-- Lists of lists at any depth, and the values that are none. -/
def nestedLists : Document :=
  ⟨[("Nest", .array (.reference "Nest") {} false), ("Other", .negation (.reference "Nest"))], []⟩

/-- Three levels are enough to tell that a list in a list is no other value, so five are. -/
theorem nested_list_with_larger_budget :
    3 ≤ 5 ∧ ∃ r, build ⟨3, .strip⟩ nestedLists = .ok r ∧
      ∃ r', build ⟨5, .strip⟩ nestedLists = .ok r' ∧
        r'.validate? "Other" (.array [.array []]) =
          some (.rejected [⟨[], .negatedSchemaMatched⟩]) := by
  refine ⟨by decide, _, rfl, ?_⟩
  obtain ⟨r', built', same⟩ :=
    outcome_of_larger_budget nestedLists _ .strip (by decide : 3 ≤ 5) rfl
  exact ⟨r', built', same "Other" (.array [.array []]) _ rfl rfl⟩

end Registry
end DataSchema
