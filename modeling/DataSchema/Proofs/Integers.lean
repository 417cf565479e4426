import DataSchema.Proofs.Compilation
import DataSchema.Proofs.DeepEqual.Order
import DataSchema.Proofs.Meaning.Limits
import DataSchema.Proofs.Meaning.Rules

/-!
Integers of 64 bits. They are compared by the numbers nearest to them, so those beyond 53 bits may
be taken for one another, as repeated items, as values of an enumeration and at the ends of the
range of a format. All others are compared by value.
-/
namespace DataSchema

open Binary64 (Rounds rounded)

/-- Of all numbers, one is nearest to both integers. -/
def SameNearest (a b : Int) : Prop :=
  ∃ units, Rounds (a * Binary64.unitsPerOne) 1 units ∧ Rounds (b * Binary64.unitsPerOne) 1 units

variable {a b v : Int}

theorem sameNearest_iff : SameNearest a b ↔ rounded a = rounded b := by
  have positive : (Binary64.unitsPerOne : Int) ≠ 0 := by
    have := Binary64.unitsPerOne_pos
    omega
  constructor
  · rintro ⟨units, ofA, ofB⟩
    have same := (ofA.unique (Binary64.rounds_units a)).symm.trans
      (ofB.unique (Binary64.rounds_units b))
    exact Int.eq_of_mul_eq_mul_right positive same
  · intro same
    have ofA := Binary64.rounds_units a
    rw [same] at ofA
    exact ⟨_, ofA, Binary64.rounds_units b⟩

/-- Integers that are not told apart have more than 53 bits and are close to each other. -/
theorem SameNearest.close (same : SameNearest a b) (small : a.natAbs < 2 ^ 64)
    (small' : b.natAbs < 2 ^ 64) (different : a ≠ b) :
    2 ^ 53 ≤ a.natAbs ∧ 2 ^ 53 ≤ b.natAbs ∧ (a - b).natAbs ≤ 2 ^ 11 := by
  have image := sameNearest_iff.mp same
  have large {a b : Int} (image : rounded a = rounded b) (different : a ≠ b) :
      2 ^ 53 ≤ a.natAbs := by
    by_contra short
    have few : a.natAbs < 2 ^ Binary64.precision := Nat.lt_of_not_le short
    rw [(Binary64.rounded_eq_iff few).mpr rfl] at image
    exact different ((Binary64.rounded_eq_iff few).mp image.symm).symm
  have near := Binary64.rounded_near small
  have near' := Binary64.rounded_near small'
  exact ⟨large image different, large image.symm different.symm, by omega⟩

theorem Json.deepEqual_int_iff (fits : (Number.int a).WellFormed)
    (fits' : (Number.int b).WellFormed) :
    (Json.int a).deepEqual (Json.int b) = true ↔ SameNearest a b := by
  rw [sameNearest_iff, ← Binary64.eq_ofInt_iff fits.natAbs_lt fits'.natAbs_lt, Json.int, Json.int,
    deepEqual_iff_alike (.number fits) (.number fits')]
  constructor
  · intro alike
    cases alike with
    | number equal => exact equal
  · intro equal
    refine .number ?_
    exact equal

theorem Json.repeatAt_int_iff {list : List Int} (fits : ∀ i ∈ list, (Number.int i).WellFormed)
    {earlier later : Nat} : RepeatAt (list.map Json.int) earlier later ↔
      earlier < later ∧ ∃ a b, list[earlier]? = some a ∧ list[later]? = some b ∧
        SameNearest a b := by
  unfold RepeatAt
  refine and_congr_right fun _ => ?_
  simp only [List.getElem?_map, Option.map_eq_some_iff]
  constructor
  · rintro ⟨v, w, ⟨a, atA, rfl⟩, ⟨b, atB, rfl⟩, equal⟩
    have inA := fits a (List.mem_of_getElem? atA)
    have inB := fits b (List.mem_of_getElem? atB)
    exact ⟨a, b, atA, atB, (deepEqual_int_iff inA inB).mp equal⟩
  · rintro ⟨a, b, atA, atB, same⟩
    have inA := fits a (List.mem_of_getElem? atA)
    have inB := fits b (List.mem_of_getElem? atB)
    exact ⟨_, _, ⟨a, atA, rfl⟩, ⟨b, atB, rfl⟩, (deepEqual_int_iff inA inB).mpr same⟩

theorem Check.accepts_enum_iff {values : List Json} {value : Json} (setting : Setting)
    (levels : Nat) (path : Path) :
    (∃ form, run setting (levels + 1) (.enum values) value path = .ok form) ↔
      ∃ allowed ∈ values, allowed.deepEqual value = true := by
  rw [← List.any_eq_true, run, evalWith]
  cases values.any fun allowed => allowed.deepEqual value <;> simp [reject]

/-- Integers are compared by the numbers nearest to them. Items that have to be unique are told of
as repeated exactly if two of them have the same nearest number, and an enumeration accepts an
integer exactly if a listed one has the same nearest number. Two integers of which this is true are
one and the same, or both have more than 53 bits and are close to each other. -/
theorem integers_compared_by_nearest :
    (∀ (rules : List ArrayRule) (list : List Int), .uniqueItems ∈ rules →
      (∀ i ∈ list, (Number.int i).WellFormed) →
      ((∃ first second, .duplicateItems first second ∈
          ArrayRule.reasons rules (list.map Json.int)) ↔
        ∃ earlier later : Nat, earlier < later ∧ ∃ a b, list[earlier]? = some a ∧
          list[later]? = some b ∧ SameNearest a b)) ∧
    (∀ (listed : List Int) (v : Int), (∀ i ∈ listed, (Number.int i).WellFormed) →
      (Number.int v).WellFormed → ∀ (setting : Setting) (levels : Nat) (path : Path),
      ((∃ form, Check.run setting (levels + 1) (.enum (listed.map Json.int)) (.int v) path =
          .ok form) ↔ ∃ a ∈ listed, SameNearest a v)) ∧
    ∀ a b : Int, (Number.int a).WellFormed → (Number.int b).WellFormed → SameNearest a b →
      a = b ∨ 2 ^ 53 ≤ a.natAbs ∧ 2 ^ 53 ≤ b.natAbs ∧ (a - b).natAbs ≤ 2 ^ 11 := by
  refine ⟨?_, ?_, ?_⟩
  · intro rules list asked fits
    simp only [ArrayRule.duplicateItems_mem_reasons_iff, asked, true_and,
      Json.exists_firstRepeat_iff, Json.repeatAt_int_iff fits]
  · intro listed v fits fits' setting levels path
    rw [Check.accepts_enum_iff]
    simp only [List.mem_map, exists_exists_and_eq_and]
    refine exists_congr fun a => and_congr_right fun inside => ?_
    exact Json.deepEqual_int_iff (fits a inside) fits'
  · intro a b fits fits' same
    by_cases equal : a = b
    · exact .inl equal
    · exact .inr (same.close fits.natAbs_lt fits'.natAbs_lt equal)

/-- Two integers that follow each other where numbers are two apart, and a small one. -/
def neighbours : List Int := [9007199254740992, 7, 9007199254740993]

theorem neighbours_fit : ∀ i ∈ neighbours, (Number.int i).WellFormed := by
  intro i inside
  simp only [neighbours, List.mem_cons, List.not_mem_nil, or_false] at inside
  rcases inside with rfl | rfl | rfl <;> exact .int (by decide) (by decide)

theorem neighbours_same : SameNearest 9007199254740992 9007199254740993 :=
  sameNearest_iff.mpr (by decide +kernel)

theorem neighbours_are_compared_by_nearest :
    (∃ first second, .duplicateItems first second ∈
      ArrayRule.reasons [.maxItems 2, .uniqueItems] (neighbours.map Json.int)) ∧
    (∃ form, Check.run ⟨[], 0, false⟩ 1 (.enum (neighbours.map Json.int)) (.int 7) [] =
      .ok form) ∧
    2 ^ 53 ≤ (9007199254740993 : Int).natAbs := by
  obtain ⟨unique, listed, close⟩ := integers_compared_by_nearest
  have fits := neighbours_fit
  refine ⟨?_, ?_, ?_⟩
  · rw [unique [.maxItems 2, .uniqueItems] neighbours (by decide) fits]
    exact ⟨0, 2, by decide, _, _, rfl, rfl, neighbours_same⟩
  · rw [listed neighbours 7 fits (fits 7 (by decide))]
    exact ⟨7, by decide, sameNearest_iff.mpr rfl⟩
  · have apart := close _ _ (fits 9007199254740992 (by decide)) (fits 9007199254740993 (by decide))
      neighbours_same
    exact (apart.resolve_left (by decide)).2.1

/-- The two neighbours are different integers, yet they are told of as repeated items, and each is
accepted where only the other is listed. -/
theorem neighbours_are_not_told_apart :
    neighbours.Nodup ∧
    .duplicateItems 0 2 ∈ ArrayRule.reasons [.uniqueItems] (neighbours.map Json.int) ∧
    ∃ form, Check.run ⟨[], 0, false⟩ 1 (.enum [.int 9007199254740992]) (.int 9007199254740993) [] =
      .ok form := by
  have equal : (Json.int 9007199254740992).deepEqual (.int 9007199254740993) = true :=
    (Json.deepEqual_int_iff (.int (by decide) (by decide)) (.int (by decide) (by decide))).mpr
      neighbours_same
  refine ⟨by decide, ?_, ?_⟩
  · rw [ArrayRule.duplicateItems_mem_reasons_iff, ← Json.firstRepeat_eq_some_iff]
    exact ⟨by decide, by decide +kernel⟩
  · rw [Check.accepts_enum_iff]
    exact ⟨_, List.mem_singleton_self _, equal⟩

/-! ## Formats -/

/-- An integer with this format and no other constraint. -/
def Node.integerOf (format : Format) : Node := .scalar .integer (some format) {}

theorem Check.accepts_integer_iff {rules : List NumberRule} (setting : Setting) (levels : Nat)
    (path : Path) :
    (∃ form, run setting (levels + 1) (.number true rules) (.int v) path = .ok form) ↔
      NumberRule.reasons rules (.ofInt v) = [] := by
  have passed : run setting (levels + 1) (.number true rules) (.int v) path =
      settle (.int v) (issuesAt path (NumberRule.reasons rules (.ofInt v))) := rfl
  simp only [passed, settle_eq_ok_iff, issuesAt, List.map_eq_nil_iff, exists_and_left,
    exists_eq', and_true]

/-- Without constraints a number only has to be in the range of its format. -/
theorem numberMeets_format_iff {format : Format} {least greatest : Int} {limits : Limits}
    {n : Number} (range : format.integerRange? = some (least, greatest)) :
    NumberMeets limits (some format) {} n ↔ n.Within limits least greatest := by
  constructor
  · intro meets
    exact meets.range format rfl least greatest range
  · intro within
    refine ⟨?_, ?_, ?_, ?_⟩
    · intro f same least' greatest' range'
      cases same
      cases range.symm.trans range'
      exact within
    · exact fun bound none => nomatch none
    · exact fun bound none => nomatch none
    · exact fun factor none => nomatch none

/-- A check of such a node compares an integer with the limits of the format after rounding. -/
theorem HasCheck.accepts_int_iff {names : List String} {format : Format} {least greatest : Int}
    {check : Check} (has : HasCheck names (.integerOf format) check)
    (range : format.integerRange? = some (least, greatest)) (setting : Setting) (levels : Nat)
    (path : Path) :
    (∃ form, Check.run setting (levels + 1) check (.int v) path = .ok form) ↔
      (Number.int v).Within .rounded least greatest := by
  obtain ⟨c, compiles, rfl⟩ := has
  have meets : NumberRule.reasons (NumberRule.draft .integer (some format) {}).1
      (Number.int v).toBinary64 = [] ↔ (Number.int v).Within .rounded least greatest :=
    (NumberRule.reasons_draft_eq_nil_iff .integer).trans (numberMeets_format_iff range)
  rw [compiles.scalar.1, ← meets]
  exact Check.accepts_integer_iff setting levels path

/-- An integer node with the format of 32 bits and no other constraint accepts exactly the integers
of 32 bits. With the format of 64 bits it accepts exactly those that are rounded to such, which
lets pass 1025 integers above the greatest one of 64 bits. -/
theorem integer_formats_keep_range (names : List String) (v : Int)
    (fits : (Number.int v).WellFormed) (setting : Setting) (levels : Nat) (path : Path) :
    (∃ check, HasCheck names (.integerOf .int32) check) ∧
    (∃ check, HasCheck names (.integerOf .int64) check) ∧
    ∀ check,
      (HasCheck names (.integerOf .int32) check →
        ((∃ form, Check.run setting (levels + 1) check (.int v) path = .ok form) ↔
          -2 ^ 31 ≤ v ∧ v ≤ 2 ^ 31 - 1)) ∧
      (HasCheck names (.integerOf .int64) check →
        ((∃ form, Check.run setting (levels + 1) check (.int v) path = .ok form) ↔
          -2 ^ 63 ≤ v ∧ v ≤ 2 ^ 63 + 2 ^ 10)) := by
  have compiles (format : Format) : ∃ check, HasCheck names (.integerOf format) check :=
    ⟨_, _, ⟨"", [], rfl⟩, rfl⟩
  refine ⟨compiles .int32, compiles .int64, fun check => ⟨?_, ?_⟩⟩
  · intro has
    rw [has.accepts_int_iff rfl setting levels path]
    exact Number.within_rounded_int32_iff fits
  · intro has
    rw [has.accepts_int_iff rfl setting levels path]
    exact Number.within_rounded_int64_iff fits

theorem largest_unsigned_is_in_no_format :
    (Number.int (2 ^ 64 - 1)).WellFormed ∧ ∃ check, HasCheck [] (.integerOf .int64) check ∧
      ¬ ∃ form, Check.run ⟨[], 0, false⟩ 1 check (.int (2 ^ 64 - 1)) [] = .ok form := by
  have fits : (Number.int (2 ^ 64 - 1)).WellFormed := .int (by decide) (by decide)
  obtain ⟨-, ⟨check, has⟩, accepts⟩ := integer_formats_keep_range [] (2 ^ 64 - 1) fits
    ⟨[], 0, false⟩ 0 []
  refine ⟨fits, check, has, ?_⟩
  rw [(accepts check).2 has]
  decide

/-- The least integer that 64 bits with a sign do not hold is accepted nevertheless. -/
theorem integer_beyond_format_is_accepted :
    ∃ check, HasCheck [] (.integerOf .int64) check ∧
      (∃ form, Check.run ⟨[], 0, false⟩ 1 check (.int (2 ^ 63)) [] = .ok form) ∧
      ¬ (2 ^ 63 : Int) ≤ 2 ^ 63 - 1 := by
  have has : HasCheck [] (.integerOf .int64) (scalarCheck .integer (some .int64) {}) :=
    ⟨_, ⟨"", [], rfl⟩, rfl⟩
  refine ⟨_, has, ?_, by decide⟩
  rw [has.accepts_int_iff rfl, Number.within_rounded_int64_iff (.int (by decide) (by decide))]
  decide

end DataSchema
