import DataSchema.Json.Value
import Mathlib.Algebra.Group.Int.Defs
import Mathlib.Algebra.Order.Group.Nat
import Mathlib.Data.Nat.Log

/-!
Values that JSON has. An integer fits 64 bits, a float is finite, and no object has two members of
one name. The image of such a number is finite, and that of an integer has no fractional part.
-/
namespace DataSchema

/-! ## Images of integers -/

namespace Binary64

/-- Rounding to a grid goes up by one cell at most. -/
theorem divNearestEven_le (num den : Nat) : divNearestEven num den ≤ num / den + 1 := by
  unfold divNearestEven
  have parity := Nat.mod_lt (num / den) (by decide : 0 < 2)
  dsimp only
  split
  · omega
  · split <;> omega

/-- Rounding to a grid does not go below the cell. -/
theorem le_divNearestEven (num den : Nat) : num / den ≤ divNearestEven num den := by
  unfold divNearestEven
  dsimp only
  split
  · exact Nat.le_refl _
  · split <;> omega

/-- What lies on a grid is not moved. -/
theorem divNearestEven_mul {den : Nat} (positive : 0 < den) (count : Nat) :
    divNearestEven (count * den) den = count := by
  simp [divNearestEven, Nat.mul_div_cancel count positive, positive]

/-- A magnitude is at most tripled by rounding, but for the last unit. -/
theorem roundUnits_le (num den : Nat) : roundUnits num den ≤ 3 * (num / den) + 1 := by
  have cell : Nat.pow 2 ((num / den).log2 + 1 - precision) ≤ 2 * (num / den) + 1 := by
    rcases Nat.eq_zero_or_pos (num / den) with none | positive
    · rw [none]
      decide
    · calc 2 ^ ((num / den).log2 + 1 - precision)
          ≤ 2 ^ ((num / den).log2 + 1) := Nat.pow_le_pow_right (by decide) (Nat.sub_le _ _)
        _ = 2 * 2 ^ (num / den).log2 := by rw [Nat.pow_succ, Nat.mul_comm]
        _ ≤ 2 * (num / den) := Nat.mul_le_mul_left 2 (Nat.log2_self_le (by omega))
        _ ≤ 2 * (num / den) + 1 := Nat.le_succ _
  unfold roundUnits
  dsimp only
  generalize Nat.pow 2 ((num / den).log2 + 1 - precision) = grid at cell
  calc divNearestEven num (den * grid) * grid
      ≤ (num / (den * grid) + 1) * grid :=
        Nat.mul_le_mul_right grid (divNearestEven_le num (den * grid))
    _ = num / den / grid * grid + grid := by rw [Nat.div_div_eq_div_mul, Nat.add_mul, Nat.one_mul]
    _ ≤ num / den + (2 * (num / den) + 1) :=
        Nat.add_le_add (Nat.div_mul_le_self (num / den) grid) cell
    _ = 3 * (num / den) + 1 := by omega

/-- What is not less than a unit is not rounded to nothing. -/
theorem roundUnits_pos {num den : Nat} (positive : 0 < num / den) : 0 < roundUnits num den := by
  have cell : Nat.pow 2 ((num / den).log2 + 1 - precision) ≤ num / den :=
    calc 2 ^ ((num / den).log2 + 1 - precision)
        ≤ 2 ^ (num / den).log2 := Nat.pow_le_pow_right (by decide) (by rw [precision]; omega)
      _ ≤ num / den := Nat.log2_self_le (by omega)
  have grid_pos : 0 < Nat.pow 2 ((num / den).log2 + 1 - precision) := Nat.two_pow_pos _
  unfold roundUnits
  dsimp only
  generalize Nat.pow 2 ((num / den).log2 + 1 - precision) = grid at cell grid_pos
  refine Nat.mul_pos (Nat.lt_of_lt_of_le ?_ (le_divNearestEven num (den * grid))) grid_pos
  rw [← Nat.div_div_eq_div_mul]
  exact Nat.div_pos cell grid_pos

section Powers

-- The powers are far too large to be computed, so the unit stands for its power here.
variable {unit limit exponent bound : Nat} (power : unit = Nat.pow 2 exponent)
include power

/-- A multiple of a power of two is rounded to a multiple of it. -/
theorem dvd_roundUnits (count : Nat) : unit ∣ roundUnits (count * unit) 1 := by
  subst power
  unfold roundUnits
  dsimp only
  rw [Nat.one_mul]
  generalize (count * Nat.pow 2 exponent / 1).log2 + 1 - precision = spare
  change 2 ^ exponent ∣ divNearestEven (count * 2 ^ exponent) (2 ^ spare) * 2 ^ spare
  rcases Nat.le_total spare exponent with fine | coarse
  · -- The grid is the finer one, so that the multiple lies on it.
    have onGrid : count * 2 ^ exponent = count * 2 ^ (exponent - spare) * 2 ^ spare := by
      rw [Nat.mul_assoc, ← Nat.pow_add, Nat.sub_add_cancel fine]
    rw [onGrid, divNearestEven_mul (Nat.two_pow_pos spare), ← onGrid]
    exact Nat.dvd_mul_left _ _
  · exact Nat.dvd_trans (Nat.pow_dvd_pow 2 coarse) (Nat.dvd_mul_left _ _)

theorem power_pos : 0 < unit := power ▸ Nat.two_pow_pos exponent

theorem mul_power_le {more : Nat} (limit_eq : limit = Nat.pow 2 bound)
    (within : more + exponent ≤ bound) : 2 ^ more * unit ≤ limit := by
  subst power limit_eq
  exact Nat.pow_add 2 more exponent ▸ Nat.pow_le_pow_right (by decide) within

end Powers

theorem unitsPerOne_pos : 0 < unitsPerOne := power_pos unitsPerOne.eq_def

/-- Whole numbers are rounded to whole numbers. -/
theorem unitsPerOne_dvd_roundUnits (count : Nat) :
    unitsPerOne ∣ roundUnits (count * unitsPerOne) 1 := dvd_roundUnits unitsPerOne.eq_def count

theorem mul_unitsPerOne_le_overflowUnits : 2 ^ 1024 * unitsPerOne ≤ overflowUnits :=
  mul_power_le unitsPerOne.eq_def overflowUnits.eq_def (by decide)

/-- A whole number is at most tripled by rounding, but for less than two. -/
theorem roundUnits_whole_lt (count : Nat) :
    roundUnits (count * unitsPerOne) 1 < (3 * count + 2) * unitsPerOne :=
  calc roundUnits (count * unitsPerOne) 1
      ≤ 3 * (count * unitsPerOne / 1) + 1 := roundUnits_le _ _
    _ = 3 * count * unitsPerOne + 1 := by rw [Nat.div_one, Nat.mul_assoc]
    _ < 3 * count * unitsPerOne + 2 * unitsPerOne := by
      have positive := unitsPerOne_pos
      omega
    _ = (3 * count + 2) * unitsPerOne := (Nat.add_mul _ _ _).symm

/-- A whole number is finite unless it is very large. -/
theorem roundUnits_whole_lt_overflowUnits {count : Nat} (small : 3 * count + 2 ≤ 2 ^ 1024) :
    roundUnits (count * unitsPerOne) 1 < overflowUnits :=
  calc roundUnits (count * unitsPerOne) 1
      < (3 * count + 2) * unitsPerOne := roundUnits_whole_lt count
    _ ≤ 2 ^ 1024 * unitsPerOne := Nat.mul_le_mul_right _ small
    _ ≤ overflowUnits := mul_unitsPerOne_le_overflowUnits

theorem ofRatio_eq_finite {negative : Bool} {num den : Nat}
    (small : roundUnits num den < overflowUnits) :
    ofRatio negative num den = .finite negative (roundUnits num den) := by
  rw [ofRatio, if_pos small]

/-- An integer of 64 bits has a finite image. -/
theorem isFinite_ofInt {i : Int} (small : i.natAbs < 2 ^ 64) : (ofInt i).isFinite = true := by
  have bound : roundUnits (i.natAbs * unitsPerOne) 1 < overflowUnits :=
    roundUnits_whole_lt_overflowUnits (by omega)
  rw [ofInt, ofRatio_eq_finite bound]
  rfl

/-- The image of an integer is integral or infinite. -/
theorem isIntegral_ofInt {i : Int} (finite : (ofInt i).isFinite = true) :
    (ofInt i).isIntegral = true := by
  rw [ofInt, ofRatio] at finite ⊢
  split
  · exact beq_iff_eq.mpr (Nat.mod_eq_zero_of_dvd (unitsPerOne_dvd_roundUnits i.natAbs))
  · next infinite =>
    rw [if_neg infinite] at finite
    cases finite

end Binary64

/-! ## Values -/

/-- A number that JSON has: an integer of 64 bits, with or without a sign, or a finite float. -/
inductive Number.WellFormed : Number → Prop
  | int {value : Int} (lower : -2 ^ 63 ≤ value) (upper : value < 2 ^ 64) :
      Number.WellFormed (.int value)
  | float {value : Binary64} (finite : value.isFinite = true) : Number.WellFormed (.float value)

theorem Number.WellFormed.isFinite {n : Number} (wellFormed : n.WellFormed) :
    n.toBinary64.isFinite = true := by
  cases wellFormed with
  | int lower upper => exact Binary64.isFinite_ofInt (by omega)
  | float finite => exact finite

/-- Whether a number is integral shows in its image. -/
theorem Number.WellFormed.isIntegral_eq {n : Number} (wellFormed : n.WellFormed) :
    n.isIntegral = n.toBinary64.isIntegral := by
  cases wellFormed with
  | int lower upper =>
    exact (Binary64.isIntegral_ofInt (Binary64.isFinite_ofInt (by omega))).symm
  | float finite => rfl

/-- A value that JSON has. -/
inductive Json.WellFormed : Json → Prop
  | null : Json.WellFormed .null
  | bool {value : Bool} : Json.WellFormed (.bool value)
  | number {value : Number} (number : value.WellFormed) : Json.WellFormed (.number value)
  | string {value : String} : Json.WellFormed (.string value)
  | array {items : List Json} (each : ∀ item ∈ items, Json.WellFormed item) :
      Json.WellFormed (.array items)
  | object {members : Members} (names : (members.map Prod.fst).Nodup)
      (each : ∀ member ∈ members, Json.WellFormed member.2) : Json.WellFormed (.object members)

namespace Json

theorem WellFormed.items {items : List Json} (wellFormed : (Json.array items).WellFormed) :
    ∀ item ∈ items, item.WellFormed := by
  cases wellFormed with
  | array each => exact each

theorem WellFormed.names {members : Members} (wellFormed : (Json.object members).WellFormed) :
    (members.map Prod.fst).Nodup := by
  cases wellFormed with
  | object names each => exact names

@[simp] theorem wellFormed_bool (b : Bool) : (Json.bool b).WellFormed := .bool

@[simp] theorem wellFormed_string (s : String) : (Json.string s).WellFormed := .string

@[simp] theorem wellFormed_array_iff {items : List Json} :
    (Json.array items).WellFormed ↔ ∀ item ∈ items, item.WellFormed :=
  ⟨WellFormed.items, .array⟩

@[simp] theorem wellFormed_object_iff {members : Members} : (Json.object members).WellFormed ↔
    (members.map Prod.fst).Nodup ∧ ∀ member ∈ members, member.2.WellFormed := by
  constructor
  · intro wellFormed
    cases wellFormed with
    | object names each => exact ⟨names, each⟩
  · rintro ⟨names, each⟩
    exact .object names each

/-- What a name looks up is a member. -/
theorem mem_of_member? {members : Members} {name : String} {v : Json}
    (found : member? members name = some v) : (name, v) ∈ members := by
  induction members with
  | nil => cases found
  | cons first rest ih =>
    obtain ⟨key, value⟩ := first
    simp only [member?] at found
    split at found
    · next same =>
      cases found
      cases beq_iff_eq.mp same
      exact List.mem_cons_self
    · exact List.mem_cons_of_mem _ (ih found)

/-- What stands under a name of a value that JSON has is such a value. -/
theorem WellFormed.member {members : Members} {name : String} {v : Json}
    (wellFormed : (Json.object members).WellFormed) (found : member? members name = some v) :
    v.WellFormed := by
  cases wellFormed with
  | object names each => exact each _ (mem_of_member? found)

end Json
end DataSchema
