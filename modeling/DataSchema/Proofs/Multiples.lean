import DataSchema.Check.Rules
import DataSchema.Proofs.Rounding
import Mathlib.Algebra.Order.Ring.Int

/-!
Multiples among integers. A remainder of integers is exact, but what is forgiven grows with the
operands: from a billion on, an integer that is one off a multiple passes for a multiple as well.
-/
namespace DataSchema

open Binary64

/-! ## The tolerance -/

namespace NumberRule

/-- The significand of the number nearest to a billionth, which is a little more than that. The last
of its bits is worth `2 ^ -82`. -/
def billionth : Nat := 4835703278458517

/-- What is forgiven among numbers of this size, in counts of `2 ^ -82`. -/
def forgiven (size : Nat) : Nat := roundUnits (billionth * size) 1

/-- The distance is at most a billionth of the size. One that has more than 23 bits may exceed it by
a billionth, which is lost when the tolerance is rounded. -/
def Near (size distance : Nat) : Prop :=
  10 ^ 9 * distance ≤ size + if 2 ^ 23 < distance then 1 else 0

end NumberRule

/-- A ratio that is nearer to a representable count below is not rounded up. -/
theorem Binary64.roundUnits_lt {num target step : Nat} (positive : 0 < step)
    (representable : Representable ((target : Int) - step)) (nearer : 2 * num + step < 2 * target) :
    roundUnits num 1 < target := by
  by_contra most
  have near := roundUnits_nearest num representable
  omega

namespace NumberRule

variable {size distance : Nat}

theorem representable_distance (small : distance ≤ 2 ^ 53) (exponent : Nat) :
    Representable (distance * 2 ^ exponent : Int) := by
  have whole : Representable (distance : Int) := representable_of_le small
  exact whole.mul_two_pow exponent

/-- What is near is forgiven. -/
theorem le_forgiven_of_near (small : size < 2 ^ 53) (near : Near size distance) :
    distance * 2 ^ 82 ≤ forgiven size := by
  have few : distance ≤ 2 ^ 53 := by
    unfold Near at near
    split at near <;> omega
  have target := representable_distance few 82
  unfold forgiven
  by_cases within : 10 ^ 9 * distance ≤ size
  · -- A distance that is really within is within after rounding, which does not move it.
    have least : distance * 2 ^ 82 ≤ billionth * size := by
      unfold billionth
      omega
    have order := roundUnits_mono least
    rwa [roundUnits_of_representable (by exact_mod_cast target)] at order
  · -- The tolerance is less by a little, and the next number below is too far away.
    have long : 2 ^ 23 < distance := by
      unfold Near at near
      split at near
      · assumption
      · omega
    have next : 10 ^ 9 * distance = size + 1 := by
      unfold Near at near
      rw [if_pos long] at near
      omega
    have least : 2 ^ 105 ≤ billionth * size := by
      unfold billionth
      omega
    have order := roundUnits_mono least
    have power : roundUnits (2 ^ 105) 1 = 2 ^ 105 := by decide +kernel
    have representable := (rounds_roundUnits (billionth * size) Nat.one_pos).representable
    have large : 2 ^ (53 + precision) ≤ 2 * (roundUnits (billionth * size) 1 : Int).natAbs := by
      unfold precision
      omega
    have multiple := representable.dvd_of_le large
    have near := roundUnits_nearest (billionth * size) target
    unfold billionth at *
    omega

/-- What is forgiven is near. -/
theorem near_of_le_forgiven (small : size < 2 ^ 53) (le : distance * 2 ^ 82 ≤ forgiven size) :
    Near size distance := by
  unfold forgiven at le
  have most := roundUnits_mono (Nat.mul_le_mul_left billionth (Nat.le_of_lt small))
  have greatest : roundUnits (billionth * 2 ^ 53) 1 = billionth * 2 ^ 53 := by decide +kernel
  have few : distance ≤ 9007199 := by
    unfold billionth at *
    omega
  by_contra far
  unfold Near at far
  -- The next number below is nearer, whether the distance has 23 bits or one more.
  by_cases long : 2 ^ 23 < distance
  · rw [if_pos long] at far
    have below : Representable ((distance * 2 ^ 82 : Nat) - (2 ^ 53 : Nat)) :=
      ⟨distance * 2 ^ 29 - 1, 53, by unfold precision; omega, by push_cast; omega⟩
    have nearer : 2 * (billionth * size) + 2 ^ 53 < 2 * (distance * 2 ^ 82) := by
      unfold billionth
      omega
    exact Nat.not_lt_of_le le (roundUnits_lt (by decide) below nearer)
  · rw [if_neg long] at far
    have below : Representable ((distance * 2 ^ 82 : Nat) - (2 ^ 52 : Nat)) :=
      ⟨distance * 2 ^ 30 - 1, 52, by unfold precision; omega, by push_cast; omega⟩
    have nearer : 2 * (billionth * size) + 2 ^ 52 < 2 * (distance * 2 ^ 82) := by
      unfold billionth
      omega
    exact Nat.not_lt_of_le le (roundUnits_lt (by decide) below nearer)

theorem le_forgiven_iff (small : size < 2 ^ 53) :
    distance * 2 ^ 82 ≤ forgiven size ↔ Near size distance :=
  ⟨near_of_le_forgiven small, le_forgiven_of_near small⟩

/-- A smaller distance is near as well. -/
theorem Near.mono {less : Nat} (near : Near size distance) (le : less ≤ distance) :
    Near size less := by
  unfold Near at *
  split at near <;> split <;> omega

/-! ## The remainder -/

end NumberRule

namespace Binary64

theorem le_finite_iff {a b : Nat} :
    (finite false a).le (finite false b) = true ↔ a ≤ b := by
  simp only [le, lt, eq, signedUnits, Bool.false_eq_true, if_false, Bool.or_eq_true,
    decide_eq_true_eq, beq_iff_eq]
  omega

theorem max_finite (a b : Nat) :
    (finite false a).max (finite false b) = .finite false (Nat.max a b) := by
  by_cases less : a < b
  · simp [max, lt, signedUnits, less, Nat.max_eq_right (Nat.le_of_lt less)]
  · simp [max, lt, signedUnits, less, Nat.max_eq_left (Nat.le_of_not_lt less)]

theorem abs_rem_finite {s t : Bool} {m n : Nat} (positive : 0 < n) :
    ((finite s m).rem (finite t n)).abs = .finite false (m % n) := by
  rw [rem, if_neg (Nat.ne_of_gt positive), abs]

/-- A remainder of whole numbers is exact. -/
theorem abs_rem_whole {s : Bool} {a b : Nat} (positive : 0 < b) :
    ((finite s (a * unitsPerOne)).rem (finite false (b * unitsPerOne))).abs =
      .finite false (a % b * unitsPerOne) := by
  rw [abs_rem_finite (Nat.mul_pos positive unitsPerOne_pos), Nat.mul_mod_mul_right]

/-- A positive difference is rounded like any count. -/
theorem sub_finite {m n : Nat} (less : n < m) :
    (finite false m).sub (finite false n) = ofRatio false (m - n) 1 := by
  have difference : signedUnits false m - signedUnits false n = (m - n : Nat) := by
    unfold signedUnits
    rw [if_neg (by decide), if_neg (by decide)]
    omega
  have positive : ¬ ((m - n : Nat) : Int) = 0 := by omega
  have sign : decide (((m - n : Nat) : Int) < 0) = false := decide_eq_false (by omega)
  unfold sub
  dsimp only
  rw [difference, if_neg positive, sign, Int.natAbs_natCast]

/-- A difference of whole numbers is exact unless it is large. -/
theorem sub_whole {a b : Nat} (less : b < a) (small : a < 2 ^ precision) :
    (finite false (a * unitsPerOne)).sub (finite false (b * unitsPerOne)) =
      .finite false ((a - b) * unitsPerOne) := by
  have whole : roundUnits ((a - b) * unitsPerOne) 1 = (a - b) * unitsPerOne := by
    rw [roundUnits_mul_unitsPerOne, roundUnits_of_representable (representable_of_le (by omega))]
  have bound : roundUnits ((a - b) * unitsPerOne) 1 < overflowUnits :=
    roundUnits_whole_lt_overflowUnits (by unfold precision at small; omega)
  rw [sub_finite (Nat.mul_lt_mul_of_pos_right less unitsPerOne_pos), ← Nat.sub_mul,
    ofRatio_eq_finite bound, whole]

/-- The larger of two whole numbers and of one. -/
theorem max_whole {s : Bool} {a b : Nat} (positive : 0 < b) :
    ((finite s (a * unitsPerOne)).abs.max (finite false (b * unitsPerOne))).max one =
      .finite false (Nat.max a b * unitsPerOne) := by
  have larger : Nat.max (a * unitsPerOne) (b * unitsPerOne) = Nat.max a b * unitsPerOne :=
    Nat.mul_max_mul_right a b unitsPerOne
  have least : 1 * unitsPerOne ≤ Nat.max a b * unitsPerOne :=
    Nat.mul_le_mul_right _ (Nat.le_trans positive (Nat.le_max_right a b))
  rw [Nat.one_mul] at least
  rw [abs, max_finite, larger, one, max_finite]
  exact congrArg (finite false) (Nat.max_eq_left least)

theorem mul_finite (m n : Nat) :
    (finite false m).mul (finite false n) = ofRatio false (m * n) unitsPerOne := by
  rw [mul, bne_self_eq_false]

end Binary64

namespace NumberRule

theorem forgiven_lt {size : Nat} (small : size < 2 ^ 53) : forgiven size < 2 ^ 200 := by
  have most := roundUnits_mono (Nat.mul_le_mul_left billionth (Nat.le_of_lt small))
  have greatest : roundUnits (billionth * 2 ^ 53) 1 < 2 ^ 200 := by decide +kernel
  exact Nat.lt_of_le_of_lt most greatest

/-- The units of the tolerance are a power of two, and so are those of one. -/
theorem exists_tick : ∃ tick, 0 < tick ∧ unitsPerOne = 2 ^ 82 * tick ∧
    tolerance = .finite false (billionth * tick) ∧ 2 ^ 200 * tick ≤ overflowUnits ∧
    ∀ count, roundUnits (count * tick) 1 = roundUnits count 1 * tick :=
  ⟨Nat.pow 2 992, by decide +kernel, by decide +kernel, by decide +kernel, by decide +kernel,
    roundUnits_mul_power rfl⟩

/-- The remainder of whole numbers is compared with what is forgiven. -/
theorem isMultipleOf_whole {s : Bool} {a b : Nat} (positive : 0 < b) (small : a < 2 ^ 53)
    (small' : b < 2 ^ 53) :
    isMultipleOf (.finite s (a * unitsPerOne)) (.finite false (b * unitsPerOne)) = true ↔
      Near (Nat.max a b) (a % b) ∨ Near (Nat.max a b) (b - a % b) := by
  obtain ⟨tick, tick_pos, units, isTolerance, finite, onScale⟩ := exists_tick
  have size : Nat.max a b < 2 ^ 53 := Nat.max_lt.mpr ⟨small, small'⟩
  have slack : tolerance.mul (.finite false (Nat.max a b * unitsPerOne)) =
      .finite false (forgiven (Nat.max a b) * tick) := by
    have rounded : roundUnits (billionth * tick * (Nat.max a b * unitsPerOne)) unitsPerOne =
        forgiven (Nat.max a b) * tick := by
      have scaled := roundUnits_mul_right (billionth * tick * Nat.max a b) 1 unitsPerOne_pos
      rw [Nat.one_mul, Nat.mul_assoc] at scaled
      rw [scaled, Nat.mul_right_comm, onScale, forgiven]
    have bound : forgiven (Nat.max a b) * tick < overflowUnits :=
      Nat.lt_of_lt_of_le (Nat.mul_lt_mul_of_pos_right (forgiven_lt size) tick_pos) finite
    rw [← rounded] at bound ⊢
    rw [isTolerance, mul_finite, ofRatio_eq_finite bound]
  have within (distance : Nat) :
      distance * unitsPerOne ≤ forgiven (Nat.max a b) * tick ↔ Near (Nat.max a b) distance := by
    rw [units, ← Nat.mul_assoc, Nat.mul_le_mul_right_iff tick_pos, le_forgiven_iff size]
  have rest := Nat.mod_lt a positive
  rw [isMultipleOf, max_whole positive, slack, abs_rem_whole positive, sub_whole rest small',
    Bool.or_eq_true]
  simp only [Binary64.abs, le_finite_iff, within]

/-! ## Multiples -/

/-- No multiple is nearer than both its neighbours. -/
theorem multiple_distance (a : Nat) {b : Nat} (positive : 0 < b) (k : Int) :
    a % b ≤ (a - k * b).natAbs ∨ b - a % b ≤ (a - k * b).natAbs := by
  have split := Nat.div_add_mod a b
  have rest := Nat.mod_lt a positive
  rw [Nat.mul_comm] at split
  have next : ((a / b : Nat) + 1 : Int) * b = (a / b : Nat) * b + b := by
    rw [Int.add_mul, Int.one_mul]
  have cases := multiple_cases k (a / b) b
  generalize a / b = below at *
  rcases cases with low | rfl | rfl | high
  · omega
  · omega
  · rw [next]
    omega
  · omega

theorem exists_multiple_below (a b : Nat) : ∃ k : Int, (a - k * b).natAbs = a % b := by
  have split := Nat.div_add_mod a b
  rw [Nat.mul_comm] at split
  refine ⟨(a / b : Nat), ?_⟩
  generalize a / b = below at *
  omega

theorem exists_multiple_above (a : Nat) {b : Nat} (positive : 0 < b) :
    ∃ k : Int, (a - k * b).natAbs = b - a % b := by
  have split := Nat.div_add_mod a b
  have rest := Nat.mod_lt a positive
  rw [Nat.mul_comm] at split
  refine ⟨(a / b : Nat) + 1, ?_⟩
  rw [Int.add_mul, Int.one_mul]
  generalize a / b = below at *
  omega

/-- A multiple is near if one of the two neighbours is. -/
theorem exists_near_multiple_iff {size : Nat} (a : Nat) {b : Nat} (positive : 0 < b) :
    (∃ k : Int, Near size (a - k * b).natAbs) ↔ Near size (a % b) ∨ Near size (b - a % b) := by
  constructor
  · rintro ⟨k, near⟩
    exact (multiple_distance a positive k).imp near.mono near.mono
  · rintro (near | near)
    · obtain ⟨k, same⟩ := exists_multiple_below a b
      exact ⟨k, same ▸ near⟩
    · obtain ⟨k, same⟩ := exists_multiple_above a positive
      exact ⟨k, same ▸ near⟩

/-- Multiples lie on both sides of zero alike. -/
theorem exists_near_multiple_natAbs {size : Nat} (x m : Int) :
    (∃ k : Int, Near size (x - k * m).natAbs) ↔
      ∃ k : Int, Near size (x.natAbs - k * m).natAbs := by
  have mirrored (k : Int) : (-x - -k * m).natAbs = (x - k * m).natAbs := by
    rw [Int.neg_mul]
    omega
  rcases Int.natAbs_eq x with same | same
  · rw [← same]
  · have opposite : (x.natAbs : Int) = -x := by omega
    rw [opposite]
    constructor
    · rintro ⟨k, near⟩
      exact ⟨-k, (mirrored k).symm ▸ near⟩
    · rintro ⟨k, near⟩
      refine ⟨-k, ?_⟩
      rw [← mirrored, Int.neg_neg]
      exact near

theorem near_zero (size : Nat) : Near size 0 := by
  unfold Near
  omega

/-- Nothing but zero is near among numbers below a billion. -/
theorem eq_zero_of_near {size distance : Nat} (small : size < 10 ^ 9) (near : Near size distance) :
    distance = 0 := by
  unfold Near at near
  split at near <;> omega

/-- An integer passes for a multiple of another exactly if a multiple is near, that is at a distance
of at most a billionth of the larger operand. So all multiples pass, and nothing else as long as
both are below a billion. -/
theorem multiples_within_tolerance (x m : Int) (small : x.natAbs < 2 ^ 53) (positive : 0 < m)
    (small' : m < 2 ^ 53) :
    (isMultipleOf (.ofInt x) (.ofInt m) = true ↔
      ∃ k : Int, Near (Nat.max x.natAbs m.natAbs) (x - k * m).natAbs) ∧
    (m ∣ x → isMultipleOf (.ofInt x) (.ofInt m) = true) ∧
    (x.natAbs < 10 ^ 9 → m < 10 ^ 9 → (isMultipleOf (.ofInt x) (.ofInt m) = true ↔ m ∣ x)) := by
  have sign : decide (m < 0) = false := decide_eq_false (by omega)
  have isNear : isMultipleOf (.ofInt x) (.ofInt m) = true ↔
      ∃ k : Int, Near (Nat.max x.natAbs m.natAbs) (x - k * m).natAbs := by
    have modulus : 0 < m.natAbs := by omega
    rw [ofInt_of_le (Nat.le_of_lt small), ofInt_of_le (by unfold precision; omega), sign,
      isMultipleOf_whole modulus small (by omega), ← exists_near_multiple_iff x.natAbs modulus,
      Int.natAbs_of_nonneg (Int.le_of_lt positive), ← exists_near_multiple_natAbs]
  have passes (divides : m ∣ x) : isMultipleOf (.ofInt x) (.ofInt m) = true := by
    obtain ⟨k, rfl⟩ := divides
    refine isNear.mpr ⟨k, ?_⟩
    rw [Int.mul_comm k m, Int.sub_self]
    exact near_zero _
  refine ⟨isNear, passes, fun below below' => ⟨fun passed => ?_, passes⟩⟩
  obtain ⟨k, near⟩ := isNear.mp passed
  have zero := eq_zero_of_near (Nat.max_lt.mpr ⟨below, by omega⟩) near
  exact ⟨k, by rw [Int.mul_comm]; omega⟩

theorem eighth_of_thousand_passes :
    (-1000 : Int).natAbs < 2 ^ 53 ∧ (0 : Int) < 8 ∧ (8 : Int) < 2 ^ 53 ∧
      isMultipleOf (.ofInt (-1000)) (.ofInt 8) = true := by
  have small : (-1000 : Int).natAbs < 2 ^ 53 := by decide
  obtain ⟨-, passes, -⟩ := multiples_within_tolerance (-1000) 8 small (by decide) (by decide)
  exact ⟨small, by decide, by decide, passes (by decide)⟩

/-- One more than a billion passes for even. -/
theorem odd_billion_passes_for_even :
    (1000000001 : Int).natAbs < 2 ^ 53 ∧ isMultipleOf (.ofInt 1000000001) (.ofInt 2) = true ∧
      ¬ (2 : Int) ∣ 1000000001 := by
  refine ⟨by decide, by decide +kernel, by decide⟩

end NumberRule
end DataSchema
