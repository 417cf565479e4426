import DataSchema.Proofs.Json.WellFormed
import Mathlib.Data.Nat.Log
import Mathlib.Algebra.Group.Int.Even
import Mathlib.Algebra.Order.Ring.Int

/-!
Rounding of numbers with 53 significant bits. A ratio is rounded to the nearest count of units that
has no more bits than that, and to the even one of two that are equally near. This says all about
it: there is just one such count, the order is kept, what is representable is left alone, and
neither the scale nor the terms of the ratio matter.
-/
namespace DataSchema
namespace Binary64

/-- A count of units with at most 53 significant bits. -/
def Representable (units : Int) : Prop :=
  ∃ (significand : Int) (exponent : Nat), significand.natAbs < 2 ^ precision ∧
    units = significand * 2 ^ exponent

/-- The representable count that is nearest to a ratio. Two that are equally near are neighbours,
and their distance is the worth of the last bit, which is even in one of them. -/
structure Rounds (num : Int) (den : Nat) (units : Int) : Prop where
  representable : Representable units
  nearest : ∀ other, Representable other →
    (units * den - num).natAbs ≤ (other * den - num).natAbs
  even : ∀ other, Representable other → other ≠ units →
    (other * den - num).natAbs = (units * den - num).natAbs → 2 * (units - other) ∣ units

/-! ## What is representable -/

theorem Representable.neg {units : Int} (representable : Representable units) :
    Representable (-units) := by
  obtain ⟨significand, exponent, small, rfl⟩ := representable
  exact ⟨-significand, exponent, by omega, (Int.neg_mul _ _).symm⟩

theorem Representable.mul_two_pow {units : Int} (representable : Representable units)
    (more : Nat) : Representable (units * 2 ^ more) := by
  obtain ⟨significand, exponent, small, rfl⟩ := representable
  exact ⟨significand, exponent + more, small, by rw [Int.pow_add, Int.mul_assoc]⟩

/-- The largest significand is followed by a power of two. -/
theorem representable_of_le {units : Int} (small : units.natAbs ≤ 2 ^ precision) :
    Representable units := by
  by_cases less : units.natAbs < 2 ^ precision
  · exact ⟨units, 0, less, by simp⟩
  · have power : Representable (2 ^ precision) := ⟨1, precision, by decide, by simp⟩
    have atEnd : units = 2 ^ precision ∨ units = -2 ^ precision := by
      unfold precision at *
      omega
    rcases atEnd with rfl | rfl
    · exact power
    · exact power.neg

/-- Of large counts only multiples of a power of two are representable. -/
theorem Representable.dvd_of_le {units : Int} {exponent : Nat}
    (representable : Representable units) (large : 2 ^ (exponent + precision) ≤ 2 * units.natAbs) :
    2 ^ exponent ∣ units := by
  obtain ⟨significand, own, small, rfl⟩ := representable
  by_cases fine : own < exponent
  · exfalso
    have below : significand.natAbs * 2 ^ own < 2 ^ precision * 2 ^ own :=
      Nat.mul_lt_mul_of_pos_right small (Nat.two_pow_pos own)
    have step : 2 ^ (precision + (own + 1)) ≤ 2 ^ (exponent + precision) :=
      Nat.pow_le_pow_right (by decide) (by omega)
    rw [Nat.pow_add, Nat.pow_succ, ← Nat.mul_assoc] at step
    rw [Int.natAbs_mul, Int.natAbs_pow] at large
    change 2 ^ (exponent + precision) ≤ 2 * (significand.natAbs * 2 ^ own) at large
    omega
  · exact Dvd.dvd.mul_left (pow_dvd_pow 2 (Nat.le_of_not_lt fine)) significand

/-- Where a ratio lies between two multiples of its divisor, and which of them is taken. -/
theorem divNearestEven_cases (num : Nat) {den : Nat} (positive : 0 < den) :
    ∃ below : Nat, below * den ≤ num ∧ num < below * den + den ∧
      (divNearestEven num den = below ∧ 2 * num ≤ 2 * (below * den) + den ∧
          (2 * num = 2 * (below * den) + den → 2 ∣ below) ∨
        divNearestEven num den = below + 1 ∧ 2 * (below * den) + den ≤ 2 * num ∧
          (2 * num = 2 * (below * den) + den → 2 ∣ below + 1)) := by
  have split := Nat.div_add_mod num den
  have rest := Nat.mod_lt num positive
  rw [Nat.mul_comm] at split
  refine ⟨num / den, by omega, by omega, ?_⟩
  unfold divNearestEven
  dsimp only
  generalize num / den = below at *
  by_cases low : 2 * (num % den) < den
  · rw [if_pos low]
    omega
  · rw [if_neg low]
    by_cases high : den < 2 * (num % den)
    · rw [if_pos high]
      omega
    · rw [if_neg high]
      omega

/-- A multiple lies below two neighbouring multiples, above them, or is one of them. -/
theorem multiple_cases (count : Int) (below den : Nat) :
    count * den + den ≤ below * den ∨ count = below ∨ count = below + 1 ∨
      (below * den + 2 * den : Int) ≤ count * den := by
  rcases Int.lt_or_le count below with low | high
  · have less := Int.mul_le_mul_of_nonneg_right (Int.add_one_le_of_lt low) (Int.natCast_nonneg den)
    rw [Int.add_mul, Int.one_mul] at less
    exact .inl less
  · rcases Int.lt_or_le count (below + 2) with low | high
    · omega
    · have more := Int.mul_le_mul_of_nonneg_right high (Int.natCast_nonneg den)
      rw [Int.add_mul] at more
      exact .inr (.inr (.inr more))

/-- A rounded quotient belongs to a nearest multiple of the divisor, and to an even one if there is
another as near. -/
theorem divNearestEven_spec (num : Nat) {den : Nat} (positive : 0 < den) (count : Int) :
    ((divNearestEven num den : Int) * den - num).natAbs ≤ (count * den - num).natAbs ∧
      (count ≠ divNearestEven num den →
        (count * den - num).natAbs = ((divNearestEven num den : Int) * den - num).natAbs →
        2 * (divNearestEven num den - count) ∣ divNearestEven num den) := by
  obtain ⟨below, least, most, taken⟩ := divNearestEven_cases num positive
  have next : ((below : Int) + 1) * den = below * den + den := by rw [Int.add_mul, Int.one_mul]
  have cases := multiple_cases count below den
  rcases taken with ⟨same, near, even⟩ | ⟨same, near, even⟩
  · rw [same]
    rcases cases with low | rfl | rfl | high
    · omega
    · exact ⟨Nat.le_refl _, fun other => absurd rfl other⟩
    · rw [next]
      refine ⟨by omega, fun _ tie => ?_⟩
      have even := even (by omega)
      rw [show 2 * ((below : Int) - (below + 1)) = -2 by omega, Int.neg_dvd]
      omega
    · omega
  · rw [same]
    push_cast
    rw [next]
    rcases cases with low | rfl | rfl | high
    · omega
    · refine ⟨by omega, fun _ tie => ?_⟩
      have even := even (by omega)
      rw [show 2 * ((below : Int) + 1 - below) = 2 by omega]
      omega
    · rw [next]
      exact ⟨Nat.le_refl _, fun other => absurd rfl other⟩
    · omega

/-- The worth of the last of 53 bits of a quotient is a power of two. -/
structure LastBit (quotient exponent : Nat) : Prop where
  lt : quotient < 2 ^ (exponent + precision)
  le : exponent = 0 ∨ 2 ^ (exponent + precision) ≤ 2 * quotient

theorem lastBit_log2 (quotient : Nat) : LastBit quotient (quotient.log2 + 1 - precision) where
  lt := Nat.lt_of_lt_of_le Nat.lt_log2_self (Nat.pow_le_pow_right (by decide) (by omega))
  le := by
    by_cases short : quotient.log2 + 1 ≤ precision
    · exact .inl (by omega)
    · right
      have nonzero : quotient ≠ 0 := by
        rintro rfl
        exact short (by decide)
      rw [Nat.sub_add_cancel (by omega), Nat.pow_succ, Nat.mul_comm]
      exact Nat.mul_le_mul_left 2 (Nat.log2_self_le nonzero)

theorem LastBit.unique {quotient exponent exponent' : Nat} (last : LastBit quotient exponent)
    (last' : LastBit quotient exponent') : exponent = exponent' := by
  have least {lower upper : Nat} (below : LastBit quotient lower) (above : LastBit quotient upper) :
      upper ≤ lower := by
    rcases above.le with rfl | least
    · exact Nat.zero_le _
    · have less : 2 ^ (upper + precision) < 2 ^ (lower + precision + 1) := by
        rw [Nat.pow_succ]
        have most := below.lt
        omega
      have order := (Nat.pow_lt_pow_iff_right (by decide)).mp less
      omega
  exact Nat.le_antisymm (least last' last) (least last last')

theorem roundUnits_eq {num den exponent : Nat} (last : LastBit (num / den) exponent) :
    roundUnits num den = divNearestEven num (den * 2 ^ exponent) * 2 ^ exponent := by
  rw [(lastBit_log2 (num / den)).unique last |>.symm]
  rfl

/-- What a ratio is rounded to is the nearest representable count of units. -/
theorem rounds_roundUnits (num : Nat) {den : Nat} (positive : 0 < den) :
    Rounds num den (roundUnits num den) := by
  obtain ⟨exponent, last⟩ : ∃ exponent, LastBit (num / den) exponent := ⟨_, lastBit_log2 _⟩
  have bit : 0 < 2 ^ exponent := Nat.two_pow_pos exponent
  have cell : 0 < den * 2 ^ exponent := Nat.mul_pos positive bit
  have spec := divNearestEven_spec num cell
  have product (count : Int) :
      count * 2 ^ exponent * den = count * (den * 2 ^ exponent : Nat) := by
    push_cast
    rw [Int.mul_assoc, Int.mul_comm (2 ^ exponent)]
  rw [roundUnits_eq last]
  push_cast
  -- A count that is no multiple of the last bit is too small to be near.
  have far (other : Int) (representable : Representable other) (apart : ¬ 2 ^ exponent ∣ other) :
      ((divNearestEven num (den * 2 ^ exponent) : Int) * (den * 2 ^ exponent : Nat) - num).natAbs <
        (other * den - num).natAbs := by
    have short : ¬ 2 ^ (exponent + precision) ≤ 2 * other.natAbs :=
      fun large => apart (representable.dvd_of_le large)
    have positiveExponent : exponent ≠ 0 := by
      rintro rfl
      exact apart (one_dvd other)
    have large := last.le.resolve_left positiveExponent
    have near := (spec (2 ^ 52 : Nat)).1
    have same : 2 ^ 52 * (den * 2 ^ exponent) = 2 ^ (exponent + 52) * den := by
      rw [Nat.pow_add, Nat.mul_comm den, ← Nat.mul_assoc, Nat.mul_comm (2 ^ 52)]
    rw [← Int.natCast_mul (2 ^ 52), same] at near
    rw [show exponent + precision = exponent + 52 + 1 from rfl, Nat.pow_succ] at short large
    generalize 2 ^ (exponent + 52) = power at short large near
    have within : power * den ≤ num := (Nat.le_div_iff_mul_le positive).mp (by omega)
    have smaller : other * den < power * den := Int.mul_lt_mul_of_pos_right (by omega) (by omega)
    omega
  refine ⟨?_, ?_, ?_⟩
  · refine Representable.mul_two_pow (representable_of_le ?_) exponent
    have most := divNearestEven_le num (den * 2 ^ exponent)
    have quotient : num / (den * 2 ^ exponent) < 2 ^ precision := by
      rw [← Nat.div_div_eq_div_mul, Nat.div_lt_iff_lt_mul bit, ← Nat.pow_add, Nat.add_comm]
      exact last.lt
    omega
  · intro other representable
    rw [product]
    by_cases multiple : 2 ^ exponent ∣ other
    · obtain ⟨count, rfl⟩ := multiple
      rw [Int.mul_comm (2 ^ exponent) count, product]
      exact (spec count).1
    · exact Nat.le_of_lt (far other representable multiple)
  · intro other representable different tie
    rw [product] at tie
    by_cases multiple : 2 ^ exponent ∣ other
    · obtain ⟨count, rfl⟩ := multiple
      rw [Int.mul_comm (2 ^ exponent) count] at different tie ⊢
      rw [product] at tie
      rw [← Int.sub_mul, ← Int.mul_assoc]
      exact Int.mul_dvd_mul ((spec count).2 (fun same => different (by rw [same])) tie) (dvd_refl _)
    · have less := far other representable multiple
      omega

/-! ## Laws -/

namespace Rounds

variable {num num' units units' : Int} {den : Nat}

theorem neg (rounds : Rounds num den units) : Rounds (-num) den (-units) where
  representable := rounds.representable.neg
  nearest := by
    intro other representable
    have near := rounds.nearest (-other) representable.neg
    rw [Int.neg_mul] at near ⊢
    omega
  even := by
    intro other representable different tie
    rw [Int.neg_mul] at tie
    have even := rounds.even (-other) representable.neg (by omega) (by rw [Int.neg_mul]; omega)
    rw [Int.dvd_neg, ← Int.neg_dvd]
    rwa [show -(2 * (-units - other)) = 2 * (units - -other) by omega]

theorem unique (rounds : Rounds num den units) (rounds' : Rounds num den units') :
    units = units' := by
  by_contra different
  have tie := Nat.le_antisymm (rounds.nearest units' rounds'.representable)
    (rounds'.nearest units rounds.representable)
  have even := rounds.even units' rounds'.representable (Ne.symm different) tie.symm
  have even' := rounds'.even units rounds.representable different tie
  rw [← Int.neg_dvd, show -(2 * (units' - units)) = 2 * (units - units') by omega] at even'
  have both := Int.dvd_sub even even'
  have odd : (2 : Int) ∣ 1 :=
    Int.dvd_of_mul_dvd_mul_right (show units - units' ≠ 0 by omega) (by rwa [Int.one_mul])
  omega

theorem mono (rounds : Rounds num den units) (rounds' : Rounds num' den units')
    (positive : 0 < den) (le : num ≤ num') : units ≤ units' := by
  by_contra less
  have order : units' * den < units * den := Int.mul_lt_mul_of_pos_right (by omega) (by omega)
  have near := rounds.nearest units' rounds'.representable
  have near' := rounds'.nearest units rounds.representable
  -- Both ratios would have to lie in the middle, where only one of the two counts is taken.
  obtain rfl : num = num' := by omega
  have same := rounds.unique rounds'
  omega

/-- What is representable is left alone. -/
theorem of_representable (representable : Representable units) (positive : 0 < den) :
    Rounds (units * den) den units where
  representable := representable
  nearest := by
    intro other _
    omega
  even := by
    intro other _ different tie
    have same : other * den = units * den := by omega
    exact absurd (Int.eq_of_mul_eq_mul_right (by omega) same) different

end Rounds

/-! ## Scales -/

theorem divNearestEven_mul_right (num den : Nat) {scale : Nat} (positive : 0 < scale) :
    divNearestEven (num * scale) (den * scale) = divNearestEven num den := by
  have low : 2 * (num % den * scale) < den * scale ↔ 2 * (num % den) < den := by
    rw [← Nat.mul_assoc, Nat.mul_lt_mul_right positive]
  have high : den * scale < 2 * (num % den * scale) ↔ den < 2 * (num % den) := by
    rw [← Nat.mul_assoc, Nat.mul_lt_mul_right positive]
  unfold divNearestEven
  simp only [Nat.mul_div_mul_right _ _ positive, Nat.mul_mod_mul_right, low, high]

/-- A ratio is rounded the same way whatever its terms are. -/
theorem roundUnits_mul_right (num den : Nat) {scale : Nat} (positive : 0 < scale) :
    roundUnits (num * scale) (den * scale) = roundUnits num den := by
  unfold roundUnits
  simp only [Nat.mul_div_mul_right _ _ positive, Nat.mul_right_comm den scale,
    divNearestEven_mul_right _ _ positive]

theorem roundUnits_of_representable {count : Nat} (representable : Representable count) :
    roundUnits count 1 = count := by
  have exact' := Rounds.of_representable representable Nat.one_pos
  rw [Int.natCast_one, Int.mul_one] at exact'
  have same := (rounds_roundUnits count Nat.one_pos).unique exact'
  omega

theorem roundUnits_nearest (count : Nat) {other : Int} (representable : Representable other) :
    ((roundUnits count 1 : Int) - count).natAbs ≤ (other - count).natAbs := by
  have near := (rounds_roundUnits count Nat.one_pos).nearest other representable
  rwa [Int.natCast_one, Int.mul_one, Int.mul_one] at near

theorem roundUnits_mono {count count' : Nat} (le : count ≤ count') :
    roundUnits count 1 ≤ roundUnits count' 1 := by
  have order := (rounds_roundUnits count Nat.one_pos).mono (rounds_roundUnits count' Nat.one_pos)
    Nat.one_pos (by omega)
  omega

/-- Counts are rounded in the same way on every scale. -/
theorem roundUnits_mul_two_pow (count exponent : Nat) :
    roundUnits (count * 2 ^ exponent) 1 = roundUnits count 1 * 2 ^ exponent := by
  by_cases small : count < 2 ^ precision
  · have representable : Representable count := representable_of_le (by omega)
    have more : Representable (count * 2 ^ exponent : Nat) := by
      push_cast
      exact representable.mul_two_pow exponent
    rw [roundUnits_of_representable more, roundUnits_of_representable representable]
  · obtain ⟨own, last⟩ : ∃ own, LastBit count own := ⟨_, lastBit_log2 _⟩
    have power : 0 < 2 ^ exponent := Nat.two_pow_pos exponent
    have last' : LastBit (count * 2 ^ exponent) (own + exponent) := by
      have least : 2 ^ (own + precision) ≤ 2 * count := by
        rcases last.le with rfl | least
        · rw [Nat.zero_add]
          omega
        · exact least
      constructor
      · rw [Nat.add_right_comm, Nat.pow_add]
        exact Nat.mul_lt_mul_of_pos_right last.lt power
      · right
        rw [Nat.add_right_comm, Nat.pow_add, ← Nat.mul_assoc]
        exact Nat.mul_le_mul_right _ least
    rw [roundUnits_eq (by rwa [Nat.div_one]), roundUnits_eq (by rwa [Nat.div_one]), Nat.pow_add,
      Nat.one_mul, Nat.one_mul, divNearestEven_mul_right _ _ power, Nat.mul_assoc]

/-! ## Integers -/

section Powers

-- The power is far too large to be computed, so the unit stands for it here as well.
variable {unit exponent : Nat} (power : unit = Nat.pow 2 exponent)
include power

theorem roundUnits_mul_power (count : Nat) :
    roundUnits (count * unit) 1 = roundUnits count 1 * unit := by
  subst power
  exact roundUnits_mul_two_pow count exponent

end Powers

theorem roundUnits_mul_unitsPerOne (count : Nat) :
    roundUnits (count * unitsPerOne) 1 = roundUnits count 1 * unitsPerOne :=
  roundUnits_mul_power unitsPerOne.eq_def count

theorem signedUnits_mul (negative : Bool) (units scale : Nat) :
    signedUnits negative (units * scale) = signedUnits negative units * scale := by
  cases negative <;> simp [signedUnits]

theorem signedUnits_natAbs (i : Int) : signedUnits (i < 0) i.natAbs = i := by
  unfold signedUnits
  by_cases negative : i < 0
  · simp only [negative, decide_true, if_true]
    omega
  · simp only [negative, decide_false, Bool.false_eq_true, if_false]
    omega

theorem rounds_signedUnits (negative : Bool) (num : Nat) {den : Nat} (positive : 0 < den) :
    Rounds (signedUnits negative num) den (signedUnits negative (roundUnits num den)) := by
  cases negative with
  | false => exact rounds_roundUnits num positive
  | true => exact (rounds_roundUnits num positive).neg

/-- The integer that an integer is rounded to. -/
def rounded (i : Int) : Int := signedUnits (i < 0) (roundUnits i.natAbs 1)

theorem rounds_rounded (i : Int) : Rounds i 1 (rounded i) := by
  have rounds := rounds_signedUnits (i < 0) i.natAbs Nat.one_pos
  rwa [signedUnits_natAbs] at rounds

/-- Among all counts of units, those of fractions included, the one nearest to an integer is that of
an integer. -/
theorem rounds_units (i : Int) : Rounds (i * unitsPerOne) 1 (rounded i * unitsPerOne) := by
  have rounds := rounds_signedUnits (i < 0) (i.natAbs * unitsPerOne) Nat.one_pos
  rwa [roundUnits_mul_unitsPerOne, signedUnits_mul, signedUnits_mul, signedUnits_natAbs] at rounds

theorem rounded_mono {a b : Int} (le : a ≤ b) : rounded a ≤ rounded b :=
  (rounds_rounded a).mono (rounds_rounded b) Nat.one_pos le

theorem rounded_of_le {i : Int} (small : i.natAbs ≤ 2 ^ precision) : rounded i = i := by
  have rounds := Rounds.of_representable (representable_of_le small) Nat.one_pos
  rw [Int.natCast_one, Int.mul_one] at rounds
  exact (rounds_rounded i).unique rounds

/-- Nothing else is rounded to an integer that has less than 53 bits. -/
theorem rounded_eq_iff {a b : Int} (small : b.natAbs < 2 ^ precision) :
    rounded a = b ↔ a = b := by
  by_cases within : a.natAbs ≤ 2 ^ precision
  · rw [rounded_of_le within]
  · have ends : rounded (2 ^ precision) = 2 ^ precision ∧
        rounded (-2 ^ precision) = -2 ^ precision :=
      ⟨rounded_of_le (by decide), rounded_of_le (by decide)⟩
    unfold precision at *
    by_cases negative : a < 0
    · have below := rounded_mono (show a ≤ -2 ^ 53 by omega)
      omega
    · have above := rounded_mono (show 2 ^ 53 ≤ a by omega)
      omega

/-- The order to an integer that has less than 53 bits is not lost. -/
theorem rounded_lt_iff {a b : Int} (small : b.natAbs < 2 ^ precision) :
    rounded a < b ↔ a < b := by
  have own : rounded b = b := (rounded_eq_iff small).mpr rfl
  have apart := rounded_eq_iff (a := a) small
  constructor
  · intro less
    by_contra more
    have order := rounded_mono (show b ≤ a by omega)
    omega
  · intro less
    have order := rounded_mono (show a ≤ b by omega)
    omega

theorem lt_rounded_iff {a b : Int} (small : a.natAbs < 2 ^ precision) :
    a < rounded b ↔ a < b := by
  have own : rounded a = a := (rounded_eq_iff small).mpr rfl
  have apart := rounded_eq_iff (a := b) small
  constructor
  · intro less
    by_contra more
    have order := rounded_mono (show b ≤ a by omega)
    omega
  · intro less
    have order := rounded_mono (show a ≤ b by omega)
    omega

/-- An integer of 64 bits loses at most the last eleven of them. -/
theorem rounded_near {i : Int} (small : i.natAbs < 2 ^ 64) : (rounded i - i).natAbs ≤ 2 ^ 10 := by
  have coarse : Representable ((i + 2 ^ 10) / 2 ^ 11 * 2 ^ 11) := by
    refine Representable.mul_two_pow (representable_of_le ?_) 11
    unfold precision
    omega
  have near := (rounds_rounded i).nearest _ coarse
  omega

/-! ## Images of integers -/

theorem ofInt_eq {i : Int} (small : i.natAbs < 2 ^ 64) :
    ofInt i = .finite (i < 0) (roundUnits i.natAbs 1 * unitsPerOne) := by
  have bound : roundUnits (i.natAbs * unitsPerOne) 1 < overflowUnits :=
    roundUnits_whole_lt_overflowUnits (by omega)
  rw [ofInt, ofRatio_eq_finite bound, roundUnits_mul_unitsPerOne]

/-- An integer of no more than 53 bits is its own image. -/
theorem ofInt_of_le {i : Int} (small : i.natAbs ≤ 2 ^ precision) :
    ofInt i = .finite (i < 0) (i.natAbs * unitsPerOne) := by
  have within : i.natAbs < 2 ^ 64 := Nat.lt_of_le_of_lt small (by decide)
  have representable : Representable i.natAbs := representable_of_le (by omega)
  rw [ofInt_eq within, roundUnits_of_representable representable]

theorem lt_ofInt_iff {a b : Int} (small : a.natAbs < 2 ^ 64) (small' : b.natAbs < 2 ^ 64) :
    (ofInt a).lt (ofInt b) = true ↔ rounded a < rounded b := by
  have positive : (0 : Int) < unitsPerOne := Int.natCast_pos.mpr unitsPerOne_pos
  rw [ofInt_eq small, ofInt_eq small', lt, decide_eq_true_iff, signedUnits_mul, signedUnits_mul]
  exact Int.mul_lt_mul_right positive

theorem finite_lt_ofInt_iff {negative : Bool} {units : Nat} {i : Int} (small : i.natAbs < 2 ^ 64) :
    (finite negative units).lt (ofInt i) = true ↔
      signedUnits negative units < rounded i * unitsPerOne := by
  rw [ofInt_eq small, lt, decide_eq_true_iff, signedUnits_mul, rounded]

theorem ofInt_lt_finite_iff {negative : Bool} {units : Nat} {i : Int} (small : i.natAbs < 2 ^ 64) :
    (ofInt i).lt (finite negative units) = true ↔
      rounded i * unitsPerOne < signedUnits negative units := by
  rw [ofInt_eq small, lt, decide_eq_true_iff, signedUnits_mul, rounded]

theorem eq_ofInt_iff {a b : Int} (small : a.natAbs < 2 ^ 64) (small' : b.natAbs < 2 ^ 64) :
    (ofInt a).eq (ofInt b) = true ↔ rounded a = rounded b := by
  have positive : (0 : Int) < unitsPerOne := Int.natCast_pos.mpr unitsPerOne_pos
  rw [ofInt_eq small, ofInt_eq small', eq, beq_iff_eq, signedUnits_mul, signedUnits_mul]
  exact Int.mul_eq_mul_right_iff (Int.ne_of_gt positive)

end Binary64
end DataSchema
