import DataSchema.Number.Binary64
import Mathlib

/-!
Comparison of numbers. They are compared by their places on a line, and the order that has nan last
is total.
-/
namespace DataSchema
namespace Binary64

/-- The place of a number on the line of units, with both infinities at its ends. What is not a
number has none. -/
def level? : Binary64 → Option (WithBot (WithTop Int))
  | .nan => none
  | .infinite negative => some (if negative then ⊥ else ⊤)
  | .finite negative units => some ((signedUnits negative units : Int) : WithTop Int)

/-- Numbers are compared by their places, so that all but nan are in a linear order. -/
theorem lt_iff {x y : Binary64} :
    x.lt y = true ↔ ∃ a b, x.level? = some a ∧ y.level? = some b ∧ a < b := by
  cases x with
  | nan => simp [lt, level?]
  | infinite s =>
    cases y with
    | nan => simp [lt, level?]
    | infinite t => cases s <;> cases t <;> simp [lt, level?]
    | finite t n => cases s <;> simp [lt, level?]
  | finite s m =>
    cases y with
    | nan => simp [lt, level?]
    | infinite t =>
      have below : ((signedUnits s m : WithTop Int) : WithBot (WithTop Int)) < ⊤ :=
        WithBot.coe_lt_coe.mpr (WithTop.coe_lt_top _)
      cases t <;> simp [lt, level?, below]
    | finite t n => simp [lt, level?]

theorem eq_iff {x y : Binary64} :
    x.eq y = true ↔ ∃ a, x.level? = some a ∧ y.level? = some a := by
  cases x with
  | nan => simp [eq, level?]
  | infinite s =>
    cases y with
    | nan => simp [eq, level?]
    | infinite t => cases s <;> cases t <;> simp [eq, level?]
    | finite t n => cases s <;> simp [eq, level?]
  | finite s m =>
    cases y with
    | nan => simp [eq, level?]
    | infinite t => cases t <;> simp [eq, level?]
    | finite t n =>
      simp only [eq, level?, beq_iff_eq, Option.some.injEq, exists_eq_left', WithBot.coe_inj,
        WithTop.coe_inj]
      exact eq_comm

theorem le_iff {x y : Binary64} :
    x.le y = true ↔ ∃ a b, x.level? = some a ∧ y.level? = some b ∧ a ≤ b := by
  rw [le, Bool.or_eq_true, lt_iff, eq_iff]
  constructor
  · rintro (⟨a, b, left, right, less⟩ | ⟨a, left, right⟩)
    · exact ⟨a, b, left, right, le_of_lt less⟩
    · exact ⟨a, a, left, right, le_refl a⟩
  · rintro ⟨a, b, left, right, most⟩
    rcases lt_or_eq_of_le most with less | rfl
    · exact .inl ⟨a, b, left, right, less⟩
    · exact .inr ⟨a, left, right⟩

/-- Numbers in order, strictly so if that is asked for. -/
theorem inOrder_iff {x y : Binary64} {strict : Bool} :
    (if strict then x.lt y else x.le y) = true ↔
      ∃ a b, x.level? = some a ∧ y.level? = some b ∧ a ≤ b ∧ (strict = true → a < b) := by
  cases strict with
  | true =>
    simp only [if_true, lt_iff, true_implies]
    constructor
    · rintro ⟨a, b, left, right, less⟩
      exact ⟨a, b, left, right, le_of_lt less, less⟩
    · rintro ⟨a, b, left, right, -, less⟩
      exact ⟨a, b, left, right, less⟩
  | false => simp [le_iff]

/-! ## The total order -/

/-- Nan comes after all numbers, and these are in their order. -/
theorem isLE_order_iff {x y : Binary64} : (x.order y).isLE = true ↔ y = .nan ∨ x.le y = true := by
  cases x with
  | nan => cases y <;> simp [order, le, lt, eq]
  | infinite s =>
    cases y with
    | nan => simp [order]
    | infinite t => cases s <;> cases t <;> simp [order, le, lt, eq]
    | finite t n => cases s <;> simp [order, le, lt, eq]
  | finite s m =>
    cases y with
    | nan => simp [order]
    | infinite t => cases t <;> simp [order, le, lt, eq]
    | finite t n =>
      rcases Int.lt_trichotomy (signedUnits s m) (signedUnits t n) with less | same | more
      · simp [order, le, lt, eq, less]
      · simp [order, le, lt, eq, same]
      · simp [order, le, lt, eq, more, Int.lt_asymm more, Int.ne_of_gt more]

theorem order_swap (x y : Binary64) : x.order y = (y.order x).swap := by
  cases x with
  | nan => cases y <;> simp [order]
  | infinite s =>
    cases y with
    | nan => simp [order]
    | infinite t => cases s <;> cases t <;> simp [order, lt]
    | finite t n => cases s <;> simp [order, lt]
  | finite s m =>
    cases y with
    | nan => simp [order]
    | infinite t => cases t <;> simp [order, lt]
    | finite t n =>
      rcases Int.lt_trichotomy (signedUnits s m) (signedUnits t n) with less | same | more
      · simp [order, lt, less, Int.lt_asymm less]
      · simp [order, lt, same]
      · simp [order, lt, more, Int.lt_asymm more]

instance : Std.TransCmp order where
  eq_swap := order_swap _ _
  isLE_trans := by
    intro x y z first second
    rw [isLE_order_iff] at first second ⊢
    rcases second with last | second
    · exact .inl last
    · obtain ⟨b, c, atY, atZ, most⟩ := le_iff.mp second
      rcases first with rfl | first
      · cases atY
      · obtain ⟨a, b', atX, atY', least⟩ := le_iff.mp first
        cases atY.symm.trans atY'
        exact .inr (le_iff.mpr ⟨a, c, atX, atZ, least.trans most⟩)

end Binary64
end DataSchema
