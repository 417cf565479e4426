import DataSchema.Proofs.Meaning.Basic
import DataSchema.Proofs.Rounding

/-!
Ranges with rounded limits. The greatest integer of 64 bits is rounded up, so such a range takes in
more than it should: all that is rounded to the same limit. For numbers that are not beyond the
range, or are far beyond it, rounding makes no difference, and then nodes have the same meaning with
either reading of their ranges.
-/
namespace DataSchema

open Binary64 (rounded)

/-! ## Numbers -/

namespace Number

theorem WellFormed.natAbs_lt {v : Int} (fits : (Number.int v).WellFormed) :
    v.natAbs < 2 ^ 64 := by
  cases fits with
  | int lower upper => omega

theorem AtMost.mono {n : Number} {limit limit' : Int} (most : n.AtMost limit)
    (le : limit ≤ limit') : n.AtMost limit' := by
  match n, most with
  | .int _, most => exact Int.le_trans most le
  | .float (.finite _ _), most =>
    exact Int.le_trans most (Int.mul_le_mul_of_nonneg_right le (Int.natCast_nonneg _))
  | .float (.infinite _), most => exact most

variable {v least greatest : Int}

theorem within_exact_int_iff :
    (Number.int v).Within .exact least greatest ↔ least ≤ v ∧ v ≤ greatest := Iff.rfl

/-- An integer is compared after it has been rounded itself. -/
theorem within_rounded_int_iff (fits : (Number.int v).WellFormed) (small : least.natAbs < 2 ^ 64)
    (small' : greatest.natAbs < 2 ^ 64) :
    (Number.int v).Within .rounded least greatest ↔
      rounded least ≤ rounded v ∧ rounded v ≤ rounded greatest := by
  have below := Binary64.lt_ofInt_iff fits.natAbs_lt small
  have above := Binary64.lt_ofInt_iff small' fits.natAbs_lt
  simp only [Within, toBinary64]
  rw [← Bool.not_eq_true, ← Bool.not_eq_true, below, above, Int.not_lt, Int.not_lt]

/-- A float is compared as it is, but with rounded limits. -/
theorem within_rounded_float_iff {x : Binary64} (finite : x.isFinite = true)
    (small : least.natAbs < 2 ^ 64) (small' : greatest.natAbs < 2 ^ 64) :
    (Number.float x).Within .rounded least greatest ↔
      (Number.float x).AtLeast (rounded least) ∧ (Number.float x).AtMost (rounded greatest) := by
  cases x with
  | finite negative units =>
    have below : (Binary64.finite negative units).lt (.ofInt least) = true ↔ _ :=
      Binary64.finite_lt_ofInt_iff small
    have above : (Binary64.ofInt greatest).lt (.finite negative units) = true ↔ _ :=
      Binary64.ofInt_lt_finite_iff small'
    rw [Within, toBinary64, ← Bool.not_eq_true, ← Bool.not_eq_true, below, above, Int.not_lt,
      Int.not_lt, AtLeast, AtMost]
  | _ => cases finite

/-- The limits of 32 bits are their own images. -/
theorem rounded_limits_32 :
    rounded (-0x80000000) = -0x80000000 ∧ rounded 0x7FFFFFFF = 0x7FFFFFFF :=
  ⟨Binary64.rounded_of_le (by decide), Binary64.rounded_of_le (by decide)⟩

theorem within_rounded_int32_iff (fits : (Number.int v).WellFormed) :
    (Number.int v).Within .rounded (-0x80000000) 0x7FFFFFFF ↔ -2 ^ 31 ≤ v ∧ v ≤ 2 ^ 31 - 1 := by
  rw [within_rounded_int_iff fits (by decide) (by decide)]
  have low : rounded v < -0x80000000 ↔ v < -0x80000000 := Binary64.rounded_lt_iff (by decide)
  have high : 0x7FFFFFFF < rounded v ↔ 0x7FFFFFFF < v := Binary64.lt_rounded_iff (by decide)
  rw [rounded_limits_32.1, rounded_limits_32.2]
  omega

/-- The images of the limits of 64 bits: the greatest is rounded up, and takes with it what is
nearer to it than to the next number. -/
theorem rounded_limits_64 :
    rounded (-0x8000000000000000) = -2 ^ 63 ∧ rounded 0x7FFFFFFFFFFFFFFF = 2 ^ 63 ∧
      rounded (2 ^ 63 + 2 ^ 10) = 2 ^ 63 ∧ rounded (2 ^ 63 + 2 ^ 10 + 1) = 2 ^ 63 + 2 ^ 11 := by
  decide +kernel

theorem within_rounded_int64_iff (fits : (Number.int v).WellFormed) :
    (Number.int v).Within .rounded (-0x8000000000000000) 0x7FFFFFFFFFFFFFFF ↔
      -2 ^ 63 ≤ v ∧ v ≤ 2 ^ 63 + 2 ^ 10 := by
  rw [within_rounded_int_iff fits (by decide) (by decide)]
  obtain ⟨least, greatest, last, next⟩ := rounded_limits_64
  rw [least, greatest]
  constructor
  · rintro ⟨-, most⟩
    refine ⟨?_, ?_⟩
    · cases fits with
      | int lower upper => exact lower
    · by_contra more
      have above := Binary64.rounded_mono (show 2 ^ 63 + 2 ^ 10 + 1 ≤ v by omega)
      omega
  · rintro ⟨lower, upper⟩
    have fromBelow := Binary64.rounded_mono (show -0x8000000000000000 ≤ v by omega)
    have fromAbove := Binary64.rounded_mono upper
    omega

/-- Rounding only matters for what is beyond the range of 64 bits and yet not far beyond it. -/
theorem within_rounded_iff {format : Format} {n : Number} (fits : n.WellFormed)
    (range : format.integerRange? = some (least, greatest))
    (clear : n.AtMost (2 ^ 63 + 2 ^ 10) → n.AtMost (2 ^ 63 - 1)) :
    n.Within .rounded least greatest ↔ n.Within .exact least greatest := by
  cases format with
  | int32 =>
    cases range
    cases fits with
    | int lower upper =>
      rw [within_rounded_int32_iff (.int lower upper), within_exact_int_iff]
      omega
    | float finite =>
      rw [within_rounded_float_iff finite (by decide) (by decide), rounded_limits_32.1,
        rounded_limits_32.2]
      rfl
  | int64 =>
    cases range
    cases fits with
    | @int v lower upper =>
      have clear : v ≤ 2 ^ 63 + 2 ^ 10 → v ≤ 2 ^ 63 - 1 := clear
      rw [within_rounded_int64_iff (.int lower upper), within_exact_int_iff]
      omega
    | float finite =>
      obtain ⟨least, greatest, -⟩ := rounded_limits_64
      rw [within_rounded_float_iff finite (by decide) (by decide), least, greatest]
      refine and_congr Iff.rfl ⟨fun most => clear (most.mono (by decide)), fun most => ?_⟩
      exact most.mono (by decide)
  | _ => cases range

end Number

/-! ## Values -/

/-- The number stands anywhere in the value. -/
inductive Json.HasNumber (n : Number) : Json → Prop
  | self : Json.HasNumber n (.number n)
  | item {items item} (member : item ∈ items) (inside : Json.HasNumber n item) :
      Json.HasNumber n (.array items)
  | member {members : Members} {m : String × Json} (member : m ∈ members)
      (inside : Json.HasNumber n m.2) : Json.HasNumber n (.object members)

namespace Json

variable {n : Number}

@[simp] theorem hasNumber_number_iff {m : Number} : (Json.number m).HasNumber n ↔ n = m := by
  constructor
  · rintro ⟨⟩
    rfl
  · rintro rfl
    exact .self

@[simp] theorem hasNumber_object_iff {members : Members} :
    (Json.object members).HasNumber n ↔ ∃ m ∈ members, m.2.HasNumber n := by
  constructor
  · intro has
    cases has with
    | member member inside => exact ⟨_, member, inside⟩
  · rintro ⟨m, member, inside⟩
    exact .member member inside

end Json

theorem Json.WellFormed.of_hasNumber {value : Json} {n : Number} (wellFormed : value.WellFormed)
    (has : value.HasNumber n) : n.WellFormed := by
  induction has with
  | self =>
    cases wellFormed with
    | number fits => exact fits
  | item member _ ih => exact ih (wellFormed.items _ member)
  | member member _ ih => exact ih ((Json.wellFormed_object_iff.mp wellFormed).2 _ member)

/-- With both readings of limits the numbers of a value are in the same ranges. -/
def Limits.Agree (limits limits' : Limits) (value : Json) : Prop :=
  ∀ n, value.HasNumber n → ∀ format least greatest,
    Format.integerRange? format = some (least, greatest) →
      (n.Within limits least greatest ↔ n.Within limits' least greatest)

namespace Limits.Agree

variable {limits limits' : Limits} {value : Json}

theorem symm (agree : Limits.Agree limits limits' value) : Limits.Agree limits' limits value :=
  fun n has format least greatest range => (agree n has format least greatest range).symm

theorem item {items : List Json} (agree : Limits.Agree limits limits' (.array items)) {item : Json}
    (member : item ∈ items) : Limits.Agree limits limits' item :=
  fun n has => agree n (.item member has)

theorem member {members : Members} (agree : Limits.Agree limits limits' (.object members))
    {m : String × Json} (member : m ∈ members) : Limits.Agree limits limits' m.2 :=
  fun n has => agree n (.member member has)

theorem numberMeets {n : Number} (agree : Limits.Agree limits limits' (.number n))
    {format : Option Format} {c : Constraints} (meets : NumberMeets limits format c n) :
    NumberMeets limits' format c n where
  range f same least greatest range :=
    (agree n .self f least greatest range).mp (meets.range f same least greatest range)
  lower := meets.lower
  upper := meets.upper
  multipleOf := meets.multipleOf

theorem scalarMeets (agree : Limits.Agree limits limits' value) {kind : ScalarKind}
    {format : Option Format} {c : Constraints} (meets : ScalarMeets limits kind format c value) :
    ScalarMeets limits' kind format c value := by
  cases kind with
  | number =>
    cases value with
    | number n => exact agree.numberMeets meets
    | _ => exact meets.elim
  | integer =>
    cases value with
    | number n => exact ⟨meets.1, agree.numberMeets meets.2⟩
    | _ => exact meets.elim
  | _ => cases value <;> exact meets

end Limits.Agree

/-- Limits agree on a value without numbers that are beyond the range of 64 bits and not far beyond
it. -/
theorem Limits.agree_of_clear {value : Json} (wellFormed : value.WellFormed)
    (clear : ∀ n, value.HasNumber n → n.AtMost (2 ^ 63 + 2 ^ 10) → n.AtMost (2 ^ 63 - 1)) :
    Limits.Agree .rounded .exact value := fun n has _ _ _ range =>
  Number.within_rounded_iff (wellFormed.of_hasNumber has) range (clear n has)

/-! ## Nodes -/

/-- Where limits agree on the numbers of a value, so do the verdicts. The induction is on the
verdict, which goes down in the value just as it does in the node. -/
theorem Judged.of_agree {limits limits' : Limits} {d : Document} {strip verdict : Bool}
    {node : Node} {value : Json} (judged : Judged limits d strip verdict node value)
    (agree : Limits.Agree limits limits' value) : Judged limits' d strip verdict node value := by
  induction judged with
  | scalar meets => exact .scalar (agree.scalarMeets meets)
  | scalar_not fails => exact .scalar_not fun meets => fails (agree.symm.scalarMeets meets)
  | enum listed equal => exact .enum listed equal
  | enum_not unlisted => exact .enum_not unlisted
  | unknown => exact .unknown
  | array meets _ ih => exact .array meets fun item member => ih item member (agree.item member)
  | array_kind other => exact .array_kind other
  | array_not fails => exact .array_not fails
  | array_item member _ ih => exact .array_item member (ih (agree.item member))
  | object meets _ ih =>
    exact .object meets fun m member node schema => ih m member node schema (agree.member member)
  | object_kind other => exact .object_kind other
  | object_not fails => exact .object_not fails
  | object_member member schema _ ih =>
    exact .object_member member schema (ih (agree.member member))
  | anyOf member _ ih => exact .anyOf member (ih agree)
  | anyOf_not _ ih => exact .anyOf_not fun branch member => ih branch member agree
  | oneOf split _ _ ih ihOthers =>
    exact .oneOf split (ih agree) fun other member => ihOthers other member agree
  | oneOf_none _ ih => exact .oneOf_none fun branch member => ih branch member agree
  | oneOf_several split _ _ ih ih' => exact .oneOf_several split (ih agree) (ih' agree)
  | allOf _ ih => exact .allOf fun branch member => ih branch member agree
  | allOf_not member _ ih => exact .allOf_not member (ih agree)
  | negation _ ih => exact .negation (ih agree)
  | negation_not _ ih => exact .negation_not (ih agree)
  | reference entry _ ih => exact .reference entry (ih agree)

/-! ## Outcomes -/

/-- An outcome tells whether the value satisfies the node or violates it. -/
structure Outcome.IsVerdict (limits : Limits) (d : Document) (strip : Bool) (node : Node)
    (value : Json) (o : Outcome) : Prop where
  accepted : o.isAccepted = true ↔ Satisfies limits d strip node value
  rejected : o.isAccepted = false ↔ Violates limits d strip node value

theorem Outcome.IsVerdict.of_agree {limits limits' : Limits} {d : Document} {strip : Bool}
    {node : Node} {value : Json} {o : Outcome} (verdict : o.IsVerdict limits d strip node value)
    (agree : Limits.Agree limits limits' value) : o.IsVerdict limits' d strip node value where
  accepted := verdict.accepted.trans ⟨(·.of_agree agree), (·.of_agree agree.symm)⟩
  rejected := verdict.rejected.trans ⟨(·.of_agree agree), (·.of_agree agree.symm)⟩

end DataSchema
