import DataSchema.Proofs.DeepEqual.Repeats
import DataSchema.Proofs.Json.Members
import DataSchema.Proofs.Meaning.Basic

/-!
The rules of each kind say what its refinements mean: a value gives no reason against it exactly
when it meets them. Refinements that are malformed leave no rule behind.
-/
namespace DataSchema

/-! ## Strings -/

namespace StringRule

variable {format : Option Format} {c : Constraints} {s : String}

theorem kept_ofFormat_iff :
    (∀ rule ∈ (ofFormat format).1, reason? s rule = none) ↔
      ∀ f, format = some f → ∀ known, textFormat? f = some known → known.accepts s = true := by
  cases format with
  | none => simp [ofFormat]
  | some f =>
    cases known : textFormat? f with
    | some text => simp [ofFormat, known, reason?]
    | none => cases listed : annotations.contains f.token <;> simp_all [ofFormat]

theorem kept_ofPattern_iff {source : Option String} :
    (∀ rule ∈ (ofPattern source).1, reason? s rule = none) ↔
      ∀ text, source = some text → ∀ pattern, Pattern.compile text = .ok pattern →
        pattern.foundIn s = true := by
  cases source with
  | none => simp [ofPattern]
  | some text => cases compiled : Pattern.compile text <;> simp [ofPattern, compiled, reason?]

/-- A string breaks no rule of a draft exactly when it meets the refinements. -/
theorem reasons_draft_eq_nil_iff :
    reasons (draft format c).1 s = [] ↔ StringMeets format c s := by
  have least : (∀ rule ∈ c.minLength.toList.map minLength, reason? s rule = none) ↔
      ∀ min, c.minLength = some min → min ≤ s.length := by
    simp [reason?]
  have greatest : (∀ rule ∈ c.maxLength.toList.map maxLength, reason? s rule = none) ↔
      ∀ max, c.maxLength = some max → s.length ≤ max := by
    simp [reason?]
  rw [reasons, List.filterMap_eq_nil_iff]
  simp only [draft, List.forall_mem_append, kept_ofFormat_iff, least, greatest, kept_ofPattern_iff]
  constructor
  · rintro ⟨⟨⟨known, min⟩, max⟩, pattern⟩
    exact ⟨known, min, max, pattern⟩
  · rintro ⟨known, min, max, pattern⟩
    exact ⟨⟨⟨known, min⟩, max⟩, pattern⟩

end StringRule

/-! ## Numbers -/

namespace NumberRule

variable {format : Option Format} {c : Constraints} {x : Binary64} {n : Number}

theorem kept_ofFormat_iff (kind : ScalarKind) :
    (∀ rule ∈ (ofFormat kind format).1, reason? n.toBinary64 rule = none) ↔
      ∀ f, format = some f → ∀ least greatest, f.integerRange? = some (least, greatest) →
        n.Within .rounded least greatest := by
  cases format with
  | none => simp [ofFormat]
  | some f =>
    cases f with
    | int32 => simp [ofFormat, Format.integerRange?, Number.Within, reason?]
    | int64 => simp [ofFormat, Format.integerRange?, Number.Within, reason?]
    | other token =>
      by_cases annotation : token = "float" ∨ token = "double"
      · simp [ofFormat, annotation, Format.integerRange?]
      · simp [ofFormat, annotation, Format.integerRange?]
    | _ => simp [ofFormat, Format.integerRange?]

theorem kept_lower_iff {inclusive : Option Binary64} {exclusive : Option Exclusive} :
    (∀ rule ∈ (resolveBound inclusive exclusive).toList.map fun b => lower b.1 b.2,
      reason? x rule = none) ↔ AboveLower inclusive exclusive x := by
  cases exclusive with
  | none => simp [resolveBound, AboveLower, reason?]
  | some mark =>
    cases mark with
    | flag on => cases on <;> simp [resolveBound, AboveLower, reason?]
    | bound value => simp [resolveBound, AboveLower, reason?]

theorem kept_upper_iff {inclusive : Option Binary64} {exclusive : Option Exclusive} :
    (∀ rule ∈ (resolveBound inclusive exclusive).toList.map fun b => upper b.1 b.2,
      reason? x rule = none) ↔ BelowUpper inclusive exclusive x := by
  cases exclusive with
  | none => simp [resolveBound, BelowUpper, reason?]
  | some mark =>
    cases mark with
    | flag on => cases on <;> simp [resolveBound, BelowUpper, reason?]
    | bound value => simp [resolveBound, BelowUpper, reason?]

theorem kept_ofFactor_iff {factor : Option Binary64} :
    (∀ rule ∈ (ofFactor factor).1, reason? x rule = none) ↔
      ∀ m, factor = some m → m.isFinite = true → Binary64.zero.lt m = true →
        isMultipleOf x m = true := by
  cases factor with
  | none => simp [ofFactor]
  | some m =>
    cases finite : m.isFinite <;> cases positive : Binary64.zero.lt m <;>
      simp [ofFactor, finite, positive, reason?]

/-- A number breaks no rule of a draft exactly when it meets the refinements, limits being rounded,
whichever of the two kinds of numbers the draft is for. -/
theorem reasons_draft_eq_nil_iff (kind : ScalarKind) :
    reasons (draft kind format c).1 n.toBinary64 = [] ↔ NumberMeets .rounded format c n := by
  rw [reasons, List.filterMap_eq_nil_iff]
  simp only [draft, List.forall_mem_append, kept_ofFormat_iff, kept_lower_iff, kept_upper_iff,
    kept_ofFactor_iff]
  constructor
  · rintro ⟨⟨⟨range, above⟩, below⟩, factor⟩
    exact ⟨range, above, below, factor⟩
  · rintro ⟨range, above, below, factor⟩
    exact ⟨⟨⟨range, above⟩, below⟩, factor⟩

end NumberRule

/-! ## Arrays -/

/-- An array breaks no rule of a draft exactly when it meets its bounds and uniqueness. -/
theorem ArrayRule.reasons_draft_eq_nil_iff {count : CountRange} {unique : Bool}
    {items : List Json} :
    reasons (draft count unique).1 items = [] ↔ ArrayMeets count unique items := by
  have least : (∀ rule ∈ count.min.toList.map minItems, reason? items rule = none) ↔
      ∀ min, count.min = some min → min ≤ items.length := by
    simp [reason?]
  have greatest : (∀ rule ∈ count.max.toList.map maxItems, reason? items rule = none) ↔
      ∀ max, count.max = some max → items.length ≤ max := by
    simp [reason?]
  have distinct : (∀ rule ∈ if unique then [uniqueItems] else [], reason? items rule = none) ↔
      (unique = true → items.Pairwise fun a b => a.deepEqual b = false) := by
    cases unique <;> simp [reason?, Json.firstRepeat_eq_none_iff]
  rw [reasons, List.filterMap_eq_nil_iff]
  simp only [draft, List.forall_mem_append, least, greatest, distinct]
  constructor
  · rintro ⟨⟨min, max⟩, apart⟩
    exact ⟨min, max, apart⟩
  · rintro ⟨min, max, apart⟩
    exact ⟨⟨min, max⟩, apart⟩

/-! ## Objects -/

/-- A count breaks no rule of a draft exactly when it is within the bounds. -/
theorem ObjectRule.reasons_draft_eq_nil_iff {count : CountRange} {kept : Nat} :
    reasons (draft count).1 kept = [] ↔
      (∀ min, count.min = some min → min ≤ kept) ∧ ∀ max, count.max = some max → kept ≤ max := by
  have least : (∀ rule ∈ count.min.toList.map minProperties, reason? kept rule = none) ↔
      ∀ min, count.min = some min → min ≤ kept := by
    simp [reason?]
  have greatest : (∀ rule ∈ count.max.toList.map maxProperties, reason? kept rule = none) ↔
      ∀ max, count.max = some max → kept ≤ max := by
    simp [reason?]
  rw [reasons, List.filterMap_eq_nil_iff]
  simp only [draft, List.forall_mem_append, least, greatest]

namespace Check

/-- No member is missing exactly when all required names are there. -/
theorem missing_eq_nil_iff {required : List String} {members : Members} {path : Path} :
    missing required members path = [] ↔ ∀ name ∈ required, name ∈ members.map Prod.fst := by
  simp only [missing, List.map_eq_nil_iff, List.filter_eq_nil_iff, Bool.not_eq_true',
    Bool.not_eq_false, Json.hasMember_iff]

end Check
end DataSchema
