import DataSchema.Proofs.Comparison
import DataSchema.Proofs.Meaning.Rules
import DataSchema.Proofs.Recursion

/-!
Findings on bounds. Bounds that a build finds to leave nothing between them are those of a check
that accepts nothing, and two bounds on a count that it finds nothing wrong with have a count within
both.
-/
namespace DataSchema

/-! ## Bounds that leave nothing between them -/

/-- A number keeps above one bound and below the other only if these are not crossed. -/
theorem NumberRule.not_crossed_of_kept {lower upper : Option (Binary64 × Bool)} {x : Binary64}
    (above : ∀ rule ∈ lower.toList.map fun b => NumberRule.lower b.1 b.2, reason? x rule = none)
    (below : ∀ rule ∈ upper.toList.map fun b => NumberRule.upper b.1 b.2, reason? x rule = none) :
    crossed lower upper = [] := by
  rw [List.eq_nil_iff_forall_not_mem]
  intro kind member
  obtain ⟨⟨lo, loStrict⟩, ⟨hi, hiStrict⟩, rfl, rfl, crossed, -⟩ := mem_crossed_iff.mp member
  have fromBelow : (if loStrict then lo.lt x else lo.le x) = true := by
    simpa [reason?] using above
  have fromAbove : (if hiStrict then x.lt hi else x.le hi) = true := by
    simpa [reason?] using below
  obtain ⟨a, b, atLo, atX, least, strictly⟩ := Binary64.inOrder_iff.mp fromBelow
  obtain ⟨b', c, atX', atHi, most, strictly'⟩ := Binary64.inOrder_iff.mp fromAbove
  cases atX.symm.trans atX'
  rw [Bool.or_eq_true, Bool.and_eq_true, Bool.or_eq_true, Binary64.lt_iff, Binary64.eq_iff]
    at crossed
  rcases crossed with ⟨c', a', atHi', atLo', less⟩ | ⟨⟨a', atLo', atHi'⟩, strict | strict⟩
  · cases atHi.symm.trans atHi'
    cases atLo.symm.trans atLo'
    exact absurd (least.trans most) (not_le_of_gt less)
  · cases atHi.symm.trans atHi'
    cases atLo.symm.trans atLo'
    exact absurd most (not_le_of_gt (strictly strict))
  · cases atHi.symm.trans atHi'
    cases atLo.symm.trans atLo'
    exact absurd least (not_le_of_gt (strictly' strict))

/-- A count within both bounds keeps them from being crossed, and else there is none. -/
theorem crossedBounds_eq_nil_iff {lo hi : Nat} {minName maxName : String} :
    crossedBounds (some lo) (some hi) minName maxName = [] ↔ ∃ n, lo ≤ n ∧ n ≤ hi := by
  simp only [crossedBounds, ite_eq_right_iff, List.cons_ne_nil, imp_false, not_lt]
  constructor
  · intro most
    exact ⟨lo, Nat.le_refl lo, most⟩
  · rintro ⟨n, least, most⟩
    exact least.trans most

/-- Bounds that one count is within are not crossed. -/
theorem crossedBounds_of_within {min max : Option Nat} {n : Nat}
    (least : ∀ lo, min = some lo → lo ≤ n) (most : ∀ hi, max = some hi → n ≤ hi)
    (minName maxName : String) : crossedBounds min max minName maxName = [] := by
  cases min with
  | none => rfl
  | some lo =>
    cases max with
    | none => rfl
    | some hi => exact crossedBounds_eq_nil_iff.mpr ⟨n, least lo rfl, most hi rfl⟩

/-! ## Checks of such bounds -/

/-- The check accepts no value, whatever the slots and the options are. -/
def Check.AcceptsNothing (check : Check) : Prop :=
  ∀ setting levels value path form, run setting levels check value path ≠ .ok form

/-- A check accepts nothing if no level of it does. -/
theorem Check.acceptsNothing_of_evalWith {check : Check}
    (refuses : ∀ setting down value path form, evalWith setting down check value path ≠ .ok form) :
    check.AcceptsNothing := by
  intro setting levels value path form accepted
  cases levels with
  | zero => cases accepted
  | succ levels => exact refuses setting (run setting levels) value path form accepted

theorem Check.reasons_of_leaf {value form : Json} {path : Path} {reasons : List Reason}
    (accepted : leaf value path reasons = .ok form) : reasons = [] :=
  List.map_eq_nil_iff.mp (settle_eq_ok_iff.mp accepted).1

/-- A number that the rules of a draft let pass shows that its bounds are not crossed. -/
theorem NumberRule.crossed_of_reasons {kind : ScalarKind} {format : Option Format}
    {c : Constraints} {x : Binary64} (kept : reasons (draft kind format c).1 x = []) :
    crossed (resolveBound c.minimum c.exclusiveMinimum)
      (resolveBound c.maximum c.exclusiveMaximum) = [] := by
  rw [reasons, List.filterMap_eq_nil_iff] at kept
  simp only [draft, List.forall_mem_append] at kept
  exact not_crossed_of_kept kept.1.1.2 kept.1.2

/-- A value that a check accepts shows that the bounds of its node are not crossed. -/
theorem HasCheck.crossed_eq_nil {names : List String} {node : Node} {check : Check}
    (has : HasCheck names node check) {setting : Setting} {down : Check.Descent}
    {value form : Json} {path : Path}
    (accepted : Check.evalWith setting down check value path = .ok form) : node.crossed = [] := by
  have ofNumber {integer : Bool} {rules : List NumberRule}
      (accepted : Check.evalWith setting down (.number integer rules) value path = .ok form) :
      ∃ x, NumberRule.reasons rules x = [] := by
    cases value with
    | number n =>
      simp only [Check.evalWith] at accepted
      split at accepted
      · cases accepted
      · exact ⟨_, Check.reasons_of_leaf accepted⟩
    | _ => cases accepted
  cases has.form with
  | string =>
    cases value with
    | string s =>
      have meets := StringRule.reasons_draft_eq_nil_iff.mp (Check.reasons_of_leaf accepted)
      exact crossedBounds_of_within meets.minLength meets.maxLength _ _
    | _ => cases accepted
  | number =>
    obtain ⟨x, kept⟩ := ofNumber accepted
    exact NumberRule.crossed_of_reasons kept
  | integer =>
    obtain ⟨x, kept⟩ := ofNumber accepted
    exact NumberRule.crossed_of_reasons kept
  | array =>
    cases value with
    | array list =>
      obtain ⟨none, -⟩ := Check.settle_eq_ok_iff.mp accepted
      have kept := List.map_eq_nil_iff.mp (List.append_eq_nil_iff.mp none).2
      have meets := ArrayRule.reasons_draft_eq_nil_iff.mp kept
      exact crossedBounds_of_within meets.minItems meets.maxItems _ _
    | _ => cases accepted
  | object each others =>
    cases value with
    | object members =>
      obtain ⟨none, -⟩ := Check.settle_eq_ok_iff.mp accepted
      have kept := List.map_eq_nil_iff.mp (List.append_eq_nil_iff.mp none).2
      obtain ⟨least, most⟩ := ObjectRule.reasons_draft_eq_nil_iff.mp kept
      exact crossedBounds_of_within least most _ _
    | _ => cases accepted
  | _ => rfl

/-- A node with crossed bounds has a check that accepts nothing. -/
theorem HasCheck.acceptsNothing {names : List String} {node : Node} {check : Check}
    (has : HasCheck names node check) {kind : FindingKind} (crossed : kind ∈ node.crossed) :
    check.AcceptsNothing := by
  refine Check.acceptsNothing_of_evalWith fun setting down value path form accepted => ?_
  rw [has.crossed_eq_nil accepted] at crossed
  cases crossed

/-- The least and the greatest count of a string, array or object that has both. -/
def Node.countBounds? : Node → Option (Nat × Nat)
  | .scalar .string _ c => c.minLength.bind fun lo => c.maxLength.map fun hi => (lo, hi)
  | .array _ count _ | .object _ _ count _ =>
    count.min.bind fun lo => count.max.map fun hi => (lo, hi)
  | _ => none

/-- Both counts of a node are crossed, or there is a count within. -/
theorem Node.crossed_eq_nil_iff {node : Node} {lo hi : Nat}
    (both : node.countBounds? = some (lo, hi)) :
    node.crossed = [] ↔ ∃ n, lo ≤ n ∧ n ≤ hi := by
  have counts {min max : Option Nat} {minName maxName : String}
      (both : (min.bind fun lo => max.map fun hi => (lo, hi)) = some (lo, hi)) :
      crossedBounds min max minName maxName = [] ↔ ∃ n, lo ≤ n ∧ n ≤ hi := by
    obtain ⟨least, rfl, rest⟩ := Option.bind_eq_some_iff.mp both
    obtain ⟨most, rfl, same⟩ := Option.map_eq_some_iff.mp rest
    cases same
    exact crossedBounds_eq_nil_iff
  cases node with
  | scalar kind format c =>
    cases kind with
    | string => exact counts both
    | _ => cases both
  | array items count unique => exact counts both
  | object properties required count additional => exact counts both
  | _ => cases both

namespace Registry

/-- What a build finds on bounds is right about the node that it stands at: the check of the node
accepts no value, under any options. All such findings stand at nodes of entries, and no string,
array or object with two bounds on its count goes without one unless a count is within both. -/
theorem bounds_findings {options : Options} (d : Document) (r : Registry)
    (built : build options d = .ok r) :
    ∃ found, r.findings = d.findings ++ found ∧
      (∀ f ∈ found, ∀ lower upper, f.kind = .unsatisfiableBounds lower upper →
        ∃ entry ∈ d.entries, ∃ place ∈ entry.2.places [], f.schema = entry.1 ∧
          f.location = place.1 ∧ ∃ c, CompilesAt d.names entry.1 place c ∧ f ∈ c.findings) ∧
      ∀ entry ∈ d.entries, ∀ place ∈ entry.2.places [],
        ∃ c, CompilesAt d.names entry.1 place c ∧ c.findings.Sublist found ∧
          ((∃ lower upper, ⟨entry.1, place.1, .unsatisfiableBounds lower upper⟩ ∈ c.findings) →
            c.value.AcceptsNothing) ∧
          ∀ lo hi, place.2.countBounds? = some (lo, hi) →
            (∀ lower upper, ⟨entry.1, place.1, .unsatisfiableBounds lower upper⟩ ∉ c.findings) →
            ∃ n, lo ≤ n ∧ n ≤ hi := by
  obtain ⟨compiled, from'⟩ := builtFrom_of_build built
  obtain ⟨cyclic, checked, findings⟩ := from'.cycles
  rw [List.append_assoc] at findings
  refine ⟨_, findings, ?_, ?_⟩
  · intro f member lower upper isBounds
    rcases List.mem_append.mp member with inEntries | inCycles
    · have inside := from'.findings_perm.mem_iff.mp inEntries
      obtain ⟨entry, among, inside⟩ := List.mem_flatMap.mp inside
      obtain ⟨schema, node, there, remark⟩ := mem_remarksAt_iff.mp inside
      obtain ⟨c, compiles, -⟩ := from'.place_compiles among there
      refine ⟨entry, among, _, there, schema, rfl, c, compiles, ?_⟩
      have own := (mem_findings_own_iff compiles).mpr remark
      rwa [← schema] at own
    · obtain ⟨group, -, first, rest, -, rfl⟩ :=
        forall₂_mem_right (cycleFindings_goRound checked) inCycles
      cases isBounds
  · intro entry among place there
    obtain ⟨c, compiles, sublist⟩ := from'.place_compiles among there
    refine ⟨c, compiles, sublist.trans (List.sublist_append_left _ _), ?_, ?_⟩
    · rintro ⟨lower, upper, found⟩
      have crossed := Node.bounds_remarked_iff.mp ((mem_findings_own_iff compiles).mp found)
      exact HasCheck.acceptsNothing ⟨c, ⟨_, _, compiles⟩, rfl⟩ crossed
    · intro lo hi both quiet
      rw [← Node.crossed_eq_nil_iff both, List.eq_nil_iff_forall_not_mem]
      intro kind crossed
      obtain ⟨lower, upper, rfl⟩ := Node.crossed_kind crossed
      exact quiet lower upper
        ((mem_findings_own_iff compiles).mpr (Node.bounds_remarked_iff.mpr crossed))

/-- Numbers of at least one unit and less than one. -/
def noPrice : Node :=
  .scalar .number none { minimum := some (.finite false 1),
                         exclusiveMaximum := some (.bound (.finite false 1)) }

/-- An offer with a price that no number is, and at least one and at most three remarks. -/
def offer : Document :=
  ⟨[("Remarks", .array (.plain .string) ⟨some 1, some 3⟩ false),
    ("Offer", .object [("price", noPrice)] ["price"] {} .deny)], []⟩

theorem price_accepts_nothing :
    ∃ r, build {} offer = .ok r ∧
      r.findings = [⟨"Offer", ["properties", "price"],
        .unsatisfiableBounds "minimum" "exclusiveMaximum"⟩] ∧
      ∃ c, CompilesAt offer.names "Offer" (["properties", "price"], noPrice) c ∧
        c.value.AcceptsNothing := by
  obtain ⟨found, -, -, each⟩ := bounds_findings offer _ (rfl : build {} offer = .ok _)
  obtain ⟨c, compiles, -, nothing, -⟩ := each
    ("Offer", .object [("price", noPrice)] ["price"] {} .deny) (by simp [offer])
    (["properties", "price"], noPrice) (by simp [noPrice, Node.places, propertyPlaces])
  refine ⟨_, rfl, rfl, c, compiles, nothing ⟨"minimum", "exclusiveMaximum", ?_⟩⟩
  rw [mem_findings_own_iff compiles]
  decide

end Registry
end DataSchema
