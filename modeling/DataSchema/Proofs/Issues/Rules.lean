import DataSchema.Proofs.DeepEqual.Repeats
import DataSchema.Proofs.Meaning.Basic

/-!
What a broken rule says. Each reason that a rule gives against a value goes back to one refinement,
tells its bound, and tells by how much the value misses it.
-/
namespace DataSchema

/-! ## Strings -/

/-- A refinement that a string breaks, by the reason that tells so. -/
inductive StringBreaks (format : Option Format) (c : Constraints) (s : String) : Reason → Prop
  | format {f known} (asked : format = some f) (named : StringRule.textFormat? f = some known)
      (other : known.accepts s = false) : StringBreaks format c s (.format known)
  | tooShort {min} (asked : c.minLength = some min) (less : s.length < min) :
      StringBreaks format c s (.tooShort min s.length)
  | tooLong {max} (asked : c.maxLength = some max) (more : max < s.length) :
      StringBreaks format c s (.tooLong max s.length)
  | pattern {source pattern} (asked : c.pattern = some source)
      (compiles : Pattern.compile source = .ok pattern) (unfound : pattern.foundIn s = false) :
      StringBreaks format c s (.patternMismatch source)

/-- A pattern that compiles keeps its source. -/
theorem Pattern.source_of_compile {source : String} {pattern : Pattern}
    (compiles : compile source = .ok pattern) : pattern.source = source := by
  obtain ⟨term, -, compiles⟩ := steps_of_ok compiles
  obtain ⟨regex, -, compiles⟩ := steps_of_ok compiles
  dsimp only at compiles
  split at compiles
  · cases compiles
  · cases compiles
    rfl

namespace StringRule

variable {format : Option Format} {c : Constraints} {s : String} {rule : StringRule}
  {reason : Reason}

theorem breaks_of_mem_ofFormat (drafted : rule ∈ (ofFormat format).1)
    (broken : reason? s rule = some reason) : StringBreaks format c s reason := by
  cases format with
  | none => cases drafted
  | some f =>
    simp only [ofFormat] at drafted
    cases named : textFormat? f with
    | some known =>
      rw [named, List.mem_singleton] at drafted
      subst drafted
      obtain ⟨other, told⟩ := Option.ite_none_left_eq_some.mp broken
      cases told
      exact .format rfl named (Bool.eq_false_iff.mpr other)
    | none =>
      simp only [named] at drafted
      split at drafted <;> cases drafted

theorem breaks_of_mem_ofPattern (drafted : rule ∈ (ofPattern c.pattern).1)
    (broken : reason? s rule = some reason) : StringBreaks format c s reason := by
  cases asked : c.pattern with
  | none =>
    rw [asked] at drafted
    cases drafted
  | some source =>
    rw [asked] at drafted
    simp only [ofPattern] at drafted
    cases compiles : Pattern.compile source with
    | ok pattern =>
      rw [compiles, List.mem_singleton] at drafted
      subst drafted
      obtain ⟨unfound, told⟩ := Option.ite_none_left_eq_some.mp broken
      cases told
      rw [Pattern.source_of_compile compiles]
      exact .pattern asked compiles (Bool.eq_false_iff.mpr unfound)
    | error refusal =>
      rw [compiles] at drafted
      cases drafted

/-- A reason against a string goes back to a refinement that it breaks. -/
theorem breaks_of_mem_reasons (member : reason ∈ reasons (draft format c).1 s) :
    StringBreaks format c s reason := by
  obtain ⟨rule, drafted, broken⟩ := List.mem_filterMap.mp member
  simp only [draft, List.mem_append, List.mem_map, Option.mem_toList] at drafted
  rcases drafted with ((known | ⟨min, asked, rfl⟩) | ⟨max, asked, rfl⟩) | matching
  · exact breaks_of_mem_ofFormat known broken
  · obtain ⟨less, told⟩ := Option.ite_none_right_eq_some.mp broken
    cases told
    exact .tooShort asked less
  · obtain ⟨more, told⟩ := Option.ite_none_right_eq_some.mp broken
    cases told
    exact .tooLong asked more
  · exact breaks_of_mem_ofPattern matching broken

end StringRule

/-! ## Numbers -/

/-- A refinement that a number breaks, by the reason that tells so. -/
inductive NumberBreaks (format : Option Format) (c : Constraints) (x : Binary64) : Reason → Prop
  | range {f least greatest} (asked : format = some f)
      (limits : f.integerRange? = some (least, greatest))
      (outside : x.lt (.ofInt least) = true ∨ (Binary64.ofInt greatest).lt x = true) :
      NumberBreaks format c x (.outOfFormatRange f.token)
  | below {bound exclusive}
      (asked : NumberRule.resolveBound c.minimum c.exclusiveMinimum = some (bound, exclusive))
      (less : (if exclusive then bound.lt x else bound.le x) = false) :
      NumberBreaks format c x (.belowMinimum bound exclusive)
  | above {bound exclusive}
      (asked : NumberRule.resolveBound c.maximum c.exclusiveMaximum = some (bound, exclusive))
      (more : (if exclusive then x.lt bound else x.le bound) = false) :
      NumberBreaks format c x (.aboveMaximum bound exclusive)
  | factor {factor} (asked : c.multipleOf = some factor)
      (other : NumberRule.isMultipleOf x factor = false) :
      NumberBreaks format c x (.notMultipleOf factor)

namespace NumberRule

variable {kind : ScalarKind} {format : Option Format} {c : Constraints} {x : Binary64}
  {rule : NumberRule} {reason : Reason}

theorem breaks_of_mem_ofFormat (drafted : rule ∈ (ofFormat kind format).1)
    (broken : reason? x rule = some reason) : NumberBreaks format c x reason := by
  cases format with
  | none => cases drafted
  | some f =>
    have ranged {least greatest : Int} (limits : f.integerRange? = some (least, greatest))
        (same : rule = .formatRange f.token (.ofInt least) (.ofInt greatest)) :
        NumberBreaks (some f) c x reason := by
      subst same
      obtain ⟨outside, told⟩ := Option.ite_none_right_eq_some.mp broken
      cases told
      exact .range rfl limits (by simpa using outside)
    cases f with
    | int32 => exact ranged rfl (List.mem_singleton.mp drafted)
    | int64 => exact ranged rfl (List.mem_singleton.mp drafted)
    | _ =>
      simp only [ofFormat] at drafted
      split at drafted <;> cases drafted

theorem breaks_of_mem_ofFactor (drafted : rule ∈ (ofFactor c.multipleOf).1)
    (broken : reason? x rule = some reason) : NumberBreaks format c x reason := by
  cases asked : c.multipleOf with
  | none =>
    rw [asked] at drafted
    cases drafted
  | some factor =>
    rw [asked] at drafted
    simp only [ofFactor] at drafted
    split at drafted
    · obtain rfl := List.mem_singleton.mp drafted
      obtain ⟨other, told⟩ := Option.ite_none_left_eq_some.mp broken
      cases told
      exact .factor asked (Bool.eq_false_iff.mpr other)
    · cases drafted

/-- A reason against a number goes back to a refinement that it breaks. -/
theorem breaks_of_mem_reasons (member : reason ∈ reasons (draft kind format c).1 x) :
    NumberBreaks format c x reason := by
  obtain ⟨rule, drafted, broken⟩ := List.mem_filterMap.mp member
  simp only [draft, List.mem_append, List.mem_map, Option.mem_toList] at drafted
  rcases drafted with ((known | ⟨lower, asked, rfl⟩) | ⟨upper, asked, rfl⟩) | factors
  · exact breaks_of_mem_ofFormat known broken
  · obtain ⟨less, told⟩ := Option.ite_none_left_eq_some.mp broken
    cases told
    exact .below asked (Bool.eq_false_iff.mpr less)
  · obtain ⟨more, told⟩ := Option.ite_none_left_eq_some.mp broken
    cases told
    exact .above asked (Bool.eq_false_iff.mpr more)
  · exact breaks_of_mem_ofFactor factors broken

end NumberRule

/-! ## Arrays -/

/-- What an array breaks, by the reason that tells so. -/
inductive ArrayBreaks (count : CountRange) (unique : Bool) (items : List Json) : Reason → Prop
  | tooFew {min} (asked : count.min = some min) (less : items.length < min) :
      ArrayBreaks count unique items (.tooFewItems min items.length)
  | tooMany {max} (asked : count.max = some max) (more : max < items.length) :
      ArrayBreaks count unique items (.tooManyItems max items.length)
  | duplicate {first second : Nat} {a b : Json} (asked : unique = true) (order : first < second)
      (one : items[first]? = some a) (other : items[second]? = some b)
      (equal : a.deepEqual b = true) :
      ArrayBreaks count unique items (.duplicateItems first second)

/-- A reason against an array goes back to what it breaks. -/
theorem ArrayRule.breaks_of_mem_reasons {count : CountRange} {unique : Bool} {items : List Json}
    {reason : Reason} (member : reason ∈ reasons (draft count unique).1 items) :
    ArrayBreaks count unique items reason := by
  obtain ⟨rule, drafted, broken⟩ := List.mem_filterMap.mp member
  simp only [draft, List.mem_append, List.mem_map, Option.mem_toList] at drafted
  rcases drafted with (⟨min, asked, rfl⟩ | ⟨max, asked, rfl⟩) | distinct
  · obtain ⟨less, told⟩ := Option.ite_none_right_eq_some.mp broken
    cases told
    exact .tooFew asked less
  · obtain ⟨more, told⟩ := Option.ite_none_right_eq_some.mp broken
    cases told
    exact .tooMany asked more
  · cases unique with
    | false => cases distinct
    | true =>
      obtain rfl := List.mem_singleton.mp distinct
      obtain ⟨⟨first, second⟩, found, rfl⟩ := Option.map_eq_some_iff.mp broken
      obtain ⟨order, a, b, one, other, equal⟩ := (Json.firstRepeat_eq_some_iff.mp found).repeats
      exact .duplicate rfl order one other equal

/-! ## Objects -/

/-- A bound that a count of members breaks, by the reason that tells so. -/
inductive CountBreaks (count : CountRange) (kept : Nat) : Reason → Prop
  | tooFew {min} (asked : count.min = some min) (less : kept < min) :
      CountBreaks count kept (.tooFewProperties min kept)
  | tooMany {max} (asked : count.max = some max) (more : max < kept) :
      CountBreaks count kept (.tooManyProperties max kept)

/-- A reason against a count goes back to a bound that it breaks. -/
theorem ObjectRule.breaks_of_mem_reasons {count : CountRange} {kept : Nat} {reason : Reason}
    (member : reason ∈ reasons (draft count).1 kept) : CountBreaks count kept reason := by
  obtain ⟨rule, drafted, broken⟩ := List.mem_filterMap.mp member
  simp only [draft, List.mem_append, List.mem_map, Option.mem_toList] at drafted
  rcases drafted with ⟨min, asked, rfl⟩ | ⟨max, asked, rfl⟩
  · obtain ⟨less, told⟩ := Option.ite_none_right_eq_some.mp broken
    cases told
    exact .tooFew asked less
  · obtain ⟨more, told⟩ := Option.ite_none_right_eq_some.mp broken
    cases told
    exact .tooMany asked more

end DataSchema
