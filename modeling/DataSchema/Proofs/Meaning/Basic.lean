import DataSchema.Proofs.Compilation
import DataSchema.Proofs.Tree

/-!
The meaning of schemas, without checks, slots or budgets. A node is satisfied or violated by a value
according to rules for each kind of node, where a reference stands for the entry of its name. The
rules define the least such pair of relations: a node that only ever leads back to itself is neither
satisfied nor violated. No value satisfies a node and violates it.

A number is in the range of a format if it is so as it is. Checks round the limits of the range and
the number before they compare them, and so there is a second reading of ranges, which is theirs.
-/
namespace DataSchema

/-! ## Refinements -/

/-- A string has its known format, a length within its bounds, and a match of its pattern. What is
malformed asks for nothing. -/
structure StringMeets (format : Option Format) (c : Constraints) (s : String) : Prop where
  format : ∀ f, format = some f → ∀ known, StringRule.textFormat? f = some known →
    known.accepts s = true
  minLength : ∀ min, c.minLength = some min → min ≤ s.length
  maxLength : ∀ max, c.maxLength = some max → s.length ≤ max
  pattern : ∀ source, c.pattern = some source → ∀ pattern, Pattern.compile source = .ok pattern →
    pattern.foundIn s = true

/-- The least and the greatest integer of the formats that have such. -/
def Format.integerRange? : Format → Option (Int × Int)
  | .int32 => some (-0x80000000, 0x7FFFFFFF)
  | .int64 => some (-0x8000000000000000, 0x7FFFFFFFFFFFFFFF)
  | _ => none

/-- How a number is compared with the limits of a range: as it is, or after both have been rounded
to binary64. -/
inductive Limits where
  | exact | rounded
deriving DecidableEq, Repr

namespace Number

/-- A number is not less than an integer. A float is so many units as it is, and nothing is
rounded. -/
def AtLeast : Number → Int → Prop
  | .int value, limit => limit ≤ value
  | .float (.finite negative units), limit =>
    limit * Binary64.unitsPerOne ≤ Binary64.signedUnits negative units
  | .float (.infinite negative), _ => negative = false
  | .float .nan, _ => False

/-- A number is not greater than an integer, and nothing is rounded. -/
def AtMost : Number → Int → Prop
  | .int value, limit => value ≤ limit
  | .float (.finite negative units), limit =>
    Binary64.signedUnits negative units ≤ limit * Binary64.unitsPerOne
  | .float (.infinite negative), _ => negative = true
  | .float .nan, _ => False

instance (n : Number) (limit : Int) : Decidable (n.AtLeast limit) :=
  match n with
  | .int _ => inferInstanceAs (Decidable (_ ≤ _))
  | .float (.finite _ _) => inferInstanceAs (Decidable (_ ≤ _))
  | .float (.infinite negative) => inferInstanceAs (Decidable (negative = false))
  | .float .nan => inferInstanceAs (Decidable False)

instance (n : Number) (limit : Int) : Decidable (n.AtMost limit) :=
  match n with
  | .int _ => inferInstanceAs (Decidable (_ ≤ _))
  | .float (.finite _ _) => inferInstanceAs (Decidable (_ ≤ _))
  | .float (.infinite negative) => inferInstanceAs (Decidable (negative = true))
  | .float .nan => inferInstanceAs (Decidable False)

/-- A number is in a range, which has a least and a greatest integer. -/
def Within (n : Number) : Limits → Int → Int → Prop
  | .exact, least, greatest => n.AtLeast least ∧ n.AtMost greatest
  | .rounded, least, greatest =>
    n.toBinary64.lt (.ofInt least) = false ∧ (Binary64.ofInt greatest).lt n.toBinary64 = false

instance (n : Number) (limits : Limits) (least greatest : Int) :
    Decidable (n.Within limits least greatest) :=
  match limits with
  | .exact => inferInstanceAs (Decidable (_ ∧ _))
  | .rounded => inferInstanceAs (Decidable (_ ∧ _))

end Number

/-- An exclusive bound that is a number stands for the inclusive one, which a mark makes strict. -/
def AboveLower (inclusive : Option Binary64) (exclusive : Option Exclusive) (x : Binary64) : Prop :=
  match exclusive with
  | some (.bound bound) => bound.lt x = true
  | some (.flag true) => ∀ bound, inclusive = some bound → bound.lt x = true
  | some (.flag false) | none => ∀ bound, inclusive = some bound → bound.le x = true

def BelowUpper (inclusive : Option Binary64) (exclusive : Option Exclusive) (x : Binary64) : Prop :=
  match exclusive with
  | some (.bound bound) => x.lt bound = true
  | some (.flag true) => ∀ bound, inclusive = some bound → x.lt bound = true
  | some (.flag false) | none => ∀ bound, inclusive = some bound → x.le bound = true

/-- A number is in the range of its format, within its bounds, and a multiple of its factor, if
that is finite and positive. Bounds and factors are binary64 numbers, which the binary64 image of
the number has to meet. -/
structure NumberMeets (limits : Limits) (format : Option Format) (c : Constraints) (n : Number) :
    Prop where
  range : ∀ f, format = some f → ∀ least greatest, f.integerRange? = some (least, greatest) →
    n.Within limits least greatest
  lower : AboveLower c.minimum c.exclusiveMinimum n.toBinary64
  upper : BelowUpper c.maximum c.exclusiveMaximum n.toBinary64
  multipleOf : ∀ factor, c.multipleOf = some factor → factor.isFinite = true →
    Binary64.zero.lt factor = true → NumberRule.isMultipleOf n.toBinary64 factor = true

/-- A value of the kind that a scalar node asks for, with its refinements. -/
def ScalarMeets (limits : Limits) (kind : ScalarKind) (format : Option Format) (c : Constraints)
    (value : Json) : Prop :=
  match kind, value with
  | .string, .string s => StringMeets format c s
  | .number, .number n => NumberMeets limits format c n
  | .integer, .number n => n.isIntegral = true ∧ NumberMeets limits format c n
  | .boolean, .bool _ => True
  | .null, .null => True
  | _, _ => False

/-- An array has a length within its bounds, and no two deep-equal items if these are unique. -/
structure ArrayMeets (count : CountRange) (unique : Bool) (items : List Json) : Prop where
  minItems : ∀ min, count.min = some min → min ≤ items.length
  maxItems : ∀ max, count.max = some max → items.length ≤ max
  unique : unique = true → items.Pairwise fun a b => a.deepEqual b = false

/-- Members count that have a schema, and others where they are allowed and not stripped. -/
def memberCounts (strip : Bool) (properties : List (String × Node)) (count : CountRange)
    (additional : Additional Node) (name : String) : Bool :=
  (memberNode? properties additional name).isSome || !(additional.isClosed count || strip)

/-- An object has no member without a schema if it is closed, has all required members, and as many
members that count as its bounds allow. -/
structure ObjectMeets (strip : Bool) (properties : List (String × Node)) (required : List String)
    (count : CountRange) (additional : Additional Node) (members : Members) : Prop where
  known : additional.isClosed count = true →
    ∀ m ∈ members, (memberNode? properties additional m.1).isSome = true
  required : ∀ name ∈ required, name ∈ members.map Prod.fst
  minProperties : ∀ min, count.min = some min →
    min ≤ members.countP fun m => memberCounts strip properties count additional m.1
  maxProperties : ∀ max, count.max = some max →
    members.countP (fun m => memberCounts strip properties count additional m.1) ≤ max

/-! ## Nodes -/

/-- The verdict on a value by a node of a document: true if the value satisfies it, and false if it
violates it. -/
inductive Judged (limits : Limits) (d : Document) (strip : Bool) : Bool → Node → Json → Prop
  | scalar {kind format constraints value}
      (meets : ScalarMeets limits kind format constraints value) :
      Judged limits d strip true (.scalar kind format constraints) value
  | scalar_not {kind format constraints value}
      (fails : ¬ ScalarMeets limits kind format constraints value) :
      Judged limits d strip false (.scalar kind format constraints) value
  | enum {values value allowed} (listed : allowed ∈ values)
      (equal : allowed.deepEqual value = true) : Judged limits d strip true (.enum values) value
  | enum_not {values value} (unlisted : ∀ allowed ∈ values, allowed.deepEqual value = false) :
      Judged limits d strip false (.enum values) value
  | unknown {token raw value} : Judged limits d strip true (.unknown token raw) value
  | array {items count unique list} (meets : ArrayMeets count unique list)
      (each : ∀ item ∈ list, Judged limits d strip true items item) :
      Judged limits d strip true (.array items count unique) (.array list)
  | array_kind {items count unique value} (other : value.kind ≠ .array) :
      Judged limits d strip false (.array items count unique) value
  | array_not {items count unique list} (fails : ¬ ArrayMeets count unique list) :
      Judged limits d strip false (.array items count unique) (.array list)
  | array_item {items count unique list item} (member : item ∈ list)
      (violated : Judged limits d strip false items item) :
      Judged limits d strip false (.array items count unique) (.array list)
  | object {properties required count additional members}
      (meets : ObjectMeets strip properties required count additional members)
      (each : ∀ m ∈ members, ∀ node, memberNode? properties additional m.1 = some node →
        Judged limits d strip true node m.2) :
      Judged limits d strip true (.object properties required count additional) (.object members)
  | object_kind {properties required count additional value} (other : value.kind ≠ .object) :
      Judged limits d strip false (.object properties required count additional) value
  | object_not {properties required count additional members}
      (fails : ¬ ObjectMeets strip properties required count additional members) :
      Judged limits d strip false (.object properties required count additional) (.object members)
  | object_member {properties required count additional members m node} (member : m ∈ members)
      (schema : memberNode? properties additional m.1 = some node)
      (violated : Judged limits d strip false node m.2) :
      Judged limits d strip false (.object properties required count additional) (.object members)
  | anyOf {branches branch value} (member : branch ∈ branches)
      (satisfied : Judged limits d strip true branch value) :
      Judged limits d strip true (.union .anyOf branches) value
  | anyOf_not {branches value}
      (each : ∀ branch ∈ branches, Judged limits d strip false branch value) :
      Judged limits d strip false (.union .anyOf branches) value
  | oneOf {branches before branch after value} (split : branches = before ++ branch :: after)
      (satisfied : Judged limits d strip true branch value)
      (others : ∀ other ∈ before ++ after, Judged limits d strip false other value) :
      Judged limits d strip true (.union .oneOf branches) value
  | oneOf_none {branches value}
      (each : ∀ branch ∈ branches, Judged limits d strip false branch value) :
      Judged limits d strip false (.union .oneOf branches) value
  | oneOf_several {branches before first between second after value}
      (split : branches = before ++ first :: (between ++ second :: after))
      (one : Judged limits d strip true first value)
      (another : Judged limits d strip true second value) :
      Judged limits d strip false (.union .oneOf branches) value
  | allOf {branches value} (each : ∀ branch ∈ branches, Judged limits d strip true branch value) :
      Judged limits d strip true (.intersection branches) value
  | allOf_not {branches branch value} (member : branch ∈ branches)
      (violated : Judged limits d strip false branch value) :
      Judged limits d strip false (.intersection branches) value
  | negation {inner value} (violated : Judged limits d strip false inner value) :
      Judged limits d strip true (.negation inner) value
  | negation_not {inner value} (satisfied : Judged limits d strip true inner value) :
      Judged limits d strip false (.negation inner) value
  | reference {verdict name node value} (entry : d.node? name = some node)
      (judged : Judged limits d strip verdict node value) :
      Judged limits d strip verdict (.reference name) value

/-- The value satisfies the node of the document. -/
def Satisfies (limits : Limits) (d : Document) (strip : Bool) (node : Node) (value : Json) :
    Prop :=
  Judged limits d strip true node value

/-- The value violates the node of the document. -/
def Violates (limits : Limits) (d : Document) (strip : Bool) (node : Node) (value : Json) :
    Prop :=
  Judged limits d strip false node value

variable {limits : Limits} {d : Document} {strip : Bool} {node : Node} {value : Json}

/-- Of the two, an exclusive choice leaves at least one outside its satisfied branch. -/
private theorem other_of_two {α : Type} {before after before' between after' : List α}
    {branch first second : α}
    (same : before ++ branch :: after = before' ++ first :: (between ++ second :: after')) :
    first ∈ before ++ after ∨ second ∈ before ++ after := by
  rcases List.append_eq_append_iff.mp same with ⟨more, eq, rest⟩ | ⟨more, eq, rest⟩
  · cases more with
    | nil =>
      simp only [List.nil_append, List.cons.injEq] at rest
      right
      simp [rest.2]
    | cons head more =>
      simp only [List.cons_append, List.cons.injEq] at rest
      left
      simp [rest.2]
  · cases more with
    | nil =>
      simp only [List.nil_append, List.cons.injEq] at rest
      right
      simp [← rest.2]
    | cons head more =>
      simp only [List.cons_append, List.cons.injEq] at rest
      left
      simp [eq, rest.1]

/-- A node gives one verdict on a value at most. -/
theorem Judged.deterministic {verdict verdict' : Bool}
    (judged : Judged limits d strip verdict node value)
    (judged' : Judged limits d strip verdict' node value) : verdict = verdict' := by
  induction judged generalizing verdict' with
  | scalar meets =>
    cases judged' with
    | scalar _ => rfl
    | scalar_not fails => exact absurd meets fails
  | scalar_not fails =>
    cases judged' with
    | scalar meets => exact absurd meets fails
    | scalar_not _ => rfl
  | enum listed equal =>
    cases judged' with
    | enum _ _ => rfl
    | enum_not unlisted => exact absurd (unlisted _ listed) (by simp [equal])
  | enum_not unlisted =>
    cases judged' with
    | enum listed equal => exact absurd (unlisted _ listed) (by simp [equal])
    | enum_not _ => rfl
  | unknown => cases judged'; rfl
  | array meets each ih =>
    cases judged' with
    | array _ _ => rfl
    | array_kind other => exact absurd rfl other
    | array_not fails => exact absurd meets fails
    | array_item member violated => exact ih _ member violated
  | array_kind other =>
    cases judged' with
    | array _ _ => exact absurd rfl other
    | _ => rfl
  | array_not fails =>
    cases judged' with
    | array meets _ => exact absurd meets fails
    | _ => rfl
  | array_item member violated ih =>
    cases judged' with
    | array _ each => exact ih (each _ member)
    | _ => rfl
  | object meets each ih =>
    cases judged' with
    | object _ _ => rfl
    | object_kind other => exact absurd rfl other
    | object_not fails => exact absurd meets fails
    | object_member member schema violated => exact ih _ member _ schema violated
  | object_kind other =>
    cases judged' with
    | object _ _ => exact absurd rfl other
    | _ => rfl
  | object_not fails =>
    cases judged' with
    | object meets _ => exact absurd meets fails
    | _ => rfl
  | object_member member schema violated ih =>
    cases judged' with
    | object _ each => exact ih (each _ member _ schema)
    | _ => rfl
  | anyOf member satisfied ih =>
    cases judged' with
    | anyOf _ _ => rfl
    | anyOf_not each => exact ih (each _ member)
  | anyOf_not each ih =>
    cases judged' with
    | anyOf member satisfied => exact ih _ member satisfied
    | anyOf_not _ => rfl
  | oneOf split satisfied others ih ihOthers =>
    cases judged' with
    | oneOf _ _ _ => rfl
    | oneOf_none each => exact ih (each _ (by simp [split]))
    | oneOf_several split' one another =>
      rcases other_of_two (split.symm.trans split') with member | member
      · exact absurd (ihOthers _ member one) (by simp)
      · exact absurd (ihOthers _ member another) (by simp)
  | oneOf_none each ih =>
    cases judged' with
    | oneOf split satisfied _ => exact ih _ (by simp [split]) satisfied
    | _ => rfl
  | oneOf_several split one another ihOne ihAnother =>
    cases judged' with
    | oneOf split' satisfied others =>
      rcases other_of_two (split'.symm.trans split) with member | member
      · exact absurd (ihOne (others _ member)) (by simp)
      · exact absurd (ihAnother (others _ member)) (by simp)
    | _ => rfl
  | allOf each ih =>
    cases judged' with
    | allOf _ => rfl
    | allOf_not member violated => exact ih _ member violated
  | allOf_not member violated ih =>
    cases judged' with
    | allOf each => exact ih (each _ member)
    | allOf_not _ _ => rfl
  | negation violated ih =>
    cases judged' with
    | negation _ => rfl
    | negation_not satisfied => exact absurd (ih satisfied) (by simp)
  | negation_not satisfied ih =>
    cases judged' with
    | negation violated => exact absurd (ih violated) (by simp)
    | negation_not _ => rfl
  | reference entry judged ih =>
    cases judged' with
    | reference entry' judged' =>
      cases entry.symm.trans entry'
      exact ih judged'

/-- No value satisfies a node and violates it. -/
theorem not_violates_of_satisfies (satisfied : Satisfies limits d strip node value) :
    ¬ Violates limits d strip node value :=
  fun violated => absurd (satisfied.deterministic violated) (by simp)

end DataSchema
