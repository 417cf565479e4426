import DataSchema.Proofs.Json.Members
import DataSchema.Proofs.Json.Pointers
import DataSchema.Proofs.Reading.Relation
import DataSchema.Schema.Writing

/-!
The keywords of written schemas. Every value that is written has the form that its keyword asks for
and is read as what it was, the combining keywords stand alone, and a reference names what it named.
-/
namespace DataSchema

/-! ## Members -/

namespace Json

@[simp] theorem member?_whenPresent {α : Type} (key : String) (value : Option α) (form : α → Json)
    (name : String) :
    member? (whenPresent key value form) name = if key == name then value.map form else none := by
  cases value <;> simp [whenPresent]

@[simp] theorem member?_whenTrue (key : String) (value : Bool) (name : String) :
    member? (whenTrue key value) name =
      if key == name then if value then some (.bool true) else none else none := by
  cases value <;> simp [whenTrue]

end Json

/-! ## Values -/

/-- A bound of its own is a finite number. -/
def Exclusive.Finite : Exclusive → Prop
  | .flag _ => True
  | .bound x => x.isFinite = true

namespace Keywords

variable {k : Keywords} {name : String}

theorem count?_of_written {count : Option Nat}
    (written : Json.member? k.members name = count.map Json.nat) : k.count? name = count := by
  cases count <;> simp [count?, value?, written, Json.nat]

theorem text?_of_written {text : Option String}
    (written : Json.member? k.members name = text.map Json.string) : k.text? name = text := by
  cases text <;> simp [text?, value?, written]

theorem number?_of_written {x : Option Binary64} (finite : ∀ y ∈ x, y.isFinite = true)
    (written : Json.member? k.members name = x.map Json.float) : k.number? name = x := by
  cases x with
  | none => simp [number?, value?, written]
  | some y => simp [number?, value?, written, Json.float, finite y rfl, Number.toBinary64]

theorem exclusive?_of_written {bound : Option Exclusive} (finite : ∀ e ∈ bound, e.Finite)
    (written : Json.member? k.members name = bound.map Exclusive.toJson) :
    k.exclusive? name = bound := by
  cases bound with
  | none => simp [exclusive?, value?, written]
  | some e =>
    cases e with
    | flag on => simp [exclusive?, value?, written, Exclusive.toJson]
    | bound x =>
      have finite : x.isFinite = true := finite _ rfl
      simp [exclusive?, value?, written, Exclusive.toJson, Json.float, finite, Number.toBinary64]

theorem flag_of_written {on : Bool}
    (written : Json.member? k.members name = if on then some (.bool true) else none) :
    k.flag name = on := by
  cases on <;> simp [flag, value?, written]

end Keywords

/-! ## Refinements -/

/-- Refinements of the kind, with bounds that are finite. -/
inductive Constraints.Suits : ScalarKind → Constraints → Prop
  | string {min max pattern} :
      Constraints.Suits .string { minLength := min, maxLength := max, pattern := pattern }
  | number {kind min max exclusiveMin exclusiveMax factor}
      (numeric : kind = .number ∨ kind = .integer)
      (minimum : ∀ x ∈ min, x.isFinite = true) (maximum : ∀ x ∈ max, x.isFinite = true)
      (exclusiveMinimum : ∀ e ∈ exclusiveMin, e.Finite)
      (exclusiveMaximum : ∀ e ∈ exclusiveMax, e.Finite)
      (multipleOf : ∀ x ∈ factor, x.isFinite = true) :
      Constraints.Suits kind
        { minimum := min, maximum := max, exclusiveMinimum := exclusiveMin,
          exclusiveMaximum := exclusiveMax, multipleOf := factor }
  | boolean : Constraints.Suits .boolean {}
  | null : Constraints.Suits .null {}

namespace Keywords

variable {k : Keywords}

theorem number?_isFinite (wellFormed : (Json.object k.members).WellFormed) (name : String) :
    ∀ x ∈ k.number? name, x.isFinite = true := by
  intro x found
  unfold number? at found
  split at found
  · next value given =>
    cases found
    cases wellFormed.member (member?_of_value? given) with
    | number wellFormed => exact wellFormed.isFinite
  · cases found

theorem exclusive?_finite (wellFormed : (Json.object k.members).WellFormed) (name : String) :
    ∀ e ∈ k.exclusive? name, e.Finite := by
  intro e found
  unfold exclusive? at found
  split at found
  · cases found
    trivial
  · next value given =>
    cases found
    cases wellFormed.member (member?_of_value? given) with
    | number wellFormed => exact wellFormed.isFinite
  · cases found

/-- The refinements that are read suit the kind. -/
theorem constraints_suit (wellFormed : (Json.object k.members).WellFormed) (kind : ScalarKind) :
    (k.constraints kind).Suits kind := by
  have numeric (kind : ScalarKind) (is : kind = .number ∨ kind = .integer) :
      Constraints.Suits kind _ :=
    .number is (number?_isFinite wellFormed "minimum") (number?_isFinite wellFormed "maximum")
      (exclusive?_finite wellFormed "exclusiveMinimum")
      (exclusive?_finite wellFormed "exclusiveMaximum") (number?_isFinite wellFormed "multipleOf")
  cases kind with
  | string => exact .string
  | number => exact numeric .number (.inl rfl)
  | integer => exact numeric .integer (.inr rfl)
  | boolean => exact .boolean
  | null => exact .null

/-- Refinements that suit a kind are read as they are written. -/
theorem constraints_of_written {kind : ScalarKind} {c : Constraints} (suits : c.Suits kind)
    {token : String} (format : Option Format) :
    (⟨("type", .string token) :: whenPresent "format" format (fun f => .string f.token)
      ++ c.members⟩ : Keywords).constraints kind = c := by
  cases suits with
  | string =>
    simp only [constraints, Constraints.mk.injEq, and_true]
    refine ⟨count?_of_written ?_, count?_of_written ?_, text?_of_written ?_⟩ <;>
      simp [Constraints.members]
  | @number kind min max exclusiveMin exclusiveMax factor numeric minimum maximum exclusiveMinimum
      exclusiveMaximum multipleOf =>
    have same : (⟨("type", .string token) :: whenPresent "format" format (fun f => .string f.token)
        ++ ({ minimum := min, maximum := max, exclusiveMinimum := exclusiveMin,
              exclusiveMaximum := exclusiveMax, multipleOf := factor } :
          Constraints).members⟩ : Keywords).constraints .number =
        { minimum := min, maximum := max, exclusiveMinimum := exclusiveMin,
          exclusiveMaximum := exclusiveMax, multipleOf := factor } := by
      simp only [constraints, Constraints.mk.injEq, true_and]
      refine ⟨number?_of_written minimum ?_, number?_of_written maximum ?_,
        exclusive?_of_written exclusiveMinimum ?_, exclusive?_of_written exclusiveMaximum ?_,
        number?_of_written multipleOf ?_⟩ <;>
        simp [Constraints.members]
    rcases numeric with rfl | rfl
    · exact same
    · exact same
  | boolean => rfl
  | null => rfl

end Keywords

/-! ## Required members -/

/-- Dropping repetitions leaves none. -/
theorem nodup_eraseDups (names : List String) : names.eraseDups.Nodup := by
  match names with
  | [] => simp
  | name :: rest =>
    rw [List.eraseDups_cons, List.nodup_cons, List.mem_eraseDups]
    exact ⟨by simp, nodup_eraseDups _⟩
termination_by names.length
decreasing_by
  exact Nat.lt_succ_of_le (List.length_filter_le _ _)

/-- Where nothing is repeated, nothing is dropped. -/
theorem eraseDups_of_nodup {names : List String} (distinct : names.Nodup) :
    names.eraseDups = names := by
  induction names with
  | nil => rfl
  | cons name rest ih =>
    obtain ⟨fresh, others⟩ := List.nodup_cons.mp distinct
    have kept : rest.filter (fun other => !other == name) = rest := by
      rw [List.filter_eq_self]
      intro other inside
      simp only [Bool.not_eq_true', beq_eq_false_iff_ne]
      rintro rfl
      exact fresh inside
    rw [List.eraseDups_cons, kept, ih others]

/-- Names that are there already are dropped. -/
theorem eraseDups_append_of_subset {names more : List String} (distinct : names.Nodup)
    (subset : more ⊆ names) : (names ++ more).eraseDups = names := by
  have known : more.removeAll names = [] := by
    rw [List.removeAll, List.filter_eq_nil_iff]
    intro name inside
    simpa using subset inside
  rw [List.eraseDups_append, known, eraseDups_of_nodup distinct, List.eraseDups_nil,
    List.append_nil]

namespace Keywords

theorem texts_map_string (names : List String) : texts (names.map .string) = names := by
  induction names with
  | nil => rfl
  | cons name rest ih => simp [texts]

/-- Required members are read as they are written, if those that ask for themselves are listed. -/
theorem required_of_written {k : Keywords} {required : List String} (distinct : required.Nodup)
    (written : Json.member? k.members "required" =
      if required.isEmpty then none else some (.array (required.map .string)))
    (asking : ∀ member ∈ k.properties, asksForItself member.2 = true → member.1 ∈ required) :
    k.required = required := by
  let more := (k.properties.filter fun member => asksForItself member.2).map Prod.fst
  have subset : more ⊆ required := by
    intro name inside
    obtain ⟨member, kept, rfl⟩ := List.mem_map.mp inside
    obtain ⟨inside, asks⟩ := List.mem_filter.mp kept
    exact asking member inside asks
  have whole : k.required = (required ++ more).eraseDups := by
    rw [Keywords.required, value?, written]
    cases required with
    | nil => rfl
    | cons name rest => exact congrArg (fun names => (names ++ more).eraseDups) (texts_map_string _)
  rw [whole]
  exact eraseDups_append_of_subset distinct subset

end Keywords

/-! ## Forms of values -/

/-- The value of a keyword has the form that the keyword asks for. -/
def Fits (member : String × Json) : Prop :=
  (keywordForm? member.1).bind (·.mismatch? member.2) = none

theorem keywordMismatch?_eq_none_iff {members : Members} :
    keywordMismatch? members = none ↔ ∀ member ∈ members, Fits member := by
  induction members with
  | nil => simp [keywordMismatch?]
  | cons member rest ih =>
    obtain ⟨name, value⟩ := member
    rw [List.forall_mem_cons, ← ih, keywordMismatch?]
    unfold Fits
    cases (keywordForm? name).bind (·.mismatch? value) <;> simp

theorem forall_mem_whenPresent {α : Type} {name : String} {value : Option α} {form : α → Json}
    {P : String × Json → Prop} :
    (∀ member ∈ whenPresent name value form, P member) ↔ ∀ v ∈ value, P (name, form v) := by
  cases value <;> simp [whenPresent]

theorem forall_mem_whenTrue {name : String} {on : Bool} {P : String × Json → Prop} :
    (∀ member ∈ whenTrue name on, P member) ↔ (on = true → P (name, .bool true)) := by
  cases on <;> simp [whenTrue]

theorem KeywordForm.mismatch?_float (x : Binary64) : mismatch? .number (.float x) = none := by
  unfold Json.float
  split <;> rfl

theorem KeywordForm.mismatch?_exclusive (e : Exclusive) :
    mismatch? .exclusive e.toJson = none := by
  cases e with
  | flag on => rfl
  | bound x =>
    rw [Exclusive.toJson, Json.float]
    split <;> rfl

theorem KeywordForm.mismatch?_nat (n : Nat) : mismatch? .count (.nat n) = none := by
  have : ¬ (n : Int) < 0 := by omega
  simp [mismatch?, Json.nat, orNull, countMismatch?, this]

open KeywordForm in
theorem Constraints.fits_members (c : Constraints) : ∀ member ∈ c.members, Fits member := by
  simp only [Constraints.members, List.forall_mem_append, forall_mem_whenPresent, and_assoc]
  exact ⟨fun n _ => mismatch?_nat n, fun n _ => mismatch?_nat n, fun _ _ => rfl,
    fun x _ => mismatch?_float x, fun x _ => mismatch?_float x,
    fun e _ => mismatch?_exclusive e, fun e _ => mismatch?_exclusive e,
    fun x _ => mismatch?_float x⟩

theorem CountRange.fits_members (c : CountRange) {min max : String}
    (least : keywordForm? min = some .count) (greatest : keywordForm? max = some .count) :
    ∀ member ∈ c.members min max, Fits member := by
  simp only [CountRange.members, List.forall_mem_append, forall_mem_whenPresent, Fits, least,
    greatest]
  exact ⟨fun n _ => KeywordForm.mismatch?_nat n, fun n _ => KeywordForm.mismatch?_nat n⟩

/-! ## Combining keywords -/

namespace Keywords

variable {k : Keywords}

/-- Without combining keywords nothing is shadowed. -/
theorem shadowing_of_no_combining (free : ∀ name ∈ combining, k.has name = false) :
    k.shadowing = [] := by
  unfold shadowing shadowed?
  cases found : structural.filter k.has with
  | nil => rfl
  | cons kept others =>
    have present : kept ∈ structural.filter k.has := by simp [found]
    have other : kept ∉ combining := by
      intro inside
      have absent := free kept inside
      rw [(List.mem_filter.mp present).2] at absent
      cases absent
    simp [other]

/-- The only member there is has the name that is present. -/
theorem eq_of_has_singleton {name other : String} {value : Json}
    (present : (⟨[(name, value)]⟩ : Keywords).has other = true) : other = name := by
  by_contra different
  have absent : (name == other) = false := beq_false_of_ne (Ne.symm different)
  simp [has, Json.hasMember, value?, absent] at present

/-- A single keyword shadows nothing. -/
theorem shadowing_singleton (name : String) (value : Json) :
    (⟨[(name, value)]⟩ : Keywords).shadowing = [] := by
  unfold shadowing shadowed?
  cases found : structural.filter (⟨[(name, value)]⟩ : Keywords).has with
  | nil => rfl
  | cons kept others =>
    have only (other : String) (inside : other ∈ kept :: others) : other = name := by
      rw [← found] at inside
      exact eq_of_has_singleton (List.mem_filter.mp inside).2
    have distinct : (kept :: others).Nodup := by
      rw [← found]
      exact List.Pairwise.filter _ (by decide : structural.Nodup)
    have alone : others = [] := by
      rw [List.eq_nil_iff_forall_not_mem]
      intro other inside
      have same := (only other (by simp [inside])).trans (only kept (by simp)).symm
      exact (List.nodup_cons.mp distinct).1 (same ▸ inside)
    simp [alone]

/-- A type alone decides if there are no combining keywords. -/
theorem form_of_type {token : String}
    (none : ∀ name ∈ combining, Json.member? k.members name = none)
    (type : Json.member? k.members "type" = some (.string token)) : k.form = .typed [token] := by
  have absent (name : String) (inside : name ∈ combining) : k.value? name = Option.none := by
    simp [value?, none name inside]
  have const := none "const" (by decide)
  simp only [form, text?, absent "$ref" (by decide), absent "enum" (by decide), const,
    absent "oneOf" (by decide), absent "anyOf" (by decide), absent "allOf" (by decide),
    absent "not" (by decide), types?]
  simp [value?, type]

end Keywords
/-! ## Schemas without combining keywords -/

namespace Keywords

variable {k : Keywords} (fits : ∀ member ∈ k.members, Fits member)
include fits

/-- A keyword that is present has a value of its form, other than null. -/
theorem fits_of_value? {name : String} {v : Json} (given : k.value? name = some v) :
    Fits (name, v) ∧ v ≠ .null := by
  refine ⟨fits _ (Json.mem_of_member? (member?_of_value? given)), ?_⟩
  rintro rfl
  unfold value? at given
  split at given
  · cases given
  · next other => exact other given

/-- A keyword of texts is absent if there is no text. -/
theorem value?_eq_none_of_text? {name : String} (form : keywordForm? name = some .text)
    (none : k.text? name = none) : k.value? name = Option.none := by
  cases given : k.value? name with
  | none => rfl
  | some v =>
    obtain ⟨fit, present⟩ := fits_of_value? fits given
    unfold Fits at fit
    cases v <;> simp_all [KeywordForm.mismatch?, KeywordForm.orNull, KeywordForm.expecting,
      KeywordForm.isText, text?]

/-- A keyword of schemas is absent if there is no list of them. -/
theorem value?_eq_none_of_schemas {name : String} (form : keywordForm? name = some .schemas)
    (none : ∀ items, k.value? name ≠ some (.array items)) : k.value? name = Option.none := by
  cases given : k.value? name with
  | none => rfl
  | some v =>
    obtain ⟨fit, present⟩ := fits_of_value? fits given
    unfold Fits at fit
    cases v <;> simp_all [KeywordForm.mismatch?, KeywordForm.orNull, KeywordForm.expecting,
      Json.kind]

/-- Schemas that are read by their types have no combining keyword. -/
theorem no_combining_of_form (opened : k.form = .free ∨ ∃ tokens, k.form = .typed tokens) :
    ∀ name ∈ combining, k.has name = false := by
  unfold form at opened
  split at opened
  · simp at opened
  · next ref =>
    split at opened
    · simp at opened
    · simp at opened
    · next const enum =>
      split at opened
      · simp at opened
      · simp at opened
      · simp at opened
      · simp at opened
      · next not one any all =>
        have ref := value?_eq_none_of_text? fits rfl ref
        have enum := value?_eq_none_of_schemas fits rfl enum
        have one := value?_eq_none_of_schemas fits rfl one
        have any := value?_eq_none_of_schemas fits rfl any
        have all := value?_eq_none_of_schemas fits rfl all
        simp [combining, has, Json.hasMember, *]

end Keywords

/-! ## References -/

namespace Reference

open Json.Pointer

theorem after?_append (start rest : List Char) : after? start (start ++ rest) = some rest := by
  induction start with
  | nil => rfl
  | cons c start ih => simpa [after?] using ih

/-- The first root is found before all others. -/
theorem findSome?_after? (root rest : List Char) (more : List (List Char)) :
    (root :: more).findSome? (fun start => after? start (root ++ rest)) = some rest := by
  rw [List.findSome?_cons, after?_append]

/-- A written reference has the name that was written. -/
theorem name?_text {name : String} (some : name ≠ "") : name? (text name) = Option.some name := by
  have chars : (text name).toList =
      "#/components/schemas/".toList ++ escapeChars name.toList := by
    unfold text escape
    rw [String.toList_append]
    exact congrArg _ String.toList_ofList
  have found : roots.findSome? (fun root => after? root (text name).toList) =
      Option.some (escapeChars name.toList) := by
    rw [chars, roots]
    exact findSome?_after? _ _ _
  have nonempty : name.toList ≠ [] := by simpa using some
  have filled : (escapeChars name.toList).isEmpty = false := by
    simpa using escapeChars_ne_nil nonempty
  have plain : (escapeChars name.toList).contains '/' = false := by
    simpa using slash_notMem_escapeChars name.toList
  unfold name?
  simp only [found, filled, plain, unescapeChars_escapeChars]
  simp

/-- No reference names an entry without a name. -/
theorem ne_empty_of_name? {reference name : String} (named : name? reference = some name) :
    name ≠ "" := by
  unfold name? at named
  dsimp only at named
  split at named
  · next rest found =>
    split at named
    · cases named
    · next fine =>
      cases named
      have nonempty : rest ≠ [] := by simp_all
      simpa using unescapeChars_ne_nil nonempty
  · split at named
    · cases named
    · next fine =>
      cases named
      have nonempty : reference.toList ≠ [] := by simp_all
      simpa using unescapeChars_ne_nil nonempty

end Reference

/-! ## Types and formats -/

/-- Only unknown tokens are kept. -/
theorem Format.eq_of_ofToken_other {t token : String} (other : ofToken t = .other token) :
    token = t := by
  unfold ofToken at other
  split at other <;> cases other
  rfl

/-- The format of a token is the format of what it is written as. -/
theorem Format.ofToken_token_ofToken (t : String) : ofToken (ofToken t).token = ofToken t := by
  cases made : ofToken t with
  | other token =>
    cases eq_of_ofToken_other made
    exact made
  | _ => rfl

theorem TypeName.ofToken_name (kind : ScalarKind) :
    TypeName.ofToken kind.name = .scalar kind none := by
  cases kind <;> rfl

end DataSchema
