import DataSchema.Json.Pointer

/-!
Pointers. A position that is written as a pointer is read from it again, whatever characters its
segments have, so a pointer leads where the segments lead one after the other.
-/
namespace DataSchema

/-! ## Parts of texts -/

namespace Text

variable {separates : Char → Bool} {cs : List Char}

theorem parts_eq_singleton (plain : ∀ c ∈ cs, separates c = false) :
    parts separates cs = [cs] := by
  induction cs with
  | nil => rfl
  | cons c rest ih =>
    obtain ⟨here, plain⟩ := List.forall_mem_cons.mp plain
    simp [parts, here, ih plain]

/-- What comes before the first separator is the first part. -/
theorem parts_append_cons (plain : ∀ c ∈ cs, separates c = false) {c : Char}
    (ends : separates c = true) (rest : List Char) :
    parts separates (cs ++ c :: rest) = cs :: parts separates rest := by
  induction cs with
  | nil => simp [parts, ends]
  | cons d cs ih =>
    obtain ⟨here, plain⟩ := List.forall_mem_cons.mp plain
    simp [parts, here, ih plain]

theorem ofDecimalDigits_toDigits (n : Nat) : ofDecimalDigits (Nat.toDigits 10 n) = n :=
  Nat.ofDigitChars_ten_toDigits

theorem isDecimal_of_mem_toDigits {n : Nat} {c : Char} (digit : c ∈ Nat.toDigits 10 n) :
    isDecimal c = true :=
  Nat.isDigit_of_mem_toDigits (by decide) (by decide) digit

/-- No positive number is written with a zero first. -/
theorem head?_toDigits_ne {n : Nat} (positive : 0 < n) : (Nat.toDigits 10 n).head? ≠ some '0' := by
  induction n using Nat.strongRecOn with
  | ind n ih =>
    rw [Nat.toDigits_eq_if (by decide)]
    split
    · next small =>
      have digit : ∀ d < 10, 0 < d → d.digitChar ≠ '0' := by decide
      simpa using digit n small positive
    · next large =>
      have first := ih (n / 10) (by omega) (by omega)
      cases written : (Nat.toDigits 10 (n / 10)).head? with
      | none => exact absurd (List.head?_eq_none_iff.mp written) Nat.toDigits_ne_nil
      | some c => rwa [List.head?_append, written, Option.some_or, ← written]

end Text

/-! ## Segments -/

namespace Json.Pointer

theorem unescapeChars_cons {c : Char} (plain : c ≠ '~') (rest : List Char) :
    unescapeChars (c :: rest) = c :: unescapeChars rest := by
  rw [unescapeChars]
  · rintro rest' rfl
    exact absurd rfl plain
  · rintro rest' rfl
    exact absurd rfl plain

/-- What is escaped is unescaped again. -/
theorem unescapeChars_escapeChars (cs : List Char) : unescapeChars (escapeChars cs) = cs := by
  induction cs with
  | nil => rfl
  | cons c rest ih =>
    unfold escapeChars at ih ⊢
    rw [List.flatMap_cons, escapedChar]
    split
    · next same => simp [same, unescapeChars, ih]
    · next plain =>
      split
      · next same => simp [same, unescapeChars, ih]
      · rw [List.cons_append, List.nil_append, unescapeChars_cons plain, ih]

theorem unescapeChars_ne_nil {cs : List Char} (some : cs ≠ []) : unescapeChars cs ≠ [] := by
  unfold unescapeChars
  split <;> simp_all

theorem escapeChars_ne_nil {cs : List Char} (some : cs ≠ []) : escapeChars cs ≠ [] := by
  intro none
  have same := unescapeChars_escapeChars cs
  rw [none] at same
  exact some same.symm

theorem slash_notMem_escapeChars (cs : List Char) : '/' ∉ escapeChars cs := by
  intro inside
  obtain ⟨c, -, part⟩ := List.mem_flatMap.mp inside
  unfold escapedChar at part
  split at part
  · simp at part
  · next plain =>
    split at part
    · simp at part
    · next other => exact other (List.mem_singleton.mp part).symm

/-- The parts between slashes are the escaped segments. -/
theorem parts_renderChars (segment : String) (rest : List String) :
    Text.parts (· == '/') (escapeChars segment.toList ++ renderChars rest) =
      (segment :: rest).map fun segment => escapeChars segment.toList := by
  have plain (segment : String) : ∀ c ∈ escapeChars segment.toList, (c == '/') = false := by
    intro c inside
    refine beq_eq_false_iff_ne.mpr ?_
    rintro rfl
    exact slash_notMem_escapeChars _ inside
  induction rest generalizing segment with
  | nil => rw [renderChars, List.append_nil, Text.parts_eq_singleton (plain segment)]; rfl
  | cons next rest ih =>
    rw [renderChars, Text.parts_append_cons (plain segment) (by rfl), ih]
    rfl

/-- The segments are read from the pointer again. -/
theorem parse?_render (segments : List String) : parse? (render segments) = some segments := by
  rw [parse?, render, String.toList_ofList]
  cases segments with
  | nil => rfl
  | cons segment rest =>
    rw [renderChars, parseChars?, parts_renderChars, List.map_map]
    simp [Function.comp_def, unescapeChars_escapeChars]

/-- An index is read from its digits again. -/
theorem index?_repr (place : Nat) : index? place.repr = some place := by
  unfold index?
  rw [Nat.toList_repr]
  rcases Nat.eq_zero_or_pos place with rfl | positive
  · rfl
  · have first := Text.head?_toDigits_ne positive
    have each : ∀ c ∈ Nat.toDigits 10 place, Text.isDecimal c = true :=
      fun c => Text.isDecimal_of_mem_toDigits
    have value := Text.ofDecimalDigits_toDigits place
    cases written : Nat.toDigits 10 place with
    | nil => exact absurd written Nat.toDigits_ne_nil
    | cons c rest =>
      rw [written] at first each value
      simp_all

/-! ## Values -/

@[simp] theorem step?_object (members : Members) (name : String) :
    step? (.object members) name = member? members name := rfl

@[simp] theorem step?_array (items : List Json) (place : Nat) :
    step? (.array items) place.repr = items[place]? := by
  rw [step?, index?_repr, Option.bind_some]

theorem resolve?_append (v : Json) (path more : List String) :
    resolve? v (path ++ more) = (resolve? v path).bind fun part => resolve? part more := by
  induction path generalizing v with
  | nil => rfl
  | cons segment rest ih =>
    rw [List.cons_append, resolve?, resolve?, Option.bind_assoc]
    simp only [ih]

/-- A pointer leads where its segments do. -/
theorem select?_render (v : Json) (path : List String) :
    select? v (render path) = resolve? v path := by
  rw [select?, parse?_render, Option.bind_some]

end Json.Pointer
end DataSchema
