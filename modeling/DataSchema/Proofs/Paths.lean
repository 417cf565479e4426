import DataSchema.Check.Issue
import DataSchema.Json.Scan
import DataSchema.Proofs.Json.Pointers
import Mathlib.Tactic.SplitIfs

/-!
Texts of places in values. A place is read from its text again: what comes first in a segment tells
an identifier, a quoted name and an index apart, and none of the three goes on where the next
segment begins. So different places never have the same text, whatever characters the names have.
-/
namespace DataSchema

/-! ## Quoted names -/

namespace Json.Scan

/-- The two digits of a control character are read as its code. -/
theorem fourHex_control : ∀ code < 0x20, ∀ rest,
    fourHex ('0' :: '0' :: Nat.digitChar (code / 16) :: Nat.digitChar (code % 16) :: rest) =
      .ok (code, rest) := by
  intro code small rest
  have digits : ∀ code < 0x20,
      ['0', '0', Nat.digitChar (code / 16), Nat.digitChar (code % 16)].all Text.isHex = true ∧
        Text.ofHexDigits ['0', '0', Nat.digitChar (code / 16), Nat.digitChar (code % 16)] =
          code := by decide
  obtain ⟨hex, value⟩ := digits code small
  rw [fourHex, if_pos hex, value]

theorem stringBody_plain {c : Char} (quote : c ≠ '"') (slash : c ≠ '\\')
    (visible : ¬ c.toNat < 0x20) (fuel : Nat) (read rest : List Char) :
    stringBody (fuel + 1) read (c :: rest) = stringBody fuel (c :: read) rest := by
  rw [stringBody]
  · exact if_neg visible
  · exact quote
  · exact fun same => absurd same slash
  · exact fun _ same => absurd same slash
  · exact fun _ _ same => absurd same slash

/-- One round reads what one character is escaped as. -/
theorem stringBody_escaped (c : Char) (fuel : Nat) (read rest : List Char) :
    stringBody (fuel + 1) read (escaped c ++ rest) = stringBody fuel (c :: read) rest := by
  unfold escaped
  split_ifs with quote slash backspace feed line carriage tab control
  · rw [quote]; rfl
  · rw [slash]; rfl
  · rw [backspace]; rfl
  · rw [feed]; rfl
  · rw [line]; rfl
  · rw [carriage]; rfl
  · rw [tab]; rfl
  · have code : unicodeEscape (('0' :: '0' :: Nat.digitChar (c.toNat / 16) ::
        Nat.digitChar (c.toNat % 16) :: rest)) = .ok (c, rest) := by
      rw [unicodeEscape, fourHex_control _ control]
      simp [Except.bind, show ¬ 0xDC00 ≤ c.toNat by omega, show c.toNat < 0xD800 by omega]
    simp only [escapedControl, List.cons_append, List.nil_append]
    rw [stringBody, code]
    rfl
  · exact stringBody_plain quote slash control fuel read rest

theorem stringBody_quoted {cs : List Char} {fuel : Nat} (enough : cs.length < fuel)
    (read rest : List Char) :
    stringBody fuel read (cs.flatMap escaped ++ '"' :: rest) =
      .ok (String.ofList (read.reverse ++ cs), rest) := by
  induction cs generalizing fuel read with
  | nil =>
    obtain ⟨fuel, rfl⟩ := Nat.exists_eq_add_one_of_ne_zero (Nat.ne_of_gt enough)
    simp [stringBody]
  | cons c cs ih =>
    obtain ⟨fuel, rfl⟩ := Nat.exists_eq_add_one_of_ne_zero (Nat.ne_zero_of_lt enough)
    rw [List.flatMap_cons, List.append_assoc, stringBody_escaped,
      ih (Nat.lt_of_succ_lt_succ enough)]
    simp

/-- Nothing escapes to nothing. -/
theorem length_le_flatMap_escaped (cs : List Char) : cs.length ≤ (cs.flatMap escaped).length := by
  induction cs with
  | nil => exact Nat.le_refl 0
  | cons c cs ih =>
    have one : 1 ≤ (escaped c).length := by
      unfold escaped
      split_ifs <;> simp [escapedControl]
    rw [List.flatMap_cons, List.length_append, List.length_cons]
    omega

/-- A quoted text is read again up to its closing quote. -/
theorem string_quoted (cs rest : List Char) :
    string (cs.flatMap escaped ++ '"' :: rest) = .ok (String.ofList cs, rest) := by
  refine stringBody_quoted ?_ [] rest
  have enough := length_le_flatMap_escaped cs
  rw [List.length_append]
  omega

end Json.Scan

/-! ## Segments -/

/-- Characters of names that are written after a dot. -/
def inIdentifier (c : Char) : Bool := Text.isAsciiAlphanumeric c || c == '_'

theorem inIdentifier_of_isIdentifier {cs : List Char} (identifier : isIdentifier cs = true) :
    ∀ c ∈ cs, inIdentifier c = true := by
  cases cs with
  | nil => simp
  | cons c rest =>
    simp only [isIdentifier, Bool.and_eq_true, Bool.or_eq_true, List.all_eq_true] at identifier
    obtain ⟨first, others⟩ := identifier
    rintro d (_ | ⟨_, later⟩)
    · simp only [inIdentifier, Text.isAsciiAlphanumeric, Bool.or_eq_true]
      exact first.imp .inl id
    · simpa [inIdentifier] using others d later

/-- Reads a segment, and gives the text after it. -/
def Segment.read? : List Char → Option (Segment × List Char)
  | '.' :: rest =>
    some (.key (String.ofList (rest.takeWhile inIdentifier)), rest.dropWhile inIdentifier)
  | '[' :: '"' :: rest =>
    match Json.Scan.string rest with
    | .ok (name, ']' :: after) => some (.key name, after)
    | _ => none
  | '[' :: rest =>
    match rest.dropWhile Text.isDecimal with
    | ']' :: after =>
      some (.index (Text.ofDecimalDigits (rest.takeWhile Text.isDecimal)), after)
    | _ => none
  | _ => none

theorem Segment.read?_index (place : Nat) (rest : List Char) :
    read? ((Segment.index place).chars ++ rest) = some (.index place, rest) := by
  have digits : ∀ c ∈ Nat.toDigits 10 place, Text.isDecimal c = true :=
    fun c => Text.isDecimal_of_mem_toDigits
  have taken : (Nat.toDigits 10 place ++ ']' :: rest).takeWhile Text.isDecimal =
      Nat.toDigits 10 place := by
    rw [List.takeWhile_append_of_pos digits, List.takeWhile_cons_of_neg (by decide),
      List.append_nil]
  have dropped : (Nat.toDigits 10 place ++ ']' :: rest).dropWhile Text.isDecimal = ']' :: rest := by
    rw [List.dropWhile_append_of_pos digits, List.dropWhile_cons_of_neg (by decide)]
  have unquoted (more : List Char) : Nat.toDigits 10 place ++ ']' :: rest ≠ '"' :: more := by
    intro same
    cases written : Nat.toDigits 10 place with
    | nil => exact Nat.toDigits_ne_nil written
    | cons c cs =>
      rw [written] at same digits
      cases same
      exact absurd (digits '"' List.mem_cons_self) (by decide)
  simp only [chars, List.cons_append, List.append_assoc, List.nil_append]
  rw [read?, dropped]
  · simp only [taken, Text.ofDecimalDigits_toDigits]
  · exact unquoted

/-- An identifier ends where the next segment begins. -/
theorem Segment.read?_identifier {name : String} (identifier : isIdentifier name.toList = true)
    {rest : List Char} (ends : ∀ c ∈ rest.head?, inIdentifier c = false) :
    read? ('.' :: name.toList ++ rest) = some (.key name, rest) := by
  have each := inIdentifier_of_isIdentifier identifier
  have stop : rest.takeWhile inIdentifier = [] ∧ rest.dropWhile inIdentifier = rest := by
    cases rest with
    | nil => exact ⟨rfl, rfl⟩
    | cons c rest =>
      have other := ends c rfl
      exact ⟨List.takeWhile_cons_of_neg (by simp [other]),
        List.dropWhile_cons_of_neg (by simp [other])⟩
  rw [List.cons_append, read?, List.takeWhile_append_of_pos each,
    List.dropWhile_append_of_pos each, stop.1, stop.2, List.append_nil, String.ofList_toList]

theorem Segment.read?_quoted (name : String) (rest : List Char) :
    read? ('[' :: (Json.quotedChars name.toList ++ [']']) ++ rest) = some (.key name, rest) := by
  have quoted := Json.Scan.string_quoted name.toList (']' :: rest)
  simp only [Json.quotedChars, List.cons_append, List.append_assoc, List.nil_append]
  rw [read?, quoted, String.ofList_toList]
  rfl

/-- A segment is read from its text again, if the text goes on with another segment or ends. -/
theorem Segment.read?_chars (segment : Segment) {rest : List Char}
    (ends : ∀ c ∈ rest.head?, inIdentifier c = false) :
    read? (segment.chars ++ rest) = some (segment, rest) := by
  cases segment with
  | index place => exact read?_index place rest
  | key name =>
    rw [chars]
    split
    · next identifier => exact read?_identifier identifier ends
    · exact read?_quoted name rest

/-! ## Places -/

/-- Reads the segments up to the end of the text. Each takes a character, so the length of the text
bounds their number. -/
def Path.segments? : Nat → List Char → Option Path
  | _, [] => some []
  | 0, _ :: _ => none
  | fuel + 1, c :: rest => do
    let (segment, rest) ← Segment.read? (c :: rest)
    let path ← segments? fuel rest
    some (segment :: path)

/-- The place that a text is of. -/
def Path.ofText? (text : String) : Option Path :=
  match text.toList with
  | '$' :: rest => segments? rest.length rest
  | _ => none

theorem Segment.exists_chars_eq (segment : Segment) :
    ∃ c rest, segment.chars = c :: rest ∧ inIdentifier c = false := by
  cases segment with
  | index place => exact ⟨_, _, rfl, by decide⟩
  | key name =>
    rw [chars]
    split
    · exact ⟨_, _, rfl, by decide⟩
    · exact ⟨_, _, rfl, by decide⟩

/-- No segment begins as an identifier goes on. -/
theorem Path.head?_flatMap_chars (path : Path) :
    ∀ c ∈ (path.flatMap Segment.chars).head?, inIdentifier c = false := by
  cases path with
  | nil => simp
  | cons segment path =>
    obtain ⟨c, rest, chars, other⟩ := segment.exists_chars_eq
    simp [chars, other]

theorem Path.segments?_flatMap_chars (path : Path) {fuel : Nat} (enough : path.length ≤ fuel) :
    segments? fuel (path.flatMap Segment.chars) = some path := by
  induction path generalizing fuel with
  | nil => cases fuel <;> rfl
  | cons segment path ih =>
    obtain ⟨fuel, rfl⟩ := Nat.exists_eq_add_one_of_ne_zero (Nat.ne_zero_of_lt enough)
    obtain ⟨c, more, chars, -⟩ := segment.exists_chars_eq
    have first := segment.read?_chars (head?_flatMap_chars path)
    rw [List.flatMap_cons, chars, List.cons_append] at *
    rw [segments?, first]
    simp [ih (Nat.le_of_succ_le_succ enough)]

theorem Path.length_le_flatMap_chars (path : Path) :
    path.length ≤ (path.flatMap Segment.chars).length := by
  induction path with
  | nil => exact Nat.le_refl 0
  | cons segment path ih =>
    obtain ⟨c, more, chars, -⟩ := segment.exists_chars_eq
    rw [List.flatMap_cons, chars, List.length_append, List.length_cons, List.length_cons]
    omega

theorem Path.ofText?_eq (path : Path) : ofText? path.text = some path := by
  rw [ofText?, text, Path.chars, String.toList_ofList]
  exact segments?_flatMap_chars path (length_le_flatMap_chars path)

/-- Texts of places are unambiguous: every place is read from its text, so no two places share
one. -/
theorem Path.places_are_told_apart :
    (∀ path : Path, ofText? path.text = some path) ∧ Function.Injective Path.text := by
  refine ⟨ofText?_eq, fun path other same => ?_⟩
  have read := congrArg ofText? same
  rwa [ofText?_eq, ofText?_eq, Option.some_inj] at read

example : Path.text [.index 0, .key "0", .key "a", .key "a.b"] = "$[0][\"0\"].a[\"a.b\"]" := by
  decide

end DataSchema
