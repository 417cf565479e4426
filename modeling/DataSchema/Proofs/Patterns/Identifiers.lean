import DataSchema.Proofs.Identifiers
import DataSchema.Proofs.Patterns.Languages

/-!
The patterns of identifiers. Each is for whole texts, and the texts that it is found in are those
of its grammar.
-/
namespace DataSchema.Pattern

open Unicode (CodeSet)
open Text

variable {c : Char} {text : List Char}

/-! ## Sets of characters -/

def hexDigits : CodeSet := ⟨[(48, 57), (65, 70), (97, 102)]⟩

def alphanumerics : CodeSet := ⟨[(48, 57), (65, 90), (97, 122)]⟩

def atomCharacters : CodeSet :=
  ⟨[(33, 33), (35, 39), (42, 43), (45, 45), (47, 57), (61, 61), (63, 63), (65, 90), (94, 126)]⟩

def labelCharacters : CodeSet := ⟨[(45, 45), (48, 57), (65, 90), (97, 122)]⟩

def letters : CodeSet := ⟨[(65, 90), (97, 122)]⟩

def schemeCharacters : CodeSet := ⟨[(43, 43), (45, 46), (48, 57), (65, 90), (97, 122)]⟩

/-- All but white space. -/
def visible : CodeSet :=
  ⟨[(0, 8), (14, 31), (33, 132), (134, 159), (161, 5759), (5761, 8191), (8203, 8231),
    (8234, 8238), (8240, 8286), (8288, 12287), (12289, 1114111)]⟩

theorem holds_hexDigits : hexDigits.holds c = true ↔ c.isDigit = true ∨ c ∈ hexLetters := by
  rw [isDigit_iff, mem_iff_toNat, hexLetters_codes]
  simp [CodeSet.holds, CodeSet.inRanges, hexDigits]
  omega

theorem holds_letters : letters.holds c = true ↔ c.isAlpha = true := by
  rw [isAlpha_iff]
  simp [CodeSet.holds, CodeSet.inRanges, letters]
  omega

theorem holds_alphanumerics : alphanumerics.holds c = true ↔ c.isAlphanum = true := by
  rw [isAlphanum_iff, isAlpha_iff, isDigit_iff]
  simp [CodeSet.holds, CodeSet.inRanges, alphanumerics]
  omega

theorem holds_labelCharacters :
    labelCharacters.holds c = true ↔ c.isAlphanum = true ∨ c = '-' := by
  rw [isAlphanum_iff, isAlpha_iff, isDigit_iff, ← Char.toNat_inj]
  simp [CodeSet.holds, CodeSet.inRanges, labelCharacters]
  omega

theorem holds_schemeCharacters :
    schemeCharacters.holds c = true ↔ c.isAlphanum = true ∨ c ∈ ['+', '.', '-'] := by
  rw [isAlphanum_iff, isAlpha_iff, isDigit_iff, mem_iff_toNat]
  simp [CodeSet.holds, CodeSet.inRanges, schemeCharacters]
  omega

theorem atomMarks_codes : atomMarks.map Char.toNat =
    [33, 35, 36, 37, 38, 39, 42, 43, 47, 61, 63, 94, 95, 96, 123, 124, 125, 126, 45] := by
  decide

theorem holds_atomCharacters :
    atomCharacters.holds c = true ↔ c.isAlphanum = true ∨ c ∈ atomMarks := by
  rw [isAlphanum_iff, isAlpha_iff, isDigit_iff, mem_iff_toNat, atomMarks_codes]
  simp [CodeSet.holds, CodeSet.inRanges, atomCharacters]
  omega

theorem holds_visible : visible.holds c = true ↔ Unicode.isWhiteSpace c = false := by
  have last : c.toNat < 1114112 := by
    rcases c.valid with low | ⟨-, high⟩
    · exact Nat.lt_trans low (by decide)
    · exact high
  rw [Unicode.isWhiteSpace, whiteSpace_eq]
  simp [CodeSet.holds, CodeSet.inRanges, visible]
  omega

/-! ## Universally unique identifiers -/

def hexGroup (n : Nat) : Regex := .repetition (.set false hexDigits) ⟨n, some n, true⟩

/-- Groups with hyphens between them. -/
def hexGroups (lengths : List Nat) : List Regex :=
  (lengths.map hexGroup).intersperse (.literal ['-'])

def groupedDigits (lengths : List Nat) : Language Char :=
  texts fun text =>
    ∃ groups, List.Forall₂ HexDigits lengths groups ∧ text = ['-'].intercalate groups

theorem reads_hexGroup (n : Nat) : Reads (hexGroup n).Matches (texts (HexDigits n)) := by
  intro before text after
  refine (reads_run false hexDigits ⟨n, some n, true⟩ before text after).trans ?_
  refine mem_runs_exactly.trans ?_
  simp only [holds_hexDigits]
  rfl

theorem reads_hexGroups (n : Nat) (lengths : List Nat) :
    Reads (Regex.AllMatch (hexGroups (n :: lengths))) (groupedDigits (n :: lengths)) := by
  induction lengths generalizing n with
  | nil =>
    intro before text after
    refine (reads_all_cons (reads_hexGroup n) reads_all_nil before text after).trans ?_
    rw [mul_one]
    constructor
    · exact fun group => ⟨[text], .cons group .nil, by simp⟩
    · rintro ⟨groups, each, rfl⟩
      obtain ⟨group, _, own, none, rfl⟩ := List.forall₂_cons_left_iff.mp each
      cases none
      simpa using own
  | cons m lengths ih =>
    intro before text after
    refine (reads_all_cons (reads_hexGroup n) (reads_all_cons (reads_literal ['-']) (ih m))
      before text after).trans ?_
    simp only [Language.mem_mul]
    constructor
    · rintro ⟨group, own, _, ⟨_, rfl, _, ⟨groups, each, rfl⟩, rfl⟩, rfl⟩
      refine ⟨group :: groups, .cons own each, ?_⟩
      obtain ⟨second, others, -, -, rfl⟩ := List.forall₂_cons_left_iff.mp each
      simp [List.intercalate_cons_cons]
    · rintro ⟨groups, each, rfl⟩
      obtain ⟨group, groups, own, later, rfl⟩ := List.forall₂_cons_left_iff.mp each
      refine ⟨group, own, _, ⟨['-'], rfl, _, ⟨groups, later, rfl⟩, rfl⟩, ?_⟩
      obtain ⟨second, others, -, -, rfl⟩ := List.forall₂_cons_left_iff.mp later
      simp [List.intercalate_cons_cons]

/-! ## Mail addresses -/

def atomRegex : Regex := .repetition (.set false atomCharacters) ⟨1, none, true⟩

/-- What may follow the first character of a label. -/
def labelRest : Regex :=
  .repetition (.capture (.concat
    [.repetition (.set false labelCharacters) ⟨0, none, true⟩, .set false alphanumerics]))
    ⟨0, some 1, true⟩

def mailParts : List Regex :=
  [atomRegex,
    .repetition (.capture (.concat [.literal ['.'], atomRegex])) ⟨0, none, true⟩,
    .literal ['@'],
    .set false alphanumerics, labelRest,
    .repetition (.capture (.concat [.literal ['.'], .set false alphanumerics, labelRest]))
      ⟨1, none, true⟩]

def labelLanguage : Language Char :=
  characters alphanumerics *
    repetitions (runs labelCharacters ⟨0, none, true⟩ * characters alphanumerics)
      ⟨0, some 1, true⟩

theorem mem_labelLanguage : text ∈ labelLanguage ↔ LabelText text := by
  simp only [labelLanguage, Language.mem_mul, mem_repetitions_optional, mem_runs_any,
    holds_labelCharacters]
  constructor
  · rintro ⟨_, ⟨c, rfl, first⟩, _, rfl | ⟨inner, between, _, ⟨d, rfl, last⟩, rfl⟩, rfl⟩
    · rw [holds_alphanumerics] at first
      simp [LabelText, first]
    · rw [holds_alphanumerics] at first last
      refine ⟨⟨c, rfl, first⟩, ⟨d, List.getLast?_concat (l := c :: inner), last⟩, ?_⟩
      simp only [List.singleton_append, List.forall_mem_cons, List.forall_mem_append]
      exact ⟨.inl first, between, .inl last, by simp⟩
  · rintro ⟨⟨c, head, first⟩, ⟨d, ends, last⟩, each⟩
    obtain ⟨rest, rfl⟩ := List.head?_eq_some_iff.mp head
    refine ⟨[c], ⟨c, rfl, holds_alphanumerics.mpr first⟩, rest, ?_, rfl⟩
    obtain rfl | ⟨inner, e, rfl⟩ := List.eq_nil_or_concat rest
    · exact .inl rfl
    · rw [List.concat_eq_append, ← List.cons_append, List.getLast?_concat] at ends
      cases ends
      simp only [List.forall_mem_cons, List.concat_eq_append, List.forall_mem_append] at each
      exact .inr ⟨inner, each.2.1, [d], ⟨d, rfl, holds_alphanumerics.mpr last⟩, by simp⟩

def atomLanguage : Language Char := runs atomCharacters ⟨1, none, true⟩

theorem mem_atomLanguage : text ∈ atomLanguage ↔ AtomText text := by
  simp only [atomLanguage, mem_runs_some, holds_atomCharacters]
  rfl

/-- The first text and those after it are one list. -/
theorem exists_cons_iff {α : Type} {P : List α → Prop} :
    (∃ first others, P (first :: others)) ↔ ∃ all, all ≠ [] ∧ P all :=
  ⟨fun ⟨_, _, holds⟩ => ⟨_, List.cons_ne_nil _ _, holds⟩, fun ⟨_, filled, holds⟩ =>
    let ⟨first, others, eq⟩ := List.exists_cons_of_ne_nil filled
    ⟨first, others, eq ▸ holds⟩⟩

theorem mem_localPart :
    text ∈ atomLanguage * repetitions (({['.']} : Language Char) * atomLanguage) ⟨0, none, true⟩ ↔
      ∃ atoms, atoms ≠ [] ∧ (∀ atom ∈ atoms, AtomText atom) ∧ text = ['.'].intercalate atoms := by
  simp only [mem_joined, mem_atomLanguage, Count.Allows, ← exists_cons_iff]
  simp

theorem mem_domain :
    text ∈ labelLanguage *
        repetitions (({['.']} : Language Char) * labelLanguage) ⟨1, none, true⟩ ↔
      ∃ labels, 2 ≤ labels.length ∧ (∀ label ∈ labels, LabelText label) ∧
        text = ['.'].intercalate labels := by
  simp only [mem_joined, mem_labelLanguage, Count.Allows]
  constructor
  · rintro ⟨first, others, ⟨some, -⟩, each, eq⟩
    exact ⟨first :: others, Nat.succ_le_succ some, each, eq⟩
  · rintro ⟨labels, two, each, eq⟩
    cases labels with
    | nil => cases two
    | cons first others =>
      exact ⟨first, others, ⟨Nat.le_of_succ_le_succ two, by simp⟩, each, eq⟩

theorem reads_labelRest : Reads labelRest.Matches
    (repetitions (runs labelCharacters ⟨0, none, true⟩ * characters alphanumerics)
      ⟨0, some 1, true⟩) := by
  have reads := reads_all_cons (reads_run false labelCharacters ⟨0, none, true⟩)
    (reads_all_cons (reads_set false alphanumerics) reads_all_nil)
  rw [mul_one] at reads
  exact reads_repetition (reads_group reads) _

theorem reads_mail : Reads (Regex.AllMatch mailParts) (texts MailText) := by
  have atom : Reads atomRegex.Matches atomLanguage := reads_run false atomCharacters ⟨1, none, true⟩
  have dot := reads_literal ['.']
  have start := reads_set false alphanumerics
  have reads : Reads (Regex.AllMatch mailParts) _ :=
    reads_all_cons atom <|
    reads_all_cons (reads_repetition (reads_group (reads_all_cons dot
      (reads_all_cons atom reads_all_nil))) ⟨0, none, true⟩) <|
    reads_all_cons (reads_literal ['@']) <| reads_all_cons start <|
    reads_all_cons reads_labelRest <|
    reads_all_cons (reads_repetition (reads_group (reads_all_cons dot
      (reads_all_cons start (reads_all_cons reads_labelRest reads_all_nil))))
      ⟨1, none, true⟩) reads_all_nil
  have language : Reads (Regex.AllMatch mailParts)
      ((atomLanguage * repetitions (({['.']} : Language Char) * atomLanguage) ⟨0, none, true⟩) *
        (({['@']} : Language Char) * (labelLanguage *
          repetitions (({['.']} : Language Char) * labelLanguage) ⟨1, none, true⟩))) := by
    simpa only [labelLanguage, mul_assoc, mul_one] using reads
  intro before text after
  refine (language before text after).trans ?_
  constructor
  · rintro ⟨_, own, _, ⟨_, rfl, _, others, rfl⟩, rfl⟩
    obtain ⟨atoms, some, each, rfl⟩ := mem_localPart.mp own
    obtain ⟨labels, two, all, rfl⟩ := mem_domain.mp others
    exact ⟨atoms, labels, some, each, two, all, rfl⟩
  · rintro ⟨atoms, labels, some, each, two, all, rfl⟩
    exact ⟨_, mem_localPart.mpr ⟨atoms, some, each, rfl⟩, _,
      ⟨['@'], rfl, _, mem_domain.mpr ⟨labels, two, all, rfl⟩, rfl⟩, rfl⟩

/-! ## Resource identifiers -/

def resourceParts : List Regex :=
  [.set false letters, .repetition (.set false schemeCharacters) ⟨0, none, true⟩, .literal [':'],
    .repetition (.set false visible) ⟨1, none, true⟩]

theorem reads_resource : Reads (Regex.AllMatch resourceParts) (texts ResourceText) := by
  have reads : Reads (Regex.AllMatch resourceParts) _ :=
    reads_all_cons (reads_set false letters) <|
    reads_all_cons (reads_run false schemeCharacters ⟨0, none, true⟩) <|
    reads_all_cons (reads_literal [':']) <|
    reads_all_cons (reads_run false visible ⟨1, none, true⟩) reads_all_nil
  intro before text after
  refine (reads before text after).trans ?_
  simp only [mul_one, Language.mem_mul, mem_runs_any, mem_runs_some, holds_schemeCharacters,
    holds_visible]
  constructor
  · rintro ⟨_, ⟨letter, rfl, alpha⟩, _,
      ⟨more, each, _, ⟨_, rfl, rest, ⟨some, black⟩, rfl⟩, rfl⟩, rfl⟩
    exact ⟨letter :: more, rest, ⟨letter, more, rfl, holds_letters.mp alpha, each⟩, some, black,
      rfl⟩
  · rintro ⟨_, rest, ⟨letter, more, rfl, alpha, each⟩, some, black, rfl⟩
    exact ⟨[letter], ⟨letter, rfl, holds_letters.mpr alpha⟩, _,
      ⟨more, each, _, ⟨[':'], rfl, rest, ⟨some, black⟩, rfl⟩, rfl⟩, rfl⟩

end DataSchema.Pattern
