import DataSchema.Proofs.Dates
import DataSchema.Text.Format
import Mathlib.Data.List.Forall2

/-!
The grammars of universally unique identifiers, mail addresses and resource identifiers. A text that
is cut at its separators is put together again from its parts, so the cuts decide the grammars.
-/
namespace DataSchema.Text

variable {cs : List Char} {c : Char}

/-! ## Grammars -/

def hexLetters : List Char := "abcdefABCDEF".toList

/-- A number of hexadecimal digits. -/
def HexDigits (n : Nat) (cs : List Char) : Prop :=
  cs.length = n ∧ ∀ c ∈ cs, c.isDigit = true ∨ c ∈ hexLetters

/-- Groups of hexadecimal digits with hyphens between them. -/
def UuidText (cs : List Char) : Prop :=
  ∃ groups, List.Forall₂ HexDigits [8, 4, 4, 4, 12] groups ∧ cs = ['-'].intercalate groups

def atomMarks : List Char := "!#$%&'*+/=?^_`\x7b|\x7d~-".toList

def AtomText (cs : List Char) : Prop := cs ≠ [] ∧ ∀ c ∈ cs, c.isAlphanum = true ∨ c ∈ atomMarks

/-- Letters, digits and hyphens, no hyphen being first or last. -/
def LabelText (cs : List Char) : Prop :=
  (∃ c ∈ cs.head?, c.isAlphanum = true) ∧ (∃ c ∈ cs.getLast?, c.isAlphanum = true) ∧
    ∀ c ∈ cs, c.isAlphanum = true ∨ c = '-'

/-- Atoms with dots between them, an at sign, and two or more labels with dots between them. -/
def MailText (cs : List Char) : Prop :=
  ∃ atoms labels, atoms ≠ [] ∧ (∀ atom ∈ atoms, AtomText atom) ∧
    2 ≤ labels.length ∧ (∀ label ∈ labels, LabelText label) ∧
    cs = ['.'].intercalate atoms ++ '@' :: ['.'].intercalate labels

def SchemeText (cs : List Char) : Prop :=
  ∃ letter more, cs = letter :: more ∧ letter.isAlpha = true ∧
    ∀ c ∈ more, c.isAlphanum = true ∨ c ∈ ['+', '.', '-']

/-- A scheme, a colon, and some text without white space. -/
def ResourceText (cs : List Char) : Prop :=
  ∃ scheme rest, SchemeText scheme ∧ rest ≠ [] ∧
    (∀ c ∈ rest, Unicode.isWhiteSpace c = false) ∧ cs = scheme ++ ':' :: rest

/-! ## Characters -/

theorem isDigit_iff : c.isDigit = true ↔ 48 ≤ c.toNat ∧ c.toNat ≤ 57 := by
  simp [Char.isDigit, UInt32.le_iff_toNat_le]

theorem isAlpha_iff : c.isAlpha = true ↔
    65 ≤ c.toNat ∧ c.toNat ≤ 90 ∨ 97 ≤ c.toNat ∧ c.toNat ≤ 122 := by
  simp [Char.isAlpha, Char.isUpper, Char.isLower, UInt32.le_iff_toNat_le]

theorem isAlphanum_iff : c.isAlphanum = true ↔ c.isAlpha = true ∨ c.isDigit = true := by
  rw [Char.isAlphanum, Bool.or_eq_true]

/-- A character is in a list if its code is. -/
theorem mem_iff_toNat {marks : List Char} : c ∈ marks ↔ c.toNat ∈ marks.map Char.toNat :=
  (List.mem_map_of_injective fun _ _ => Char.toNat_inj.mp).symm

theorem le_iff_toNat {c d : Char} : c ≤ d ↔ c.toNat ≤ d.toNat := Iff.rfl

theorem hexLetters_codes : hexLetters.map Char.toNat =
    [97, 98, 99, 100, 101, 102, 65, 66, 67, 68, 69, 70] := by
  decide

theorem isHex_iff : isHex c = true ↔ c.isDigit = true ∨ c ∈ hexLetters := by
  have ranges : isHex c = true ↔
      ('0' ≤ c ∧ c ≤ '9') ∨ ('a' ≤ c ∧ c ≤ 'f') ∨ 'A' ≤ c ∧ c ≤ 'F' := by
    simp only [isHex, hexValue?, Bool.and_eq_true, decide_eq_true_eq]
    split_ifs <;> simp_all
  rw [ranges, isDigit_iff, mem_iff_toNat, hexLetters_codes]
  simp only [le_iff_toNat, Char.reduceToNat, List.mem_cons, List.not_mem_nil, or_false]
  omega

theorem isAsciiLetter_iff : isAsciiLetter c = true ↔ c.isAlpha = true := by
  simp only [isAsciiLetter, isAlpha_iff, Bool.or_eq_true, Bool.and_eq_true, decide_eq_true_eq,
    le_iff_toNat, Char.reduceToNat]
  exact or_comm

theorem isAsciiAlphanumeric_iff : isAsciiAlphanumeric c = true ↔ c.isAlphanum = true := by
  rw [isAsciiAlphanumeric, Bool.or_eq_true, isAsciiLetter_iff, isDecimal_iff, isAlphanum_iff,
    isDigit_iff]

theorem isAtomChar_iff : isAtomChar c = true ↔ c.isAlphanum = true ∨ c ∈ atomMarks := by
  rw [isAtomChar, Bool.or_eq_true, isAsciiAlphanumeric_iff, List.contains_iff_mem]
  rfl

theorem isSchemeChar_iff : isSchemeChar c = true ↔ c.isAlphanum = true ∨ c ∈ ['+', '.', '-'] := by
  simp [isSchemeChar, isAsciiAlphanumeric_iff, or_assoc]

/-! ## Cuts -/

/-- Parts are what a list is split into. -/
theorem parts_eq_splitOn (mark : Char) (cs : List Char) :
    parts (· == mark) cs = cs.splitOn mark := by
  induction cs with
  | nil => rfl
  | cons c cs ih =>
    rw [parts, List.splitOn_cons_eq_if_modifyHead, ih]
    split
    · rfl
    · cases split : cs.splitOn mark with
      | nil => exact absurd split (List.splitOn_ne_nil mark cs)
      | cons part more => rfl

/-- A text is its parts with the mark between them, whatever is asked of parts without the mark. -/
theorem exists_parts_iff {mark : Char} {P : List (List Char) → Prop}
    (plain : ∀ texts, P texts → texts ≠ [] ∧ ∀ text ∈ texts, mark ∉ text) :
    P (parts (· == mark) cs) ↔ ∃ texts, P texts ∧ cs = [mark].intercalate texts := by
  rw [parts_eq_splitOn]
  constructor
  · exact fun holds => ⟨cs.splitOn mark, holds, (List.intercalate_splitOn mark).symm⟩
  · rintro ⟨texts, holds, rfl⟩
    obtain ⟨some, absent⟩ := plain texts holds
    rwa [List.splitOn_intercalate mark absent some]

theorem cutAt?_eq_some_iff {mark : Char} {before after : List Char} :
    cutAt? mark cs = some (before, after) ↔ cs = before ++ mark :: after ∧ mark ∉ before := by
  induction cs generalizing before with
  | nil => simp [cutAt?]
  | cons c cs ih =>
    rw [cutAt?]
    split
    · next same =>
      subst same
      cases before with
      | nil => simp [eq_comm]
      | cons d before => simp +contextual [eq_comm]
    · next differs =>
      constructor
      · intro cut
        obtain ⟨⟨own, left⟩, cut, eq⟩ := Option.map_eq_some_iff.mp cut
        cases eq
        obtain ⟨rfl, absent⟩ := ih.mp cut
        exact ⟨rfl, List.not_mem_cons_of_ne_of_not_mem (Ne.symm differs) absent⟩
      · rintro ⟨eq, absent⟩
        cases before with
        | nil => exact absurd (List.cons_eq_cons.mp eq).1 differs
        | cons d before =>
          obtain ⟨rfl, tail⟩ := List.cons_eq_cons.mp eq
          have cut := ih.mpr ⟨tail, List.not_mem_of_not_mem_cons absent⟩
          simp [cut]

/-! ## Formats -/

theorem hexDigits_iff {n : Nat} : HexDigits n cs ↔ cs.length = n ∧ cs.all isHex = true := by
  simp only [HexDigits, List.all_eq_true, isHex_iff]

theorem forall₂_hexDigits_iff {lengths : List Nat} {groups : List (List Char)} :
    List.Forall₂ HexDigits lengths groups ↔
      groups.map List.length = lengths ∧ (groups.all fun group => group.all isHex) = true := by
  induction lengths generalizing groups with
  | nil => cases groups <;> simp
  | cons n lengths ih =>
    cases groups with
    | nil => simp
    | cons group groups =>
      simp only [List.forall₂_cons, ih, hexDigits_iff, List.map_cons, List.cons.injEq,
        List.all_cons, Bool.and_eq_true]
      exact and_and_and_comm

theorem isUuid_iff : isUuid cs = true ↔ UuidText cs := by
  rw [isUuid, Bool.and_eq_true, beq_iff_eq, ← forall₂_hexDigits_iff]
  refine exists_parts_iff (P := List.Forall₂ HexDigits [8, 4, 4, 4, 12]) fun groups each => ?_
  refine ⟨fun none => ?_, fun group inside hyphen => ?_⟩
  · subst none
    cases each
  · obtain ⟨-, hex⟩ := forall₂_hexDigits_iff.mp each
    exact absurd (List.all_eq_true.mp (List.all_eq_true.mp hex group inside) _ hyphen) (by decide)

theorem isAtom_iff : isAtom cs = true ↔ AtomText cs := by
  simp [isAtom, AtomText, isAtomChar_iff]

theorem isLabel_iff : isLabel cs = true ↔ LabelText cs := by
  simp [isLabel, LabelText, isAsciiAlphanumeric_iff, and_assoc, Option.any_eq_true]

theorem mem_intercalate {mark : Char} {texts : List (List Char)}
    (inside : c ∈ [mark].intercalate texts) : c = mark ∨ ∃ text ∈ texts, c ∈ text := by
  induction texts with
  | nil => simp at inside
  | cons first texts ih =>
    cases texts with
    | nil => exact .inr ⟨first, List.mem_singleton_self _, by simpa using inside⟩
    | cons second texts =>
      simp only [List.intercalate_cons_cons, List.mem_append, List.mem_singleton] at inside
      rcases inside with (own | same) | later
      · exact .inr ⟨first, List.mem_cons_self, own⟩
      · exact .inl same
      · exact (ih later).imp id fun ⟨text, inside, here⟩ =>
          ⟨text, List.mem_cons_of_mem _ inside, here⟩

theorem not_mem_atom {mark : Char} (atom : AtomText cs) (plain : isAtomChar mark = false) :
    mark ∉ cs := fun here => by
  rw [isAtomChar_iff.mpr (atom.2 mark here)] at plain
  cases plain

theorem atoms_iff : (parts (· == '.') cs).all isAtom = true ↔
    ∃ atoms, (atoms ≠ [] ∧ ∀ atom ∈ atoms, AtomText atom) ∧ cs = ['.'].intercalate atoms := by
  rw [← exists_parts_iff (P := fun atoms => atoms ≠ [] ∧ ∀ atom ∈ atoms, AtomText atom)]
  · simp [List.all_eq_true, isAtom_iff, parts_eq_splitOn, List.splitOn_ne_nil]
  · exact fun atoms told =>
      ⟨told.1, fun atom inside => not_mem_atom (told.2 atom inside) (by decide)⟩

theorem labels_iff :
    (2 ≤ (parts (· == '.') cs).length ∧ (parts (· == '.') cs).all isLabel = true) ↔
      ∃ labels, (2 ≤ labels.length ∧ ∀ label ∈ labels, LabelText label) ∧
        cs = ['.'].intercalate labels := by
  rw [← exists_parts_iff (P := fun labels => 2 ≤ labels.length ∧ ∀ label ∈ labels, LabelText label)]
  · simp [List.all_eq_true, isLabel_iff]
  · refine fun labels told => ⟨fun none => ?_, fun label inside dot => ?_⟩
    · simp [none] at told
    · exact absurd ((told.2 label inside).2.2 '.' dot) (by decide)

theorem isEmail_iff : isEmail cs = true ↔ MailText cs := by
  have cuts : isEmail cs = true ↔ ∃ localPart domain, cutAt? '@' cs = some (localPart, domain) ∧
      (parts (· == '.') localPart).all isAtom = true ∧
      2 ≤ (parts (· == '.') domain).length ∧ (parts (· == '.') domain).all isLabel = true := by
    unfold isEmail
    split
    · next none => simp [none]
    · next found => simp [found, and_assoc]
  rw [cuts]
  simp only [cutAt?_eq_some_iff, atoms_iff, labels_iff]
  constructor
  · rintro ⟨_, _, ⟨rfl, -⟩, ⟨atoms, ⟨some, own⟩, rfl⟩, labels, ⟨two, each⟩, rfl⟩
    exact ⟨atoms, labels, some, own, two, each, rfl⟩
  · rintro ⟨atoms, labels, some, own, two, each, rfl⟩
    refine ⟨_, _, ⟨rfl, fun inside => ?_⟩, ⟨atoms, ⟨some, own⟩, rfl⟩, labels, ⟨two, each⟩, rfl⟩
    obtain same | ⟨atom, here, inside⟩ := mem_intercalate inside
    · cases same
    · exact not_mem_atom (own atom here) (by decide) inside

theorem scheme_iff : (cs.head?.any isAsciiLetter && cs.all isSchemeChar) = true ↔
    SchemeText cs := by
  cases cs with
  | nil => simp [SchemeText]
  | cons letter more =>
    have own : letter.isAlpha = true → isSchemeChar letter = true := fun alpha =>
      isSchemeChar_iff.mpr (.inl (isAlphanum_iff.mpr (.inl alpha)))
    simp only [List.head?_cons, Option.any_some, isAsciiLetter_iff, Bool.and_eq_true,
      List.all_cons, SchemeText, List.cons.injEq, ← isSchemeChar_iff]
    constructor
    · rintro ⟨alpha, -, each⟩
      exact ⟨letter, more, ⟨rfl, rfl⟩, alpha, List.all_eq_true.mp each⟩
    · rintro ⟨_, _, ⟨rfl, rfl⟩, alpha, each⟩
      exact ⟨alpha, own alpha, List.all_eq_true.mpr each⟩

theorem isUri_iff : isUri cs = true ↔ ResourceText cs := by
  have cuts : isUri cs = true ↔ ∃ scheme rest, cutAt? ':' cs = some (scheme, rest) ∧
      SchemeText scheme ∧ rest ≠ [] ∧ ∀ c ∈ rest, Unicode.isWhiteSpace c = false := by
    unfold isUri
    split
    · next none => simp [none]
    · next found => simp [found, ← scheme_iff, and_assoc]
  rw [cuts]
  simp only [cutAt?_eq_some_iff]
  constructor
  · rintro ⟨scheme, rest, ⟨rfl, -⟩, named, some, black⟩
    exact ⟨scheme, rest, named, some, black, rfl⟩
  · rintro ⟨scheme, rest, named, some, black, rfl⟩
    refine ⟨scheme, rest, ⟨rfl, fun colon => ?_⟩, named, some, black⟩
    have each := (Bool.and_eq_true _ _ |>.mp (scheme_iff.mpr named)).2
    exact absurd (List.all_eq_true.mp each _ colon) (by decide)

end DataSchema.Text
