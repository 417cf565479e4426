import DataSchema.Proofs.Patterns.Identifiers
import DataSchema.Proofs.Patterns.Reading
import DataSchema.Proofs.Patterns.Size

/-!
The formats that patterns describe. The source of each pattern is read, and what it is found in are
the texts that the format accepts, which are those of its grammar.
-/
namespace DataSchema.Pattern

open Text

/-! ## Terms -/

/-- Items of a class in their places: a range takes three characters, and a single one takes one. -/
def classItems : Nat → List (Char × Char) → List ClassTerm
  | _, [] => []
  | place, (first, last) :: rest =>
    if first = last then .literal ⟨⟨place, place + 1⟩, first, false⟩ :: classItems (place + 1) rest
    else
      .range ⟨place, place + 3⟩ ⟨⟨place, place + 1⟩, first, false⟩
          ⟨⟨place + 2, place + 3⟩, last, false⟩ ::
        classItems (place + 3) rest

def classTerm (start stop : Nat) (ranges : List (Char × Char)) : Term :=
  .bracketed ⟨start, stop⟩ false (.union ⟨start + 1, stop - 1⟩ (classItems (start + 1) ranges))

def charTerm (start : Nat) (c : Char) : Term := .literal ⟨⟨start, start + 1⟩, c, false⟩

def dotTerm (start : Nat) : Term := .literal ⟨⟨start, start + 2⟩, '.', false⟩

def groupTerm (start stop : Nat) (terms : List Term) (count : Count) : Term :=
  .repetition ⟨start, stop + 1⟩
    (.capture ⟨start, stop⟩ (.concat ⟨start + 1, stop - 1⟩ terms)) count

/-- Terms between the beginning and the end of a text. -/
def anchoredTerm (length : Nat) (terms : List Term) : Term :=
  .concat ⟨0, length⟩
    (.assertion ⟨0, 1⟩ .lineStart :: (terms ++ [.assertion ⟨length - 1, length⟩ .lineEnd]))

def anchored (parts : List Regex) : Regex :=
  .concat (.look .textStart :: (parts ++ [.look .textEnd]))

/-- A source whose text is read in rounds up to its end is spelt by the term that is read. -/
theorem parse_of_body {source : String} {term : Term} {after : Cursor} {length : Nat}
    (whole : source.toList.length = length)
    (read : (Parser.body (length + 1) none ⟨0, [], 0, []⟩).run ⟨0, source.toList, false, []⟩ =
      .ok (term, after))
    (shallow : term.tooDeep? 0 = none) : parse source = .ok term := by
  simp only [parse, whole]
  simp [read, shallow, Parser.ok_bind]
  rfl

theorem resolveAll_of_forall₂ {flags : Flags} {terms : List Term} {regexes : List Regex}
    (each : List.Forall₂ (fun term regex => resolve flags term = .ok (regex, flags))
      terms regexes) : resolveAll flags terms = .ok (regexes, flags) := by
  induction each with
  | nil => rfl
  | cons here _ ih => simp [resolveAll, here, ih, Parser.ok_bind]

/-- Parts between the beginning and the end of a text are resolved one by one, if no two of them can
be joined. -/
theorem resolve_anchoredTerm {length : Nat} {terms : List Term} {parts : List Regex}
    (each : List.Forall₂ (fun term regex => resolve {} term = .ok (regex, {})) terms parts)
    (apart : .ofParts (.look .textStart :: (parts ++ [.look .textEnd])) = anchored parts) :
    resolve {} (anchoredTerm length terms) = .ok (anchored parts, {}) := by
  have all : resolveAll {} (.assertion ⟨0, 1⟩ .lineStart ::
      (terms ++ [.assertion ⟨length - 1, length⟩ .lineEnd])) =
      .ok (.look .textStart :: (parts ++ [.look .textEnd]), {}) :=
    resolveAll_of_forall₂ (.cons rfl (List.rel_append each (.cons rfl .nil)))
  simp only [anchoredTerm, resolve, all, Parser.ok_bind, ← apart]

/-- A source that is read and resolved compiles if no machine of it can be too large. -/
theorem compile_of_resolve {source : String} {term : Term} {regex : Regex}
    (parsed : parse source = .ok term) (resolved : resolve {} term = .ok (regex, {}))
    (fits : ∀ backward, (regex.wholeFragment backward).cost ≤ sizeLimit) :
    compile source = .ok ⟨source, regex⟩ := by
  simp [compile, parsed, resolved, Regex.exceedsLimit_eq_false fits, bind, Except.bind,
    Except.mapError]

/-! ## Universally unique identifiers -/

def uuidSource : String :=
  "^[0-9a-fA-F]{8}-[0-9a-fA-F]{4}-[0-9a-fA-F]{4}-[0-9a-fA-F]{4}-[0-9a-fA-F]{12}$"

def hexClass (start : Nat) : Term :=
  classTerm start (start + 11) [('0', '9'), ('a', 'f'), ('A', 'F')]

def hexTerm (start stop count : Nat) : Term :=
  .repetition ⟨start, stop⟩ (hexClass start) ⟨count, some count, true⟩

def uuidTerm : Term :=
  anchoredTerm 77
    [hexTerm 1 15 8, charTerm 15 '-', hexTerm 16 30 4, charTerm 30 '-', hexTerm 31 45 4,
      charTerm 45 '-', hexTerm 46 60 4, charTerm 60 '-', hexTerm 61 76 12]

namespace Parser

variable {o fuel : Nat} {digits rest : List Char} {names : List (String × Span)} {draft : Draft}
  {opened : Option Span}

def hexText : List Char := ['0', '-', '9', 'a', '-', 'f', 'A', '-', 'F', ']']

/-- A class of digits and the number of them. -/
def groupText (digits rest : List Char) : List Char :=
  '[' :: (hexText ++ '\x7b' :: (digits ++ '\x7d' :: rest))

theorem bracketedClass_hexText : bracketedClass.run ⟨o, '[' :: (hexText ++ rest), false, names⟩ =
    .ok (hexClass o, ⟨o + 11, rest, false, names⟩) := by
  cbv

theorem body_hexTerm (text : CountText digits) (greedy : rest.head? ≠ some '?') :
    (body (fuel + 2) opened draft).run ⟨o, groupText digits rest, false, names⟩ =
      (body fuel opened (draft.add
        (hexTerm o (o + 11 + digits.length + 2) (ofDecimalDigits digits)))).run
        ⟨o + 11 + digits.length + 2, rest, false, names⟩ :=
  (body_class bracketedClass_hexText).trans (text.body_counted rfl greedy)

theorem body_at : (body (fuel + 1) opened draft).run ⟨o, '@' :: rest, false, names⟩ =
    (body fuel opened (draft.add (charTerm o '@'))).run ⟨o + 1, rest, false, names⟩ :=
  rfl

theorem body_hyphen : (body (fuel + 1) opened draft).run ⟨o, '-' :: rest, false, names⟩ =
    (body fuel opened (draft.add (charTerm o '-'))).run ⟨o + 1, rest, false, names⟩ :=
  rfl

theorem countText_four : CountText ['4'] := ⟨by decide, by simp [isDecimal], by decide +kernel⟩

theorem countText_eight : CountText ['8'] := ⟨by decide, by simp [isDecimal], by decide +kernel⟩

theorem countText_twelve : CountText ['1', '2'] :=
  ⟨by decide, by simp [isDecimal], by decide +kernel⟩

theorem uuidSource_toList : uuidSource.toList =
    '^' :: groupText ['8'] ('-' :: groupText ['4'] ('-' :: groupText ['4'] ('-' ::
      groupText ['4'] ('-' :: groupText ['1', '2'] ['$'])))) := by
  rw [uuidSource, String.toList_ofList]
  rfl

/-- White space counts around numbers only, and its table is long: so the numbers are not read by
computation. -/
theorem body_uuid :
    (body 78 none ⟨0, [], 0, []⟩).run ⟨0, uuidSource.toList, false, []⟩ =
      .ok (uuidTerm, ⟨77, [], false, []⟩) := by
  rw [uuidSource_toList, body_lineStart, body_hexTerm countText_eight, body_hyphen,
    body_hexTerm countText_four, body_hyphen, body_hexTerm countText_four, body_hyphen,
    body_hexTerm countText_four, body_hyphen, body_hexTerm countText_twelve]
  · rfl
  all_goals decide

end Parser

theorem parse_uuid : parse uuidSource = .ok uuidTerm :=
  parse_of_body (by rw [Parser.uuidSource_toList]; rfl) Parser.body_uuid (by rfl)

theorem resolve_uuid :
    resolve {} uuidTerm = .ok (anchored (hexGroups [8, 4, 4, 4, 12]), {}) := by
  cbv

/-! ## Mail addresses -/

def localSource : String :=
  "^[A-Za-z0-9!#$%&'*+/=?^_`{|}~-]+(\\.[A-Za-z0-9!#$%&'*+/=?^_`{|}~-]+)*"

def domainSource : String :=
  "@[A-Za-z0-9]([A-Za-z0-9-]*[A-Za-z0-9])?(\\.[A-Za-z0-9]([A-Za-z0-9-]*[A-Za-z0-9])?)+$"

def mailSource : String := localSource ++ domainSource

def alphanumericRanges : List (Char × Char) := [('A', 'Z'), ('a', 'z'), ('0', '9')]

def alphanumericClass (start : Nat) : Term := classTerm start (start + 11) alphanumericRanges

def labelClass (start : Nat) : Term :=
  classTerm start (start + 12) (alphanumericRanges ++ [('-', '-')])

def atomClass (start : Nat) : Term :=
  classTerm start (start + 30) (alphanumericRanges ++ atomMarks.map fun c => (c, c))

def atomTerm (start : Nat) : Term :=
  .repetition ⟨start, start + 31⟩ (atomClass start) ⟨1, none, true⟩

def labelRestTerm (start : Nat) : Term :=
  groupTerm start (start + 26)
    [.repetition ⟨start + 1, start + 14⟩ (labelClass (start + 1)) ⟨0, none, true⟩,
      alphanumericClass (start + 14)]
    ⟨0, some 1, true⟩

def mailTerm : Term :=
  anchoredTerm 151
    [atomTerm 1, groupTerm 32 67 [dotTerm 33, atomTerm 35] ⟨0, none, true⟩, charTerm 68 '@',
      alphanumericClass 69, labelRestTerm 80,
      groupTerm 107 149 [dotTerm 108, alphanumericClass 110, labelRestTerm 121] ⟨1, none, true⟩]

namespace Parser

def rangesText : List Char := ['A', '-', 'Z', 'a', '-', 'z', '0', '-', '9']

def alphanumericText : List Char := rangesText ++ [']']

def labelText : List Char := rangesText ++ ['-', ']']

def atomText : List Char := rangesText ++ atomMarks ++ [']']

theorem bracketedClass_alphanumericText :
    bracketedClass.run ⟨o, '[' :: (alphanumericText ++ rest), false, names⟩ =
      .ok (alphanumericClass o, ⟨o + 11, rest, false, names⟩) := by
  cbv

theorem bracketedClass_labelText :
    bracketedClass.run ⟨o, '[' :: (labelText ++ rest), false, names⟩ =
      .ok (labelClass o, ⟨o + 12, rest, false, names⟩) := by
  cbv

set_option maxRecDepth 2000 in
theorem bracketedClass_atomText :
    bracketedClass.run ⟨o, '[' :: (atomText ++ rest), false, names⟩ =
      .ok (atomClass o, ⟨o + 30, rest, false, names⟩) := by
  cbv

theorem body_dot : (body (fuel + 1) opened draft).run ⟨o, '\\' :: '.' :: rest, false, names⟩ =
    (body fuel opened (draft.add (dotTerm o))).run ⟨o + 2, rest, false, names⟩ :=
  rfl

theorem body_atomTerm (greedy : rest.head? ≠ some '?') :
    (body (fuel + 2) opened draft).run ⟨o, '[' :: (atomText ++ '+' :: rest), false, names⟩ =
      (body fuel opened (draft.add (atomTerm o))).run ⟨o + 31, rest, false, names⟩ :=
  (body_class bracketedClass_atomText).trans (body_marked '+' rfl rfl greedy)

/-- What may follow the first character of a label. -/
def labelRestText (rest : List Char) : List Char :=
  '(' :: '[' :: (labelText ++ '*' :: '[' :: (alphanumericText ++ ')' :: '?' :: rest))

theorem body_labelRestTerm (greedy : rest.head? ≠ some '?') :
    (body (fuel + 6) opened draft).run ⟨o, labelRestText rest, false, names⟩ =
      (body (fuel + 4) opened (draft.add (labelRestTerm o))).run ⟨o + 27, rest, false, names⟩ := by
  have inner : (body (fuel + 5) (some ⟨o, o + 1⟩) ⟨o + 1, [], o + 1, []⟩).run
      ⟨o + 1, '[' :: (labelText ++ '*' :: '[' :: (alphanumericText ++ ')' :: '?' :: rest)), false,
        names⟩ =
      .ok (.concat ⟨o + 1, o + 25⟩
        [.repetition ⟨o + 1, o + 14⟩ (labelClass (o + 1)) ⟨0, none, true⟩,
          alphanumericClass (o + 14)],
        ⟨o + 25, ')' :: '?' :: rest, false, names⟩) := by
    rw [body_class bracketedClass_labelText, body_marked '*' rfl rfl (by simp),
      body_class bracketedClass_alphanumericText, body_close]
    rfl
  exact (body_group (by simp) inner).trans (body_marked '?' rfl rfl greedy)

theorem body_dottedAtoms (greedy : rest.head? ≠ some '?') :
    (body (fuel + 6) opened draft).run
        ⟨o, '(' :: '\\' :: '.' :: '[' :: (atomText ++ '+' :: ')' :: '*' :: rest), false, names⟩ =
      (body (fuel + 4) opened (draft.add
        (groupTerm o (o + 35) [dotTerm (o + 1), atomTerm (o + 3)] ⟨0, none, true⟩))).run
        ⟨o + 36, rest, false, names⟩ := by
  have inner : (body (fuel + 5) (some ⟨o, o + 1⟩) ⟨o + 1, [], o + 1, []⟩).run
      ⟨o + 1, '\\' :: '.' :: '[' :: (atomText ++ '+' :: ')' :: '*' :: rest), false, names⟩ =
      .ok (.concat ⟨o + 1, o + 34⟩ [dotTerm (o + 1), atomTerm (o + 3)],
        ⟨o + 34, ')' :: '*' :: rest, false, names⟩) := by
    rw [body_dot, body_atomTerm (by simp), body_close]
    rfl
  exact (body_group (by simp) inner).trans (body_marked '*' rfl rfl greedy)

theorem body_dottedLabels (greedy : rest.head? ≠ some '?') :
    (body (fuel + 10) opened draft).run
        ⟨o, '(' :: '\\' :: '.' :: '[' :: (alphanumericText ++ labelRestText (')' :: '+' :: rest)),
          false, names⟩ =
      (body (fuel + 8) opened (draft.add (groupTerm o (o + 42)
        [dotTerm (o + 1), alphanumericClass (o + 3), labelRestTerm (o + 14)] ⟨1, none, true⟩))).run
        ⟨o + 43, rest, false, names⟩ := by
  have inner : (body (fuel + 9) (some ⟨o, o + 1⟩) ⟨o + 1, [], o + 1, []⟩).run
      ⟨o + 1, '\\' :: '.' :: '[' :: (alphanumericText ++ labelRestText (')' :: '+' :: rest)), false,
        names⟩ =
      .ok (.concat ⟨o + 1, o + 41⟩
        [dotTerm (o + 1), alphanumericClass (o + 3), labelRestTerm (o + 14)],
        ⟨o + 41, ')' :: '+' :: rest, false, names⟩) := by
    rw [body_dot, body_class bracketedClass_alphanumericText, body_labelRestTerm (by simp),
      body_close]
    rfl
  exact (body_group (by simp) inner).trans (body_marked '+' rfl rfl greedy)

theorem localSource_toList : localSource.toList =
    '^' :: '[' :: (atomText ++ '+' :: '(' :: '\\' :: '.' :: '[' ::
      (atomText ++ '+' :: ')' :: ['*'])) := by
  rw [localSource, String.toList_ofList]
  rfl

theorem domainSource_toList : domainSource.toList =
    '@' :: '[' :: (alphanumericText ++ labelRestText ('(' :: '\\' :: '.' :: '[' ::
      (alphanumericText ++ labelRestText [')', '+', '$']))) := by
  rw [domainSource, String.toList_ofList]
  rfl

theorem mailSource_toList : mailSource.toList =
    '^' :: '[' :: (atomText ++ '+' :: '(' :: '\\' :: '.' :: '[' :: (atomText ++ '+' :: ')' :: '*' ::
      '@' :: '[' :: (alphanumericText ++ labelRestText ('(' :: '\\' :: '.' :: '[' ::
        (alphanumericText ++ labelRestText [')', '+', '$']))))) := by
  rw [mailSource, String.toList_append, localSource_toList, domainSource_toList]
  rfl

theorem body_mail :
    (body 152 none ⟨0, [], 0, []⟩).run ⟨0, mailSource.toList, false, []⟩ =
      .ok (mailTerm, ⟨151, [], false, []⟩) := by
  rw [mailSource_toList, body_lineStart, body_atomTerm (by simp), body_dottedAtoms (by simp),
    body_at, body_class bracketedClass_alphanumericText, body_labelRestTerm (by simp),
    body_dottedLabels (by simp)]
  rfl

end Parser

theorem parse_mail : parse mailSource = .ok mailTerm :=
  parse_of_body (by rw [Parser.mailSource_toList]; rfl) Parser.body_mail (by rfl)

theorem resolve_mail : resolve {} mailTerm = .ok (anchored mailParts, {}) := by
  cbv

/-! ## Resource identifiers -/

def resourceSource : String := "^[A-Za-z][A-Za-z0-9+.\\-]*:[^\\s]+$"

def letterClass (start : Nat) : Term := classTerm start (start + 8) [('A', 'Z'), ('a', 'z')]

/-- The hyphen is written with a backslash. -/
def schemeClass (start : Nat) : Term :=
  .bracketed ⟨start, start + 15⟩ false (.union ⟨start + 1, start + 14⟩
    (classItems (start + 1) (alphanumericRanges ++ [('+', '+'), ('.', '.')]) ++
      [.literal ⟨⟨start + 12, start + 14⟩, '-', false⟩]))

def visibleClass (start : Nat) : Term :=
  .bracketed ⟨start, start + 5⟩ true (.perl ⟨start + 2, start + 4⟩ false .space)

def resourceTerm : Term :=
  anchoredTerm 33
    [letterClass 1, .repetition ⟨9, 25⟩ (schemeClass 9) ⟨0, none, true⟩, charTerm 25 ':',
      .repetition ⟨26, 32⟩ (visibleClass 26) ⟨1, none, true⟩]

theorem parse_resource : parse resourceSource = .ok resourceTerm := by
  rfl

theorem resolve_visibleClass (start : Nat) :
    resolve {} (visibleClass start) = .ok (.set false visible, {}) := by
  have complement : Unicode.whiteSpace.complement = visible := by
    rw [whiteSpace_eq]
    rfl
  have inner : resolveClass {} (.perl ⟨start + 2, start + 4⟩ false .space) =
      .ok Unicode.whiteSpace :=
    rfl
  have negated : ({} : Flags).foldNegate ⟨start, start + 5⟩ true Unicode.whiteSpace =
      .ok visible := by
    rw [← complement]
    rfl
  simp only [visibleClass, resolve, inner, bind, Except.bind, negated]
  rfl

theorem resolve_resource : resolve {} resourceTerm = .ok (anchored resourceParts, {}) := by
  have last : resolve {} (.repetition ⟨26, 32⟩ (visibleClass 26) ⟨1, none, true⟩) =
      .ok (.repetition (.set false visible) ⟨1, none, true⟩, {}) := by
    simp only [resolve, resolve_visibleClass, bind, Except.bind]
    rfl
  exact resolve_anchoredTerm
    (.cons (by cbv) (.cons (by cbv) (.cons (by cbv) (.cons last .nil)))) (by rfl)

/-! ## Compilation -/

/-- A pattern for whole texts is found in the texts that its parts match. -/
theorem compiles_and_finds {source : String} {term : Term} {parts : List Regex}
    {P : List Char → Prop} (parsed : parse source = .ok term)
    (resolved : resolve {} term = .ok (anchored parts, {}))
    (fits : ∀ backward, ((anchored parts).wholeFragment backward).cost ≤ sizeLimit)
    (reads : Reads (Regex.AllMatch parts) (texts P)) {accepts : String → Bool}
    (accepts_iff : ∀ s, accepts s = true ↔ P s.toList) :
    ∃ pattern, compile source = .ok pattern ∧ ∀ s, pattern.foundIn s = accepts s :=
  ⟨⟨source, anchored parts⟩, compile_of_resolve parsed resolved fits, fun s =>
    Bool.eq_iff_iff.mpr ((foundIn_anchored reads s.toList).trans (accepts_iff s).symm)⟩

end DataSchema.Pattern

namespace DataSchema.TextFormat

open Pattern Text

/-- Three formats accept the texts of their grammars, and no others. In the same texts the patterns
of these formats are found. -/
theorem accepted_identifiers :
    (∀ s, uuid.accepts s = true ↔ UuidText s.toList) ∧
      (∀ s, email.accepts s = true ↔ MailText s.toList) ∧
      (∀ s, uri.accepts s = true ↔ ResourceText s.toList) ∧
      (∃ pattern, compile uuidSource = .ok pattern ∧
        ∀ s, pattern.foundIn s = uuid.accepts s) ∧
      (∃ pattern, compile mailSource = .ok pattern ∧
        ∀ s, pattern.foundIn s = email.accepts s) ∧
      ∃ pattern, compile resourceSource = .ok pattern ∧
        ∀ s, pattern.foundIn s = uri.accepts s := by
  have uuids : ∀ s, uuid.accepts s = true ↔ UuidText s.toList := fun _ => isUuid_iff
  have emails : ∀ s, email.accepts s = true ↔ MailText s.toList := fun _ => isEmail_iff
  have uris : ∀ s, uri.accepts s = true ↔ ResourceText s.toList := fun _ => isUri_iff
  exact ⟨uuids, emails, uris,
    compiles_and_finds parse_uuid resolve_uuid (by decide +kernel)
      (reads_hexGroups 8 [4, 4, 4, 12]) uuids,
    compiles_and_finds parse_mail resolve_mail (by decide +kernel) reads_mail emails,
    compiles_and_finds parse_resource resolve_resource (by decide +kernel) reads_resource uris⟩

/-- A line feed at the end counts as a character. -/
example : email.accepts "a@b.c\n" = false ∧ email.accepts "a@b.c" = true := by decide +kernel

end DataSchema.TextFormat
