import DataSchema.Pattern.Parse
import DataSchema.Proofs.Dates

/-!
Reading of patterns round by round. Every round takes a character, an escape, a class, a group or an
operator off the text, and adds it to what has been read.
-/
namespace DataSchema.Pattern.Parser

open Text Unicode

variable {o fuel : Nat} {text taken digits rest : List Char} {names : List (String × Span)}
  {draft : Draft} {opened : Option Span} {term : Term} {count : Count} {after : Cursor}

/-! ## Counts -/

theorem collect_run {test : Char → Bool} (holds : ∀ c ∈ taken, test c = true)
    (ends : ∀ c ∈ rest.head?, test c = false) (enough : taken.length ≤ fuel) :
    (collect test fuel).run ⟨o, taken ++ rest, false, names⟩ =
      .ok (taken, ⟨o + taken.length, rest, false, names⟩) := by
  induction taken generalizing o fuel with
  | nil =>
    cases fuel with
    | zero => rfl
    | succ fuel =>
      cases rest with
      | nil => rfl
      | cons c rest =>
        have stop := ends c rfl
        simp [collect, next?, stop]
        rfl
  | cons c taken ih =>
    obtain ⟨fuel, rfl⟩ := Nat.exists_eq_add_one_of_ne_zero (Nat.ne_zero_of_lt enough)
    obtain ⟨here, holds⟩ := List.forall_mem_cons.mp holds
    have later := ih (o := o + 1) holds (Nat.le_of_succ_le_succ enough)
    simp [collect, next?, here, stepOver, step, skipSpace, later]
    omega

theorem collectAll_run {test : Char → Bool} (holds : ∀ c ∈ taken, test c = true)
    (ends : ∀ c ∈ rest.head?, test c = false) :
    (collectAll test).run ⟨o, taken ++ rest, false, names⟩ =
      .ok (taken, ⟨o + taken.length, rest, false, names⟩) :=
  collect_run holds ends (by simp)

theorem ok_bind {ε α β : Type} (a : α) (next : α → Except ε β) :
    (Except.ok a >>= next) = next a := rfl

/-- Digits of a number that is not too large. -/
structure CountText (digits : List Char) : Prop where
  filled : digits ≠ []
  decimal : ∀ c ∈ digits, isDecimal c = true
  small : ofDecimalDigits digits ≤ largestCount

theorem CountText.countDecimal_run (o : Nat) (names : List (String × Span))
    (text : CountText digits)
    (ends : ∀ c ∈ rest.head?, isDecimal c = false ∧ isWhiteSpace c = false) :
    countDecimal.run ⟨o, digits ++ rest, false, names⟩ =
      .ok (.ok (ofDecimalDigits digits), ⟨o + digits.length, rest, false, names⟩) := by
  have blank : (digits ++ rest).takeWhile isWhiteSpace = [] := by
    obtain ⟨c, more, rfl⟩ := List.exists_cons_of_ne_nil text.filled
    have black := isWhiteSpace_of_isDecimal (text.decimal c List.mem_cons_self)
    exact List.takeWhile_cons_of_neg (by simp [black])
  have own : (collectAll isDecimal).run ⟨o, digits ++ rest, false, names⟩ =
      .ok (digits, ⟨o + digits.length, rest, false, names⟩) :=
    collectAll_run text.decimal fun c head => (ends c head).1
  have none : (collectAll isWhiteSpace).run ⟨o + digits.length, rest, false, names⟩ =
      .ok ([], ⟨o + digits.length, rest, false, names⟩) :=
    collectAll_run (List.forall_mem_nil _) fun c head => (ends c head).2
  simp [countDecimal, offset, blank, own, none, text.filled, Nat.not_lt.mpr text.small, ok_bind]

/-- A number between braces asks for as many repetitions. -/
theorem CountText.countedRepetition_run (text : CountText digits)
    (greedy : rest.head? ≠ some '?') :
    countedRepetition.run ⟨o, '\x7b' :: (digits ++ '\x7d' :: rest), false, names⟩ =
      .ok (⟨ofDecimalDigits digits, some (ofDecimalDigits digits), true⟩,
        ⟨o + digits.length + 2, rest, false, names⟩) := by
  have ends : ∀ c ∈ ('\x7d' :: rest).head?, isDecimal c = false ∧ isWhiteSpace c = false := by
    rintro c ⟨⟩
    exact ⟨by decide, isWhiteSpace_of_visible (by decide) (by decide)⟩
  have bound := text.countDecimal_run (o + 1) names ends
  simp [countedRepetition, offset, stepOver, step, skipSpace, atEnd, countBounds, next?, bound,
    greedyMark, greedy, ok_bind]
  exact congrArg (fun offset => Except.ok (_, Cursor.mk offset rest false names)) (by omega)

/-! ## Rounds -/

theorem body_class (read : bracketedClass.run ⟨o, '[' :: rest, false, names⟩ = .ok (term, after)) :
    (body (fuel + 1) opened draft).run ⟨o, '[' :: rest, false, names⟩ =
      (body fuel opened (draft.add term)).run after :=
  congrArg (fun result => result >>= fun (p : Term × Cursor) =>
    (body fuel opened (draft.add p.1)).run p.2) read

theorem body_lineStart : (body (fuel + 1) opened draft).run ⟨o, '^' :: rest, false, names⟩ =
    (body fuel opened (draft.add (.assertion ⟨o, o + 1⟩ .lineStart))).run
      ⟨o + 1, rest, false, names⟩ :=
  rfl

/-- The parenthesis that closes a group is left to the round that opened it. -/
theorem body_close {span : Span} :
    (body (fuel + 1) (some span) draft).run ⟨o, ')' :: rest, false, names⟩ =
      .ok (draft.finish o, ⟨o, ')' :: rest, false, names⟩) :=
  rfl

/-! ## Repetitions -/

/-- Whether a term may be repeated. -/
def repeats : Term → Bool
  | .empty _ => false
  | .flags _ _ => false
  | _ => true

theorem repeatLast_add (draft : Draft) {operator : Parser Count} {cur : Cursor}
    (able : repeats term = true) (read : operator.run cur = .ok (count, after)) :
    ((draft.add term).repeatLast operator).run cur =
      .ok (draft.add (.repetition ⟨term.span.start, after.offset⟩ term count), after) := by
  have result : ((draft.add term).repeatLast operator).run cur =
      (operator.run cur >>= fun (p : Count × Cursor) =>
        .ok (draft.add (.repetition ⟨term.span.start, p.2.offset⟩ term p.1), p.2)) := by
    cases term <;> first | rfl | cases able
  rw [result, read, ok_bind]

/-- The bounds of a repetition by a single mark. -/
def markBounds? : Char → Option (Nat × Option Nat)
  | '?' => some (0, some 1)
  | '*' => some (0, none)
  | '+' => some (1, none)
  | _ => none

theorem body_marked (mark : Char) {least : Nat} {most : Option Nat}
    (bounds : markBounds? mark = some (least, most)) (able : repeats term = true)
    (greedy : rest.head? ≠ some '?') :
    (body (fuel + 1) opened (draft.add term)).run ⟨o, mark :: rest, false, names⟩ =
      (body fuel opened (draft.add
        (.repetition ⟨term.span.start, o + 1⟩ term ⟨least, most, true⟩))).run
        ⟨o + 1, rest, false, names⟩ := by
  have read : (oneMark least most).run ⟨o, mark :: rest, false, names⟩ =
      .ok (⟨least, most, true⟩, ⟨o + 1, rest, false, names⟩) := by
    simp [oneMark, step, greedyMark, next?, greedy]
    rfl
  have result := congrArg (fun result => result >>= fun (p : Draft × Cursor) =>
    (body fuel opened p.1).run p.2) (repeatLast_add draft able read)
  unfold markBounds? at bounds
  split at bounds <;> cases bounds <;> exact result

theorem CountText.body_counted (text : CountText digits) (able : repeats term = true)
    (greedy : rest.head? ≠ some '?') :
    (body (fuel + 1) opened (draft.add term)).run
        ⟨o, '\x7b' :: (digits ++ '\x7d' :: rest), false, names⟩ =
      (body fuel opened (draft.add (.repetition ⟨term.span.start, o + digits.length + 2⟩ term
        ⟨ofDecimalDigits digits, some (ofDecimalDigits digits), true⟩))).run
        ⟨o + digits.length + 2, rest, false, names⟩ :=
  congrArg (fun result => result >>= fun (p : Draft × Cursor) =>
    (body fuel opened p.1).run p.2)
    (repeatLast_add draft able (text.countedRepetition_run greedy))

/-! ## Groups -/

theorem skipText?_none {cur : Cursor} (other : ¬text <+: cur.rest) :
    (skipText? text).run cur = .ok (false, cur) := by
  simp [skipText?, other]
  rfl

theorem skipAnyText?_none {cur : Cursor} {marks : List (List Char)}
    (other : ∀ mark ∈ marks, ¬mark <+: cur.rest) :
    (skipAnyText? marks).run cur = .ok (false, cur) := by
  induction marks with
  | nil => rfl
  | cons mark marks ih =>
    obtain ⟨here, later⟩ := List.forall_mem_cons.mp other
    simp [skipAnyText?, skipText?_none here, ih later, ok_bind]

theorem not_prefix_mark {mark : List Char} (other : text.head? ≠ some '?') :
    ¬('?' :: mark) <+: text := by
  rintro ⟨after, rfl⟩
  exact other rfl

theorem opening_capture (other : text.head? ≠ some '?') :
    opening.run ⟨o, '(' :: text, false, names⟩ = .ok (.capture, ⟨o + 1, text, false, names⟩) := by
  have around : (skipAnyText? lookAroundMarks).run ⟨o + 1, text, false, names⟩ =
      .ok (false, ⟨o + 1, text, false, names⟩) :=
    skipAnyText?_none (by simp [lookAroundMarks, not_prefix_mark other])
  have named : (skipAnyText? [['?', 'P', '<'], ['?', '<']]).run ⟨o + 1, text, false, names⟩ =
      .ok (false, ⟨o + 1, text, false, names⟩) :=
    skipAnyText?_none (by simp [not_prefix_mark other])
  have flagged : (skipText? ['?']).run ⟨o + 1, text, false, names⟩ =
      .ok (false, ⟨o + 1, text, false, names⟩) :=
    skipText?_none (not_prefix_mark other)
  simp [opening, offset, stepOver, step, skipSpace, around, named, flagged, ok_bind]
  rfl

/-- A group without marks of its own captures what is read up to its closing parenthesis. -/
theorem body_group {inner : Term} {stop : Nat} {known : List (String × Span)}
    (other : text.head? ≠ some '?')
    (read : (body fuel (some ⟨o, o + 1⟩) ⟨o + 1, [], o + 1, []⟩).run ⟨o + 1, text, false, names⟩ =
      .ok (inner, ⟨stop, ')' :: rest, false, known⟩)) :
    (body (fuel + 1) opened draft).run ⟨o, '(' :: text, false, names⟩ =
      (body fuel opened (draft.add (.capture ⟨o, stop + 1⟩ inner))).run
        ⟨stop + 1, rest, false, known⟩ := by
  simp [body, opening_capture other, skipSpace, next?, offset, ok_bind, read, setIgnoreSpace, step]

end DataSchema.Pattern.Parser
