import DataSchema.Pattern.Basic
import DataSchema.Proofs.Patterns.PlaceSets

/-!
What patterns match. A match stands between what comes before it and what comes after it, and a
pattern is found in a text if some cut of the text has a match in the middle.
-/
namespace DataSchema.Pattern

/-- Texts between others: what stands before, the text itself, and what stands after. -/
abbrev Between := List Char → List Char → List Char → Prop

namespace Between

/-- One right after the other. -/
def next (R S : Between) : Between := fun before text after =>
  ∃ own rest, text = own ++ rest ∧ R before own (rest ++ after) ∧ S (before ++ own) rest after

def nothing : Between := fun _ text _ => text = []

def times (R : Between) : Nat → Between
  | 0 => nothing
  | n + 1 => R.next (R.times n)

end Between

mutual

/-- The matches of a regular expression. -/
def Regex.Matches : Regex → Between
  | .empty => .nothing
  | .literal chars => fun _ text _ => text = chars
  | .set _ s => fun _ text _ => ∃ c, text = [c] ∧ s.holds c = true
  | .look l => fun before text after => text = [] ∧ l.holds before.getLast? after.head? = true
  | .concat parts => Regex.AllMatch parts
  | .alternation branches => Regex.AnyMatches branches
  | .repetition body count => fun before text after =>
    ∃ n, count.Allows n ∧ body.Matches.times n before text after
  | .capture body => body.Matches

def Regex.AllMatch : List Regex → Between
  | [] => .nothing
  | part :: rest => part.Matches.next (Regex.AllMatch rest)

def Regex.AnyMatches : List Regex → Between
  | [] => fun _ _ _ => False
  | branch :: rest => fun before text after =>
    branch.Matches before text after ∨ Regex.AnyMatches rest before text after

end

/-! ## Places -/

variable {text : List Char} {R S : Between} {i j : Nat}

/-- There is such a text from one place to another. -/
def Spans (text : List Char) (R : Between) (i j : Nat) : Prop :=
  ∃ before own after, text = before ++ own ++ after ∧ before.length = i ∧
    (before ++ own).length = j ∧ R before own after

theorem Spans.le (spans : Spans text R i j) : j ≤ text.length := by
  obtain ⟨before, own, after, rfl, rfl, rfl, -⟩ := spans
  simp

theorem spans_congr (same : ∀ before own after, R before own after ↔ S before own after) :
    Spans text R i j ↔ Spans text S i j := by
  simp only [Spans, same]

theorem spans_nothing : Spans text .nothing i j ↔ i = j ∧ i ≤ text.length := by
  constructor
  · rintro ⟨before, own, after, rfl, rfl, rfl, rfl⟩
    simp
  · rintro ⟨rfl, inside⟩
    refine ⟨text.take i, [], text.drop i, ?_, ?_, ?_, rfl⟩ <;> simp [inside]

theorem spans_next : Spans text (R.next S) i j ↔ ∃ k, Spans text R i k ∧ Spans text S k j := by
  constructor
  · rintro ⟨before, -, after, rfl, rfl, rfl, own, rest, rfl, first, second⟩
    exact ⟨(before ++ own).length, ⟨before, own, rest ++ after, by simp, rfl, rfl, first⟩,
      before ++ own, rest, after, by simp, rfl, by simp, second⟩
  · rintro ⟨k, ⟨before, own, others, rfl, rfl, rfl, first⟩,
      before', rest, after, eq, same, rfl, second⟩
    rw [List.append_assoc before'] at eq
    obtain ⟨rfl, rfl⟩ := List.append_inj eq same.symm
    exact ⟨before, own ++ rest, after, by simp, rfl, by simp, own, rest, rfl, first, second⟩

theorem spans_or :
    Spans text (fun before own after => R before own after ∨ S before own after) i j ↔
      Spans text R i j ∨ Spans text S i j := by
  simp only [Spans, and_or_left, exists_or]

theorem spans_exists {p : Nat → Prop} {T : Nat → Between} :
    Spans text (fun before own after => ∃ n, p n ∧ T n before own after) i j ↔
      ∃ n, p n ∧ Spans text (T n) i j := by
  constructor
  · rintro ⟨before, own, after, eq, start, stop, n, holds, matched⟩
    exact ⟨n, holds, before, own, after, eq, start, stop, matched⟩
  · rintro ⟨n, holds, before, own, after, eq, start, stop, matched⟩
    exact ⟨before, own, after, eq, start, stop, n, holds, matched⟩

theorem spans_times {n : Nat} (inside : i ≤ text.length) :
    Spans text (R.times n) i j ↔ Steps (Spans text R) n i j := by
  induction n generalizing i with
  | zero => exact spans_nothing.trans (and_iff_left inside)
  | succ n ih =>
    refine spans_next.trans (exists_congr fun k => and_congr_right fun first => ?_)
    exact ih first.le

theorem spans_char {p : Char → Bool} :
    Spans text (fun _ own _ => ∃ c, own = [c] ∧ p c = true) i j ↔
      j = i + 1 ∧ ∃ before after, text = before ++ after ∧ before.length = i ∧
        after.head?.any p = true := by
  constructor
  · rintro ⟨before, -, after, rfl, rfl, rfl, c, rfl, holds⟩
    exact ⟨by simp, before, c :: after, by simp, rfl, holds⟩
  · rintro ⟨rfl, before, after, rfl, rfl, holds⟩
    cases after with
    | nil => cases holds
    | cons c after => exact ⟨before, [c], after, by simp, rfl, by simp, c, rfl, holds⟩

theorem testBit_place {place : Nat} {b : Bool} :
    (if b then Nat.pow 2 place else 0).testBit i = true ↔ place = i ∧ b = true := by
  cases b <;> simp [Nat.testBit_two_pow]

/-- The bit of a place is whether the test holds of the characters around it. -/
theorem testBit_bitsFrom {test : Option Char → Option Char → Bool} {place : Nat}
    {before : Option Char} :
    (bitsFrom test place before text).testBit i = true ↔
      ∃ seen rest, text = seen ++ rest ∧ place + seen.length = i ∧
        test (seen.getLast?.or before) rest.head? = true := by
  induction text generalizing place before with
  | nil =>
    rw [bitsFrom, testBit_place]
    constructor
    · rintro ⟨rfl, holds⟩
      exact ⟨[], [], rfl, rfl, holds⟩
    · rintro ⟨seen, rest, eq, rfl, holds⟩
      obtain ⟨rfl, rfl⟩ := List.append_eq_nil_iff.mp eq.symm
      exact ⟨rfl, holds⟩
  | cons c text ih =>
    rw [bitsFrom, Nat.testBit_or, Bool.or_eq_true, testBit_place, ih]
    constructor
    · rintro (⟨rfl, holds⟩ | ⟨seen, rest, rfl, rfl, holds⟩)
      · exact ⟨[], c :: text, rfl, rfl, holds⟩
      · refine ⟨c :: seen, rest, rfl, by simp; omega, ?_⟩
        rw [List.getLast?_cons]
        cases last : seen.getLast? <;> simpa [last] using holds
    · rintro ⟨seen, rest, eq, rfl, holds⟩
      cases seen with
      | nil =>
        subst eq
        exact .inl ⟨rfl, holds⟩
      | cons own seen =>
        obtain ⟨rfl, rfl⟩ := List.cons_eq_cons.mp eq
        refine .inr ⟨seen, rest, rfl, by simp; omega, ?_⟩
        rw [List.getLast?_cons] at holds
        cases last : seen.getLast? <;> simpa [last] using holds

theorem testBit_placesWhere {test : Option Char → Option Char → Bool} :
    (placesWhere text test).testBit i = true ↔ ∃ before after, text = before ++ after ∧
      before.length = i ∧ test before.getLast? after.head? = true := by
  simp [placesWhere, testBit_bitsFrom]

/-! ## Moves -/

/-- The map of sets of places that moves through a text are. -/
def Tells (text : List Char) (moves : Moves) (R : Between) : Prop :=
  Realizes (text.length + 1) (moves.ends (text.length + 1)) (Spans text R)

theorem realizes_nothing : Realizes (text.length + 1) id (Spans text .nothing) where
  within _ _ _ spans := Nat.lt_succ_of_le spans.le
  told places bound j := by
    simp only [id, spans_nothing]
    constructor
    · exact fun here => ⟨j, here, rfl, Nat.le_of_lt_succ (lt_of_testBit bound here)⟩
    · rintro ⟨_, here, rfl, -⟩
      exact here

theorem tells_advance (p : Char → Bool) :
    Tells text (.advance (placesWhere text fun _ after => after.any p))
      (fun _ own _ => ∃ c, own = [c] ∧ p c = true) where
  within _ _ _ spans := Nat.lt_succ_of_le spans.le
  told places bound j := by
    simp only [Moves.ends, spans_char, Nat.testBit_shiftLeft, Nat.testBit_and, Bool.and_eq_true,
      decide_eq_true_eq, testBit_placesWhere]
    constructor
    · rintro ⟨later, here, cut⟩
      exact ⟨j - 1, here, (Nat.sub_add_cancel later).symm, cut⟩
    · rintro ⟨i, here, rfl, cut⟩
      exact ⟨Nat.le_add_left 1 i, here, cut⟩

theorem tells_keep (l : Look) : Tells text (.keep (placesWhere text l.holds)) (Regex.look l).Matches
    where
  within _ _ _ spans := Nat.lt_succ_of_le spans.le
  told places bound j := by
    simp only [Moves.ends, Nat.testBit_and, Bool.and_eq_true, testBit_placesWhere]
    constructor
    · rintro ⟨here, before, after, rfl, rfl, holds⟩
      exact ⟨_, here, before, [], after, by simp, rfl, by simp, rfl, holds⟩
    · rintro ⟨i, here, before, -, after, rfl, rfl, rfl, rfl, holds⟩
      rw [List.append_nil]
      exact ⟨here, before, after, rfl, rfl, holds⟩

theorem tells_literal (chars : List Char) :
    Tells text ((Regex.literal chars).over text) (Regex.literal chars).Matches := by
  induction chars with
  | nil =>
    exact realizes_nothing.congr fun _ _ _ => Iff.rfl
  | cons c chars ih =>
    have test : (fun _ after => after == some c : Option Char → Option Char → Bool) =
        fun _ after => after.any (· == c) := by
      funext _ after
      cases after <;> rfl
    have own : Tells text (.advance (placesWhere text fun _ after => after == some c)) _ :=
      test ▸ tells_advance (· == c)
    refine (own.comp ih).congr fun i j _ => ?_
    refine spans_next.symm.trans (spans_congr fun before text after => ?_)
    simp [Between.next, Regex.Matches]

mutual

/-- The map of places is that of the matches. -/
theorem tells_over (text : List Char) : ∀ regex : Regex, Tells text (regex.over text) regex.Matches
  | .empty => realizes_nothing
  | .literal chars => tells_literal chars
  | .set _ s => tells_advance s.holds
  | .look l => tells_keep l
  | .concat parts => tells_all text parts
  | .alternation branches => tells_any text branches
  | .repetition body count => by
    refine (realizes_repetition (tells_over text body) count).congr fun i j inside => ?_
    simp only [← spans_times (Nat.le_of_lt_succ inside)]
    exact spans_exists.symm
  | .capture body => tells_over text body

theorem tells_all (text : List Char) : ∀ parts : List Regex,
    Tells text (.concat (Regex.allOver text parts)) (Regex.AllMatch parts)
  | [] => realizes_nothing
  | part :: rest =>
    ((tells_over text part).comp (tells_all text rest)).congr fun _ _ _ => spans_next.symm

theorem tells_any (text : List Char) : ∀ branches : List Regex,
    Tells text (.alternation (Regex.allOver text branches)) (Regex.AnyMatches branches)
  | [] =>
    { within := fun _ _ _ ⟨_, _, _, _, _, _, matched⟩ => matched.elim
      told := fun places _ j => by
        constructor
        · intro here
          simp [Regex.allOver, Moves.ends, Moves.endsOfAny] at here
        · rintro ⟨_, _, _, _, _, _, _, _, matched⟩
          exact matched.elim }
  | branch :: rest =>
    ((tells_over text branch).union (tells_any text rest)).congr fun _ _ _ => spans_or.symm

end

/-- A regular expression is found in a text exactly if some part of the text is a match. -/
theorem Regex.foundIn_iff (regex : Regex) : regex.foundIn text = true ↔
    ∃ before own after, text = before ++ own ++ after ∧ regex.Matches before own after := by
  have tells := tells_over text regex
  have bound : 2 ^ (text.length + 1) - 1 < 2 ^ (text.length + 1) :=
    Nat.sub_one_lt (Nat.two_pow_pos _).ne'
  rw [Regex.foundIn, bne_iff_ne, Nat.pow_eq]
  constructor
  · intro some
    obtain ⟨j, here⟩ := Nat.exists_testBit_of_ne_zero some
    obtain ⟨i, -, before, own, after, eq, -, -, matched⟩ := (tells.told _ bound j).mp here
    exact ⟨before, own, after, eq, matched⟩
  · rintro ⟨before, own, after, eq, matched⟩ none
    have here := (tells.told _ bound (before ++ own).length).mpr
      ⟨before.length, ?_, before, own, after, eq, rfl, rfl, matched⟩
    · rw [none] at here
      simp at here
    · rw [Nat.testBit_two_pow_sub_one, decide_eq_true_eq, eq]
      simp only [List.length_append]
      omega

end DataSchema.Pattern
