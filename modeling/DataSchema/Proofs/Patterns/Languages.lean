import DataSchema.Proofs.Patterns.Matching
import Mathlib.Computability.Language
import Mathlib.Tactic.IntervalCases

/-!
Patterns whose matches do not depend on what stands around them: these are the texts of a language.
Such a pattern between anchors is found in the texts of its language, and in no others.
-/
namespace DataSchema.Pattern

open Unicode (CodeSet)

/-- Whatever stands around them, the texts of a language match. -/
def Reads (R : Between) (L : Language Char) : Prop :=
  ∀ before text after, R before text after ↔ text ∈ L

/-- The texts of a form. -/
def texts (P : List Char → Prop) : Language Char := {text | P text}

@[simp] theorem mem_texts {P : List Char → Prop} {text : List Char} : text ∈ texts P ↔ P text :=
  Iff.rfl

/-- The characters of a set. -/
def characters (s : CodeSet) : Language Char := {text | ∃ c, text = [c] ∧ s.holds c = true}

/-- Texts of a language one after the other, in a number that is allowed. -/
def repetitions (L : Language Char) (count : Count) : Language Char :=
  {text | ∃ n, count.Allows n ∧ text ∈ L ^ n}

/-- Characters of a set in a number that is allowed. -/
def runs (s : CodeSet) (count : Count) : Language Char :=
  {text | count.Allows text.length ∧ ∀ c ∈ text, s.holds c = true}

variable {R S : Between} {L M : Language Char} {parts : List Regex}

theorem reads_literal (chars : List Char) :
    Reads (Regex.literal chars).Matches ({chars} : Language Char) :=
  fun _ _ _ => Iff.rfl

theorem reads_set (bytes : Bool) (s : CodeSet) :
    Reads (Regex.set bytes s).Matches (characters s) :=
  fun _ _ _ => Iff.rfl

theorem reads_next (first : Reads R L) (second : Reads S M) : Reads (R.next S) (L * M) := by
  intro before text after
  rw [Language.mem_mul]
  constructor
  · rintro ⟨own, rest, rfl, here, there⟩
    exact ⟨own, (first _ _ _).mp here, rest, (second _ _ _).mp there, rfl⟩
  · rintro ⟨own, here, rest, there, rfl⟩
    exact ⟨own, rest, rfl, (first _ _ _).mpr here, (second _ _ _).mpr there⟩

theorem reads_nothing : Reads .nothing 1 := fun _ _ _ => (Language.mem_one _).symm

theorem reads_times (reads : Reads R L) (n : Nat) : Reads (R.times n) (L ^ n) := by
  induction n with
  | zero => exact pow_zero L ▸ reads_nothing
  | succ n ih => exact pow_succ' L n ▸ reads_next reads ih

theorem reads_all_nil : Reads (Regex.AllMatch []) 1 := reads_nothing

theorem reads_all_cons {part : Regex} (first : Reads part.Matches L)
    (others : Reads (Regex.AllMatch parts) M) : Reads (Regex.AllMatch (part :: parts)) (L * M) :=
  reads_next first others

/-- A group matches what is in it. -/
theorem reads_group (reads : Reads (Regex.AllMatch parts) L) :
    Reads (Regex.capture (.concat parts)).Matches L :=
  reads

theorem reads_repetition {body : Regex} (reads : Reads body.Matches L) (count : Count) :
    Reads (Regex.repetition body count).Matches (repetitions L count) := fun _ _ _ =>
  exists_congr fun n => and_congr_right fun _ => reads_times reads n _ _ _

theorem characters_pow (s : CodeSet) (n : Nat) (text : List Char) :
    text ∈ characters s ^ n ↔ text.length = n ∧ ∀ c ∈ text, s.holds c = true := by
  induction n generalizing text with
  | zero =>
    rw [pow_zero, Language.mem_one]
    constructor
    · rintro rfl
      simp
    · exact fun told => List.length_eq_zero_iff.mp told.1
  | succ n ih =>
    rw [pow_succ', Language.mem_mul]
    constructor
    · rintro ⟨-, ⟨c, rfl, holds⟩, rest, inside, rfl⟩
      obtain ⟨length, each⟩ := (ih rest).mp inside
      exact ⟨by simp [length], List.forall_mem_cons.mpr ⟨holds, each⟩⟩
    · rintro ⟨length, each⟩
      cases text with
      | nil => cases length
      | cons c rest =>
        obtain ⟨holds, each⟩ := List.forall_mem_cons.mp each
        exact ⟨[c], ⟨c, rfl, holds⟩, rest, (ih rest).mpr ⟨Nat.succ.inj length, each⟩, rfl⟩

theorem reads_run (bytes : Bool) (s : CodeSet) (count : Count) :
    Reads (Regex.repetition (.set bytes s) count).Matches (runs s count) := by
  intro before text after
  refine (reads_repetition (reads_set bytes s) count before text after).trans ?_
  constructor
  · rintro ⟨n, allowed, inside⟩
    obtain ⟨rfl, each⟩ := (characters_pow s n text).mp inside
    exact ⟨allowed, each⟩
  · rintro ⟨allowed, each⟩
    exact ⟨text.length, allowed, (characters_pow s _ text).mpr ⟨rfl, each⟩⟩

/-! ## Counts -/

variable {s : CodeSet} {greedy : Bool} {text : List Char}

theorem mem_runs {count : Count} :
    text ∈ runs s count ↔ count.Allows text.length ∧ ∀ c ∈ text, s.holds c = true :=
  Iff.rfl

theorem mem_runs_exactly {n : Nat} :
    text ∈ runs s ⟨n, some n, greedy⟩ ↔ text.length = n ∧ ∀ c ∈ text, s.holds c = true := by
  refine and_congr_left fun _ => ?_
  simp only [Count.Allows, Option.mem_some_iff]
  constructor
  · rintro ⟨least, most⟩
    have := most n rfl
    omega
  · rintro rfl
    simp

theorem mem_runs_any :
    text ∈ runs s ⟨0, none, greedy⟩ ↔ ∀ c ∈ text, s.holds c = true := by
  simp [mem_runs, Count.Allows]

theorem mem_runs_some :
    text ∈ runs s ⟨1, none, greedy⟩ ↔ text ≠ [] ∧ ∀ c ∈ text, s.holds c = true := by
  simp [mem_runs, Count.Allows, Nat.one_le_iff_ne_zero]

theorem mem_repetitions_optional :
    text ∈ repetitions L ⟨0, some 1, greedy⟩ ↔ text = [] ∨ text ∈ L := by
  constructor
  · rintro ⟨n, ⟨-, most⟩, inside⟩
    have one : n ≤ 1 := (most 1 rfl).elim id Nat.le_succ_of_le
    interval_cases n
    · exact .inl ((Language.mem_one _).mp (pow_zero L ▸ inside))
    · exact .inr (pow_one L ▸ inside)
  · rintro (rfl | inside)
    · exact ⟨0, by simp [Count.Allows], (pow_zero L).symm ▸ Language.nil_mem_one⟩
    · exact ⟨1, by simp [Count.Allows], (pow_one L).symm ▸ inside⟩

/-- Texts that come after a mark each. -/
theorem mem_marked_pow {mark : Char} {n : Nat} :
    text ∈ (({[mark]} : Language Char) * L) ^ n ↔ ∃ others : List (List Char),
      others.length = n ∧ (∀ own ∈ others, own ∈ L) ∧ text = others.flatMap (mark :: ·) := by
  induction n generalizing text with
  | zero =>
    rw [pow_zero, Language.mem_one]
    constructor
    · rintro rfl
      exact ⟨[], rfl, by simp, rfl⟩
    · rintro ⟨others, none, -, rfl⟩
      rw [List.length_eq_zero_iff.mp none]
      rfl
  | succ n ih =>
    rw [pow_succ', Language.mem_mul]
    constructor
    · rintro ⟨_, ⟨_, rfl, own, first, rfl⟩, _, inside, rfl⟩
      obtain ⟨others, rfl, each, rfl⟩ := ih.mp inside
      exact ⟨own :: others, rfl, List.forall_mem_cons.mpr ⟨first, each⟩, rfl⟩
    · rintro ⟨others, length, each, rfl⟩
      cases others with
      | nil => cases length
      | cons own others =>
        obtain ⟨first, each⟩ := List.forall_mem_cons.mp each
        exact ⟨mark :: own, ⟨[mark], rfl, own, first, rfl⟩, others.flatMap (mark :: ·),
          ih.mpr ⟨others, Nat.succ.inj length, each, rfl⟩, rfl⟩

theorem intercalate_cons {mark : Char} (first : List Char) (others : List (List Char)) :
    [mark].intercalate (first :: others) = first ++ others.flatMap (mark :: ·) := by
  induction others generalizing first with
  | nil => simp
  | cons second others ih => rw [List.intercalate_cons_cons, ih]; simp

/-- A text and more of them after a mark each are texts with the mark between any two. -/
theorem mem_joined {mark : Char} {count : Count} :
    text ∈ L * repetitions (({[mark]} : Language Char) * L) count ↔
      ∃ first others, count.Allows (List.length others) ∧ (∀ own ∈ first :: others, own ∈ L) ∧
        text = [mark].intercalate (first :: others) := by
  simp only [intercalate_cons, List.forall_mem_cons]
  constructor
  · rintro ⟨first, here, _, ⟨n, allowed, inside⟩, rfl⟩
    obtain ⟨others, rfl, each, rfl⟩ := mem_marked_pow.mp inside
    exact ⟨first, others, allowed, ⟨here, each⟩, rfl⟩
  · rintro ⟨first, others, allowed, ⟨here, each⟩, rfl⟩
    exact ⟨first, here, others.flatMap (mark :: ·),
      ⟨others.length, allowed, mem_marked_pow.mpr ⟨others, rfl, each, rfl⟩⟩, rfl⟩

/-! ## Whole texts -/

/-- Nothing may come after what ends a text. -/
theorem allMatch_textEnd {before text after : List Char} :
    Regex.AllMatch (parts ++ [.look .textEnd]) before text after ↔
      Regex.AllMatch parts before text after ∧ after = [] := by
  induction parts generalizing before text with
  | nil =>
    cases after <;> simp [Regex.AllMatch, Between.next, Between.nothing, Regex.Matches, Look.holds]
  | cons part parts ih =>
    simp only [List.cons_append, Regex.AllMatch, Between.next, ih]
    constructor
    · rintro ⟨own, rest, eq, first, others, last⟩
      exact ⟨⟨own, rest, eq, first, others⟩, last⟩
    · rintro ⟨⟨own, rest, eq, first, others⟩, last⟩
      exact ⟨own, rest, eq, first, others, last⟩

/-- A pattern for whole texts is found in the texts of the language between its anchors. -/
theorem foundIn_anchored (reads : Reads (Regex.AllMatch parts) L) (text : List Char) :
    (Regex.concat (.look .textStart :: (parts ++ [.look .textEnd]))).foundIn text = true ↔
      text ∈ L := by
  rw [Regex.foundIn_iff]
  constructor
  · rintro ⟨before, -, after, rfl, -, own, rfl, ⟨rfl, start⟩, matched⟩
    obtain ⟨matched, rfl⟩ := allMatch_textEnd.mp matched
    have start : before = [] := by simpa [Look.holds] using start
    subst start
    simpa using (reads _ _ _).mp matched
  · intro inside
    refine ⟨[], text, [], by simp, [], text, rfl, ⟨rfl, rfl⟩, ?_⟩
    exact allMatch_textEnd.mpr ⟨(reads _ _ _).mpr inside, rfl⟩

end DataSchema.Pattern
