import DataSchema.Pattern.Match
import Mathlib.Data.Finset.Card
import Mathlib.Data.Nat.Bitwise

/-!
Sets of places as numbers. A map of such sets is told by the places that each place leads to, and
maps that are applied again and again by the steps that lead from place to place.
-/
namespace DataSchema.Pattern

variable {size : Nat} {step step' : Nat → Nat} {leads leads' : Nat → Nat → Prop}
  {places all fresh : Nat}

/-- The map takes a set of places to the places that some place of it leads to. -/
structure Realizes (size : Nat) (step : Nat → Nat) (leads : Nat → Nat → Prop) : Prop where
  within : ∀ i j, i < size → leads i j → j < size
  told : ∀ places, places < 2 ^ size →
    ∀ j, (step places).testBit j = true ↔ ∃ i, places.testBit i = true ∧ leads i j

theorem lt_of_testBit {i : Nat} (bound : places < 2 ^ size) (here : places.testBit i = true) :
    i < size := by
  by_contra beyond
  have least : 2 ^ size ≤ 2 ^ i := Nat.pow_le_pow_right Nat.two_pos (Nat.le_of_not_lt beyond)
  have above : 2 ^ i ≤ places := Nat.ge_two_pow_of_testBit here
  omega

namespace Realizes

theorem bound (realizes : Realizes size step leads) (bound : places < 2 ^ size) :
    step places < 2 ^ size := by
  refine Nat.lt_pow_two_of_testBit _ fun j beyond => ?_
  by_contra here
  obtain ⟨i, start, leads⟩ := (realizes.told places bound j).mp (by simpa using here)
  exact absurd (realizes.within i j (lt_of_testBit bound start) leads) (Nat.not_lt_of_le beyond)

theorem congr (realizes : Realizes size step leads)
    (same : ∀ i j, i < size → (leads i j ↔ leads' i j)) : Realizes size step leads' where
  within i j start leads := realizes.within i j start ((same i j start).mpr leads)
  told places bound j := by
    rw [realizes.told places bound j]
    exact exists_congr fun i => and_congr_right fun here => same i j (lt_of_testBit bound here)

theorem comp (first : Realizes size step leads) (second : Realizes size step' leads') :
    Realizes size (fun places => step' (step places)) fun i j => ∃ k, leads i k ∧ leads' k j where
  within i j start := fun ⟨k, earlier, later⟩ =>
    second.within k j (first.within i k start earlier) later
  told places bound j := by
    rw [second.told _ (first.bound bound) j]
    constructor
    · rintro ⟨k, here, later⟩
      obtain ⟨i, start, earlier⟩ := (first.told places bound k).mp here
      exact ⟨i, start, k, earlier, later⟩
    · rintro ⟨i, start, k, earlier, later⟩
      exact ⟨k, (first.told places bound k).mpr ⟨i, start, earlier⟩, later⟩

theorem union (first : Realizes size step leads) (second : Realizes size step' leads') :
    Realizes size (fun places => step places ||| step' places) fun i j =>
      leads i j ∨ leads' i j where
  within i j start := Or.rec (first.within i j start) (second.within i j start)
  told places bound j := by
    rw [Nat.testBit_or, Bool.or_eq_true, first.told places bound j, second.told places bound j]
    simp only [and_or_left, exists_or]

end Realizes

/-! ## Steps -/

/-- A number of steps, one after the other. -/
def Steps (leads : Nat → Nat → Prop) : Nat → Nat → Nat → Prop
  | 0, i, j => i = j
  | n + 1, i, j => ∃ k, leads i k ∧ Steps leads n k j

theorem steps_add {m n i j : Nat} :
    Steps leads (m + n) i j ↔ ∃ k, Steps leads m i k ∧ Steps leads n k j := by
  induction m generalizing i with
  | zero => simp [Steps]
  | succ m ih =>
    rw [Nat.add_right_comm]
    simp only [Steps, ih]
    constructor
    · rintro ⟨a, own, k, before, after⟩
      exact ⟨k, ⟨a, own, before⟩, after⟩
    · rintro ⟨k, ⟨a, own, before⟩, after⟩
      exact ⟨a, own, k, before, after⟩

/-- A number of steps leads to the place from one of a set. -/
def Reached (leads : Nat → Nat → Prop) (places n j : Nat) : Prop :=
  ∃ i, places.testBit i = true ∧ Steps leads n i j

@[simp] theorem reached_zero {j : Nat} :
    Reached leads places 0 j ↔ places.testBit j = true := by
  simp [Reached, Steps]

theorem reached_succ (realizes : Realizes size step leads) (bound : places < 2 ^ size)
    {n j : Nat} : Reached leads places (n + 1) j ↔ Reached leads (step places) n j := by
  simp only [Reached, Steps, realizes.told places bound]
  constructor
  · rintro ⟨i, start, k, own, steps⟩
    exact ⟨k, ⟨i, start, own⟩, steps⟩
  · rintro ⟨k, ⟨i, start, own⟩, steps⟩
    exact ⟨i, start, k, own, steps⟩

/-- No step leads out of a set that is closed. -/
theorem testBit_of_reached
    (closed : ∀ i j, places.testBit i = true → leads i j → places.testBit j = true)
    {n j : Nat} (reached : Reached leads places n j) : places.testBit j = true := by
  obtain ⟨i, start, steps⟩ := reached
  induction n generalizing i with
  | zero => exact steps ▸ start
  | succ n ih =>
    obtain ⟨k, own, steps⟩ := steps
    exact ih k (closed i k start own) steps

/-! ## Repeated application -/

theorem applyTimes_succ (n : Nat) :
    applyTimes step (n + 1) places = applyTimes step n (step places) := by
  rw [applyTimes]
  split
  · next same =>
    have same : step places = places := by simpa using same
    rw [same]
    cases n with
    | zero => rfl
    | succ n => simp [applyTimes, same]
  · rfl

theorem testBit_applyTimes (realizes : Realizes size step leads) {n j : Nat}
    (bound : places < 2 ^ size) :
    (applyTimes step n places).testBit j = true ↔ Reached leads places n j := by
  induction n generalizing places with
  | zero => exact reached_zero.symm
  | succ n ih => rw [applyTimes_succ, ih (realizes.bound bound), reached_succ realizes bound]

theorem testBit_applyUpTo (realizes : Realizes size step leads) {n j : Nat}
    (bound : places < 2 ^ size) :
    (applyUpTo step n places all).testBit j = true ↔
      all.testBit j = true ∨ ∃ k < n, Reached leads places (k + 1) j := by
  induction n generalizing places all with
  | zero => simp [applyUpTo]
  | succ n ih =>
    have later : (∃ k < n + 1, Reached leads places (k + 1) j) ↔
        (step places).testBit j = true ∨ ∃ k < n, Reached leads (step places) (k + 1) j := by
      simp only [reached_succ realizes bound, Nat.exists_lt_succ_left, reached_zero]
    rw [applyUpTo, later, ← or_assoc, ← Bool.or_eq_true, ← Nat.testBit_or]
    split
    · next stops =>
      -- Nothing is left to be applied to, or nothing changes: later steps lead nowhere else.
      have closed : ∀ i j, (step places).testBit i = true → leads i j →
          (step places).testBit j = true := by
        intro i j here own
        rcases Bool.or_eq_true _ _ |>.mp stops with none | same
        · simp [eq_of_beq none] at here
        · rw [eq_of_beq same] at here
          exact (realizes.told places bound j).mpr ⟨i, here, own⟩
      rw [Nat.testBit_or, Bool.or_eq_true]
      refine ⟨fun here => .inl here, ?_⟩
      rintro (here | ⟨k, -, reached⟩)
      · exact here
      · exact .inr (testBit_of_reached closed reached)
    · exact ih (realizes.bound bound)

/-! ## Closure -/

/-- The number of places that are not in a set. -/
def missing (size all : Nat) : Nat :=
  ((Finset.range size).filter fun i => all.testBit i = false).card

theorem missing_or_lt {i : Nat} (inside : i < size) (new : places.testBit i = true)
    (absent : all.testBit i = false) : missing size (all ||| places) < missing size all := by
  refine Finset.card_lt_card (Finset.ssubset_iff_of_subset ?_ |>.mpr ⟨i, ?_, ?_⟩)
  · intro k
    simp only [Finset.mem_filter, Nat.testBit_or, Bool.or_eq_false_iff]
    exact fun ⟨inside, absent, _⟩ => ⟨inside, absent⟩
  · simp [inside, absent]
  · simp [new]

theorem exists_new (differs : all ||| places ≠ all) :
    ∃ i, places.testBit i = true ∧ all.testBit i = false := by
  by_contra none
  refine differs (Nat.eq_of_testBit_eq fun i => ?_)
  rw [Nat.testBit_or]
  cases old : all.testBit i with
  | true => rfl
  | false =>
    cases new : places.testBit i with
    | true => exact absurd ⟨i, new, old⟩ none
    | false => rfl

theorem reached_of_closed
    (closed : ∀ i j, all.testBit i = true → leads i j → all.testBit j = true) {j : Nat} :
    all.testBit j = true ↔ ∃ n, Reached leads all n j :=
  ⟨fun here => ⟨0, reached_zero.mpr here⟩, fun ⟨_, reached⟩ => testBit_of_reached closed reached⟩

/-- What leads to new places is new itself, and there are at most as many rounds as places that are
not yet there. -/
theorem testBit_closure (realizes : Realizes size step leads) {rounds j : Nat}
    (bound : all < 2 ^ size) (inside : ∀ i, fresh.testBit i = true → all.testBit i = true)
    (known : ∀ i j, all.testBit i = true → leads i j →
      all.testBit j = true ∨ fresh.testBit i = true)
    (enough : missing size all ≤ rounds) :
    (closure step rounds fresh all).testBit j = true ↔ ∃ n, Reached leads all n j := by
  have small : fresh < 2 ^ size :=
    Nat.lt_pow_two_of_testBit _ fun i beyond => by
      by_contra here
      exact absurd (lt_of_testBit bound (inside i (by simpa using here)))
        (Nat.not_lt_of_le beyond)
  induction rounds generalizing fresh all with
  | zero =>
    rw [closure]
    refine reached_of_closed fun i j here own => ?_
    have last := realizes.within i j (lt_of_testBit bound here) own
    by_contra absent
    have counted : j ∈ (Finset.range size).filter fun i => all.testBit i = false := by
      simpa [last] using absent
    have none := Finset.card_eq_zero.mp (Nat.le_zero.mp enough)
    rw [none] at counted
    exact absurd counted (Finset.notMem_empty j)
  | succ rounds ih =>
    have next := realizes.told fresh small
    rw [closure]
    split
    · next same =>
      have same : all ||| step fresh = all := by simpa using same
      refine reached_of_closed fun i j here own => ?_
      rcases known i j here own with old | new
      · exact old
      · rw [← same, Nat.testBit_or, Bool.or_eq_true]
        exact .inr ((next j).mpr ⟨i, new, own⟩)
    · next differs =>
      have differs : all ||| step fresh ≠ all := by simpa using differs
      obtain ⟨k, new, absent⟩ := exists_new differs
      have fewer := missing_or_lt (lt_of_testBit (realizes.bound small) new) new absent
      have covered : ∀ i, (step fresh).testBit i = true → (all ||| step fresh).testBit i = true :=
        fun i here => by simp [here]
      have known : ∀ i j, (all ||| step fresh).testBit i = true → leads i j →
          (all ||| step fresh).testBit j = true ∨ (step fresh).testBit i = true := by
        intro i j here own
        rw [Nat.testBit_or, Bool.or_eq_true] at here ⊢
        rcases here with old | new
        · rcases known i j old own with there | start
          · exact .inl (.inl there)
          · exact .inl (.inr ((next j).mpr ⟨i, start, own⟩))
        · exact .inr new
      have grown := Nat.or_lt_two_pow bound (realizes.bound small)
      refine (ih grown covered known (by omega) (realizes.bound small)).trans ?_
      refine ⟨?_, fun ⟨n, i, here, steps⟩ => ⟨n, i, by simp [here], steps⟩⟩
      rintro ⟨n, i, here, steps⟩
      rw [Nat.testBit_or, Bool.or_eq_true] at here
      rcases here with old | new
      · exact ⟨n, i, old, steps⟩
      · obtain ⟨start, there, own⟩ := (next i).mp new
        exact ⟨n + 1, start, inside start there, i, own, steps⟩

/-! ## Repetition -/

/-- A number of times that is in bounds; the least number is always one. -/
def Count.Allows (count : Count) (n : Nat) : Prop :=
  count.min ≤ n ∧ ∀ most ∈ count.max, n ≤ most ∨ n ≤ count.min

theorem steps_within (realizes : Realizes size step leads) {n i j : Nat} (start : i < size)
    (steps : Steps leads n i j) : j < size := by
  induction n generalizing i with
  | zero => exact steps ▸ start
  | succ n ih =>
    obtain ⟨k, own, steps⟩ := steps
    exact ih (realizes.within i k start own) steps

theorem realizes_applyTimes (realizes : Realizes size step leads) (n : Nat) :
    Realizes size (applyTimes step n) (Steps leads n) where
  within _ _ start steps := steps_within realizes start steps
  told _ bound _ := testBit_applyTimes realizes bound

theorem reached_applyTimes (realizes : Realizes size step leads) {m n j : Nat}
    (bound : places < 2 ^ size) :
    Reached leads (applyTimes step m places) n j ↔ Reached leads places (m + n) j := by
  simp only [Reached, testBit_applyTimes realizes bound, steps_add]
  constructor
  · rintro ⟨k, ⟨i, start, before⟩, after⟩
    exact ⟨i, start, k, before, after⟩
  · rintro ⟨i, start, k, before, after⟩
    exact ⟨k, ⟨i, start, before⟩, after⟩

theorem realizes_repetition (realizes : Realizes size step leads) (count : Count) :
    Realizes size
      (fun places =>
        let first := applyTimes step count.min places
        match count.max with
        | none => closure step size first first
        | some max => applyUpTo step (max - count.min) first first)
      fun i j => ∃ n, count.Allows n ∧ Steps leads n i j where
  within _ _ start := fun ⟨_, _, steps⟩ => steps_within realizes start steps
  told places bound j := by
    have first := (realizes_applyTimes realizes count.min).bound bound
    have told : (∃ i, places.testBit i = true ∧ ∃ n, count.Allows n ∧ Steps leads n i j) ↔
        ∃ more, (∀ most ∈ count.max, more ≤ most - count.min) ∧
          Reached leads (applyTimes step count.min places) more j := by
      simp only [reached_applyTimes realizes bound]
      constructor
      · rintro ⟨i, start, n, ⟨least, most⟩, steps⟩
        refine ⟨n - count.min, fun limit here => ?_, i, start, ?_⟩
        · have := most limit here
          omega
        · rwa [Nat.add_sub_cancel' least]
      · rintro ⟨more, most, i, start, steps⟩
        refine ⟨i, start, count.min + more, ⟨Nat.le_add_right _ _, fun limit here => ?_⟩, steps⟩
        have := most limit here
        omega
    rw [told]
    dsimp only
    cases count.max with
    | none =>
      have few : missing size (applyTimes step count.min places) ≤ size :=
        (Finset.card_filter_le _ _).trans_eq (Finset.card_range size)
      rw [testBit_closure realizes first (fun _ => id) (fun _ _ here _ => .inr here) few]
      simp
    | some most =>
      rw [testBit_applyUpTo realizes first, ← @reached_zero leads]
      refine (Nat.exists_lt_succ_left (p := fun n => Reached leads _ n j)).symm.trans ?_
      simp only [Nat.lt_succ_iff, Option.mem_some_iff, forall_eq']

end DataSchema.Pattern
