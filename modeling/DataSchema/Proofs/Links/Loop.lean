import DataSchema.Proofs.Links.Cycles
import Mathlib.Data.List.Range
import Mathlib.Dynamics.PeriodicPts.Defs

/-!
Loops: slots on a cycle along which each has a single link. Following first links from a slot of a
loop goes round it once, and comes to every slot that can be reached at all.
-/
namespace DataSchema.Links

open Relation Function

/-- A way of steps from a slot back to it, by each slot that can be reached and by none twice. -/
structure RoundTrip (step : Nat → Nat → Prop) (start : Nat) (between : List Nat) : Prop where
  distinct : (start :: between).Nodup
  linked : (start :: between ++ [start]).IsChain step
  complete : ∀ slot, slot ∈ start :: between ↔ TransGen step start slot

/-- Where the first link of a slot leads; a slot without links counts as leading to `start`. -/
def firstLink (links : Links) (start slot : Nat) : Nat := (links.targets slot).headD start

/-- The start and the slots that follow it, until it comes up again. -/
noncomputable def loop (links : Links) (start : Nat) : List Nat :=
  (List.range (minimalPeriod (firstLink links start) start)).map
    fun i => (firstLink links start)^[i] start

theorem loop_nodup (links : Links) (start : Nat) : (loop links start).Nodup := by
  apply List.Nodup.map_on _ List.nodup_range
  intro i inside j within same
  rw [List.mem_range] at inside within
  exact (iterate_eq_iterate_iff_of_lt_minimalPeriod inside within).mp same

/-- Following goes on until the start comes up again, if there are rounds enough. -/
theorem follow_iterate (links : Links) (start rounds count : Nat) (positive : 0 < count)
    (before : count ≤ minimalPeriod (firstLink links start) start)
    (enough : minimalPeriod (firstLink links start) start ≤ count + rounds) :
    follow links start rounds ((firstLink links start)^[count] start) =
      (List.range' count (minimalPeriod (firstLink links start) start - count)).map
        fun i => (firstLink links start)^[i] start := by
  -- The period less the count falls with every round, and is zero when the start is back.
  induction rounds generalizing count with
  | zero =>
    have last : minimalPeriod (firstLink links start) start - count = 0 := by omega
    rw [last]
    rfl
  | succ rounds ih =>
    rw [follow]
    by_cases last : count = minimalPeriod (firstLink links start) start
    · rw [last, iterate_minimalPeriod, if_pos rfl, Nat.sub_self]
      rfl
    · have apart : (firstLink links start)^[count] start ≠ start := by
        apply not_isPeriodicPt_of_pos_of_lt_minimalPeriod (Nat.ne_of_gt positive)
        omega
      have left : minimalPeriod (firstLink links start) start - count =
          minimalPeriod (firstLink links start) start - (count + 1) + 1 := by omega
      have rest := ih (count + 1) (Nat.succ_pos count) (by omega) (by omega)
      rw [iterate_succ_apply'] at rest
      rw [if_neg apart, left, List.range'_succ, List.map_cons, ← rest]
      rfl

section Steps

variable {links : Links} {step : Nat → Nat → Prop} {start slot target : Nat}
  (only : ∀ slot target, step slot target → links.targets slot = [target])
include only

theorem firstLink_eq (leads : step slot target) : firstLink links start slot = target := by
  rw [firstLink, only slot target leads]
  rfl

/-- A slot that leads back to the start steps on to its first link. -/
theorem step_firstLink (back : TransGen step slot start) :
    step slot (firstLink links start slot) := by
  obtain ⟨next, leads, -⟩ := TransGen.head'_iff.mp back
  rw [firstLink_eq only leads]
  exact leads

variable (own : TransGen step start start)
include own

/-- All slots that follow the start lead back to it. -/
theorem back_iterate (count : Nat) :
    TransGen step ((firstLink links start)^[count] start) start := by
  induction count with
  | zero => exact own
  | succ count ih =>
    rw [iterate_succ_apply']
    obtain ⟨next, leads, rest⟩ := TransGen.head'_iff.mp ih
    rw [firstLink_eq only leads]
    rcases reflTransGen_iff_eq_or_transGen.mp rest with same | more
    · rw [← same]
      exact own
    · exact more

theorem step_iterate (count : Nat) :
    step ((firstLink links start)^[count] start) ((firstLink links start)^[count + 1] start) := by
  rw [iterate_succ_apply']
  exact step_firstLink only (back_iterate only own count)

/-- The slots that can be reached are those that follow the start. -/
theorem reach_iff_iterate :
    TransGen step start slot ↔
      ∃ count, 0 < count ∧ (firstLink links start)^[count] start = slot := by
  constructor
  · intro reach
    induction reach with
    | single leads => exact ⟨1, Nat.one_pos, firstLink_eq only leads⟩
    | tail _ leads ih =>
      obtain ⟨count, -, rfl⟩ := ih
      refine ⟨count + 1, Nat.succ_pos count, ?_⟩
      rw [iterate_succ_apply']
      exact firstLink_eq only leads
  · rintro ⟨count, positive, rfl⟩
    induction count with
    | zero => cases positive
    | succ count ih =>
      have last := step_iterate only own count
      cases count with
      | zero => exact .single last
      | succ count => exact (ih (Nat.succ_pos count)).tail last

/-- The start comes up again. -/
theorem minimalPeriod_pos : 0 < minimalPeriod (firstLink links start) start := by
  obtain ⟨count, positive, again⟩ := (reach_iff_iterate only own).mp own
  exact IsPeriodicPt.minimalPeriod_pos positive again

/-- A loop has all slots that can be reached from its start. -/
theorem mem_loop_iff : slot ∈ loop links start ↔ TransGen step start slot := by
  have positive := minimalPeriod_pos only own
  rw [loop, reach_iff_iterate only own, List.mem_map]
  constructor
  · rintro ⟨count, -, rfl⟩
    refine ⟨count + minimalPeriod (firstLink links start) start, by omega, ?_⟩
    rw [iterate_add_minimalPeriod_eq]
  · rintro ⟨count, -, rfl⟩
    refine ⟨count % minimalPeriod (firstLink links start) start,
      List.mem_range.mpr (Nat.mod_lt _ positive), ?_⟩
    rw [iterate_mod_minimalPeriod_eq]

/-- The cyclic group of a slot on a loop is the loop. -/
theorem mem_cycleThrough_iff_of_loop :
    slot ∈ cycleThrough links start ↔ TransGen step start slot := by
  have isLink (slot target : Nat) (leads : step slot target) : Leads links slot target := by
    rw [Leads, only slot target leads]
    exact List.mem_singleton_self target
  have back (slot : Nat) (reach : TransGen step start slot) : TransGen step slot start := by
    obtain ⟨count, -, rfl⟩ := (reach_iff_iterate only own).mp reach
    exact back_iterate only own count
  have isStep (slot target : Nat) (back : TransGen step slot start)
      (leads : Leads links slot target) : step slot target := by
    have first := step_firstLink only back
    rw [Leads, only slot _ first, List.mem_singleton] at leads
    rw [leads]
    exact first
  rw [mem_cycleThrough_iff]
  constructor
  · rintro ⟨reach, -⟩
    induction reach with
    | single leads => exact .single (isStep _ _ own leads)
    | tail _ leads ih => exact ih.tail (isStep _ _ (back _ ih) leads)
  · intro reach
    exact ⟨TransGen.mono isLink _ _ reach, TransGen.mono isLink _ _ (back slot reach)⟩

/-- Following the links of a loop for as many rounds as its group has slots goes round it. -/
theorem follow_roundTrip :
    RoundTrip step start
      (follow links start (cycleThrough links start).length (firstLink links start start)) := by
  have positive := minimalPeriod_pos only own
  have subset : loop links start ⊆ cycleThrough links start := fun slot member =>
    (mem_cycleThrough_iff_of_loop only own).mpr ((mem_loop_iff only own).mp member)
  have enough :
      minimalPeriod (firstLink links start) start ≤ (cycleThrough links start).length := by
    simpa [loop] using ((loop_nodup links start).subperm subset).length_le
  have around : start :: follow links start (cycleThrough links start).length
      (firstLink links start start) = loop links start := by
    have rest := follow_iterate links start (cycleThrough links start).length 1 Nat.one_pos positive
      (by omega)
    have length : minimalPeriod (firstLink links start) start =
        minimalPeriod (firstLink links start) start - 1 + 1 := by omega
    rw [loop, List.range_eq_range', length, List.range'_succ, List.map_cons, ← rest]
    rfl
  have closed : start :: follow links start (cycleThrough links start).length
      (firstLink links start start) ++ [start] =
      (List.range (minimalPeriod (firstLink links start) start + 1)).map
        fun i => (firstLink links start)^[i] start := by
    rw [List.range_succ, List.map_append, around, List.map_singleton, iterate_minimalPeriod, loop]
  refine ⟨?_, ?_, ?_⟩
  · rw [around]
    exact loop_nodup links start
  · rw [closed, List.isChain_map, List.isChain_range_succ]
    exact fun i _ => step_iterate only own i
  · intro slot
    rw [around]
    exact mem_loop_iff only own

end Steps
end DataSchema.Links
