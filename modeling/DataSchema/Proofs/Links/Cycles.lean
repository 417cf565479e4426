import DataSchema.Proofs.Links.Reach
import Mathlib.Data.List.Sort

/-!
The cyclic groups of links. A group holds the slots that lead to its first slot and are led to by
it, and the groups are all there are: every slot that leads to itself is in one. Where there is no
group, the number of slots that a slot leads to falls with every link.
-/
namespace DataSchema.Links

open Relation

variable {links : Links} {slot other start : Nat} {group : List Nat}

theorem lt_length_of_leads (leads : Leads links slot other) : slot < links.length := by
  by_contra outside
  rw [Leads, targets_of_length_le (Nat.le_of_not_lt outside)] at leads
  cases leads

theorem lt_length_of_reach (reach : TransGen (Leads links) slot other) : slot < links.length := by
  obtain ⟨next, leads, -⟩ := TransGen.head'_iff.mp reach
  exact lt_length_of_leads leads

/-- The slots on a common cycle with a slot, in ascending order. -/
def cycleThrough (links : Links) (slot : Nat) : List Nat :=
  (List.range links.length).filter fun other =>
    (links.reached slot).contains other && (links.reached other).contains slot

theorem mem_cycleThrough_iff :
    other ∈ cycleThrough links slot ↔
      TransGen (Leads links) slot other ∧ TransGen (Leads links) other slot := by
  simp only [cycleThrough, List.mem_filter, List.mem_range, Bool.and_eq_true,
    List.contains_iff_mem, mem_reached_iff]
  exact ⟨And.right, fun both => ⟨lt_length_of_reach both.2, both⟩⟩

theorem cycleThrough_ascending (links : Links) (slot : Nat) :
    (cycleThrough links slot).Pairwise (· < ·) :=
  List.Pairwise.filter _ List.pairwise_lt_range

/-- Slots on a common cycle have the same group. -/
theorem cycleThrough_congr (member : other ∈ cycleThrough links slot) :
    cycleThrough links other = cycleThrough links slot := by
  obtain ⟨there, back⟩ := mem_cycleThrough_iff.mp member
  apply List.filter_congr
  intro third _
  rw [Bool.eq_iff_iff]
  simp only [Bool.and_eq_true, List.contains_iff_mem, mem_reached_iff]
  exact ⟨fun ⟨hence, hither⟩ => ⟨there.trans hence, hither.trans back⟩,
    fun ⟨hence, hither⟩ => ⟨back.trans hence, hither.trans there⟩⟩

/-- The groups are those of the slots that come first in their own group. -/
theorem cycles_eq (links : Links) :
    links.cycles = (List.range links.length).filterMap fun slot =>
      if (cycleThrough links slot).head? = some slot then some (cycleThrough links slot)
      else none := by
  have group (slot : Nat) (inside : slot ∈ List.range links.length) :
      ((List.range links.length).filter fun other =>
        ((((List.range links.length).map links.reached).getD slot []).contains other &&
          (((List.range links.length).map links.reached).getD other []).contains slot)) =
      cycleThrough links slot := by
    apply List.filter_congr
    intro other within
    rw [List.mem_range] at inside within
    simp [inside, within]
  apply List.filterMap_congr
  intro slot inside
  simp only [group slot inside]

theorem mem_cycles_iff :
    group ∈ links.cycles ↔
      ∃ start, group = cycleThrough links start ∧ group.head? = some start := by
  rw [cycles_eq, List.mem_filterMap]
  constructor
  · rintro ⟨start, -, found⟩
    obtain ⟨first, same⟩ := Option.ite_none_right_eq_some.mp found
    cases same
    exact ⟨start, rfl, first⟩
  · rintro ⟨start, rfl, first⟩
    have member := mem_cycleThrough_iff.mp (List.mem_of_head? first)
    exact ⟨start, List.mem_range.mpr (lt_length_of_reach member.1), by simp [first]⟩

/-- Every slot that leads to itself is in a group, whose first slot is not above it. -/
theorem exists_cycle_of_reach (own : TransGen (Leads links) slot slot) :
    ∃ start, cycleThrough links start ∈ links.cycles ∧
      (cycleThrough links start).head? = some start ∧ slot ∈ cycleThrough links start := by
  have member : slot ∈ cycleThrough links slot := mem_cycleThrough_iff.mpr ⟨own, own⟩
  cases first : (cycleThrough links slot).head? with
  | none =>
    rw [List.head?_eq_none_iff.mp first] at member
    cases member
  | some start =>
    have same := cycleThrough_congr (List.mem_of_head? first)
    rw [← same] at member first
    exact ⟨start, mem_cycles_iff.mpr ⟨start, rfl, first⟩, first, member⟩

/-- The first slot of a group is its least. -/
theorem head_le_of_mem (first : (cycleThrough links slot).head? = some start)
    (member : other ∈ cycleThrough links slot) : start ≤ other := by
  have ascending := cycleThrough_ascending links slot
  cases group : cycleThrough links slot with
  | nil => simp [group] at first
  | cons head rest =>
    rw [group] at first member ascending
    cases first
    rcases List.mem_cons.mp member with rfl | later
    · exact Nat.le_refl _
    · exact Nat.le_of_lt (List.rel_of_pairwise_cons ascending later)

/-- The groups stand in ascending order of their first slots. -/
theorem cycles_ascending (links : Links) :
    links.cycles.Pairwise fun before after =>
      ∀ a b, before.head? = some a → after.head? = some b → a < b := by
  rw [cycles_eq, List.pairwise_filterMap]
  apply List.pairwise_lt_range.imp
  intro low high below before foundBefore after foundAfter a b headBefore headAfter
  obtain ⟨firstBefore, sameBefore⟩ := Option.ite_none_right_eq_some.mp foundBefore
  obtain ⟨firstAfter, sameAfter⟩ := Option.ite_none_right_eq_some.mp foundAfter
  cases sameBefore
  cases sameAfter
  cases firstBefore.symm.trans headBefore
  cases firstAfter.symm.trans headAfter
  exact below

/-! ## Links without a cycle -/

/-- How many slots a slot leads to by one or more links. -/
noncomputable def rank (links : Links) (slot : Nat) : Nat :=
  open Classical in
  ((Finset.range links.length).filter fun other => TransGen (Leads links) slot other).card

/-- Without a cycle the rank of a slot is less than the number of slots. -/
theorem rank_lt_length (acyclic : links.cycles = []) (inside : slot < links.length) :
    rank links slot < links.length := by
  classical
  have proper : ((Finset.range links.length).filter fun other =>
      TransGen (Leads links) slot other) ⊂ Finset.range links.length := by
    refine Finset.filter_ssubset.mpr ⟨slot, Finset.mem_range.mpr inside, fun own => ?_⟩
    obtain ⟨start, member, -⟩ := exists_cycle_of_reach own
    rw [acyclic] at member
    cases member
  simpa [rank] using Finset.card_lt_card proper

/-- Without a cycle every link leads to a slot of lesser rank. -/
theorem rank_lt_of_leads (acyclic : links.cycles = []) (leads : Leads links slot other)
    (inside : other < links.length) : rank links other < rank links slot := by
  classical
  refine Finset.card_lt_card ⟨?_, fun subset => ?_⟩
  · intro third member
    rw [Finset.mem_filter] at member ⊢
    exact ⟨member.1, member.2.head leads⟩
  · have member := subset (Finset.mem_filter.mpr ⟨Finset.mem_range.mpr inside, .single leads⟩)
    obtain ⟨start, group, -⟩ := exists_cycle_of_reach (Finset.mem_filter.mp member).2
    rw [acyclic] at group
    cases group

end DataSchema.Links
