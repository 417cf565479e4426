import DataSchema.Registry
import Mathlib.Algebra.BigOperators.Group.Finset.Basic
import Mathlib.Algebra.Order.BigOperators.Group.Finset
import Mathlib.Data.Finset.Card
import Mathlib.Logic.Relation

/-!
Reachability along links. The search for what a slot leads to ends with every slot that one or more
links lead to and no other: each round either drops a slot that is known or pays for its links, and
the rounds are enough for all links of all slots.
-/
namespace DataSchema.Links

open Relation

variable {links : Links}

/-- One link leads from a slot to another. -/
def Leads (links : Links) (slot target : Nat) : Prop := target ∈ links.targets slot

/-- What the links of slots that are not seen may still add to the pending ones. -/
def unpaid (links : Links) (seen : List Nat) : Nat :=
  ∑ slot ∈ Finset.range links.length with slot ∉ seen, (links.targets slot).length

theorem targets_of_length_le {slot : Nat} (outside : links.length ≤ slot) :
    links.targets slot = [] := by
  simp [targets, outside]

/-- Seeing a slot pays for its links. -/
theorem unpaid_cons (links : Links) {slot : Nat} {seen : List Nat} (new : slot ∉ seen) :
    unpaid links (slot :: seen) + (links.targets slot).length = unpaid links seen := by
  by_cases inside : slot < links.length
  · have member : slot ∈ {s ∈ Finset.range links.length | s ∉ seen} := by simp [inside, new]
    have others : {s ∈ Finset.range links.length | s ∉ slot :: seen} =
        {s ∈ Finset.range links.length | s ∉ seen}.erase slot := by
      ext s
      simp only [List.mem_cons, not_or, Finset.mem_filter, Finset.mem_erase]
      tauto
    unfold unpaid
    rw [others, Finset.sum_erase_add _ _ member]
  · have unlinked : links.targets slot = [] := targets_of_length_le (Nat.le_of_not_lt inside)
    have same : {s ∈ Finset.range links.length | s ∉ slot :: seen} =
        {s ∈ Finset.range links.length | s ∉ seen} := by
      ext s
      simp only [List.mem_cons, not_or, Finset.mem_filter, Finset.mem_range]
      constructor
      · exact fun ⟨within, _, free⟩ => ⟨within, free⟩
      · exact fun ⟨within, free⟩ => ⟨within, by omega, free⟩
    rw [unpaid, same, unlinked]
    rfl

theorem sum_targets_length (links : Links) :
    ∑ slot ∈ Finset.range links.length, (links.targets slot).length =
      links.flatten.length := by
  induction links with
  | nil => rfl
  | cons own rest ih =>
    rw [List.length_cons, Finset.sum_range_succ', List.flatten_cons, List.length_append, ← ih]
    simp [targets, Nat.add_comm]

theorem unpaid_nil (links : Links) : unpaid links [] = links.flatten.length := by
  simp [unpaid, sum_targets_length]

/-- What the search has seen at its end is led to by a set that holds what it begins with. -/
theorem visit_sound (reachable : Nat → Prop)
    (closed : ∀ slot target, reachable slot → Leads links slot target → reachable target)
    (rounds : Nat) (pending seen : List Nat) (pendingReached : ∀ slot ∈ pending, reachable slot)
    (seenReached : ∀ slot ∈ seen, reachable slot) :
    ∀ slot ∈ visit links rounds pending seen, reachable slot := by
  fun_induction visit links rounds pending seen with
  | case1 pending seen => exact seenReached
  | case2 rounds seen => exact seenReached
  | case3 rounds slot pending seen known ih =>
    exact ih (fun s member => pendingReached s (by simp [member])) seenReached
  | case4 rounds slot pending seen new ih =>
    have own : reachable slot := pendingReached slot (by simp)
    apply ih
    · intro s member
      rcases List.mem_append.mp member with target | member
      · exact closed slot s own target
      · exact pendingReached s (by simp [member])
    · intro s member
      rcases List.mem_cons.mp member with rfl | member
      · exact own
      · exact seenReached s member

/-- With enough rounds the search keeps all it begins with, and follows every link of what it has
seen. -/
theorem visit_closed (rounds : Nat) (pending seen : List Nat)
    (enough : pending.length + unpaid links seen ≤ rounds)
    (followed : ∀ slot ∈ seen, ∀ target, Leads links slot target →
      target ∈ seen ∨ target ∈ pending) :
    (∀ slot, slot ∈ seen ∨ slot ∈ pending → slot ∈ visit links rounds pending seen) ∧
    ∀ slot ∈ visit links rounds pending seen, ∀ target, Leads links slot target →
      target ∈ visit links rounds pending seen := by
  fun_induction visit links rounds pending seen with
  | case1 pending seen =>
    have done : pending = [] := List.eq_nil_of_length_eq_zero (by omega)
    subst done
    refine ⟨by simp, fun slot member target leads => ?_⟩
    simpa using followed slot member target leads
  | case2 rounds seen =>
    refine ⟨by simp, fun slot member target leads => ?_⟩
    simpa using followed slot member target leads
  | case3 rounds slot pending seen known ih =>
    have inSeen : slot ∈ seen := by simpa using known
    obtain ⟨kept, closed⟩ := ih (by simp at enough; omega) (fun s member target leads => by
      rcases followed s member target leads with old | waiting
      · exact .inl old
      · rcases List.mem_cons.mp waiting with rfl | waiting
        · exact .inl inSeen
        · exact .inr waiting)
    refine ⟨fun s member => kept s ?_, closed⟩
    rcases member with old | waiting
    · exact .inl old
    · rcases List.mem_cons.mp waiting with rfl | waiting
      · exact .inl inSeen
      · exact .inr waiting
  | case4 rounds slot pending seen new ih =>
    have fresh : slot ∉ seen := by simpa using new
    have paid := unpaid_cons links fresh
    obtain ⟨kept, closed⟩ := ih (by simp at enough ⊢; omega) (fun s member target leads => by
      rcases List.mem_cons.mp member with rfl | member
      · exact .inr (List.mem_append_left _ leads)
      · rcases followed s member target leads with old | waiting
        · exact .inl (List.mem_cons_of_mem _ old)
        · rcases List.mem_cons.mp waiting with rfl | waiting
          · exact .inl List.mem_cons_self
          · exact .inr (List.mem_append_right _ waiting))
    refine ⟨fun s member => kept s ?_, closed⟩
    rcases member with old | waiting
    · exact .inl (List.mem_cons_of_mem _ old)
    · rcases List.mem_cons.mp waiting with rfl | waiting
      · exact .inl List.mem_cons_self
      · exact .inr (List.mem_append_right _ waiting)

/-- The search finds exactly the slots that one or more links lead to. -/
theorem mem_reached_iff {slot target : Nat} :
    target ∈ links.reached slot ↔ TransGen (Leads links) slot target := by
  constructor
  · intro found
    refine visit_sound (TransGen (Leads links) slot)
      (fun _ _ reach leads => reach.tail leads) _ _ _ ?_ (by simp) target found
    exact fun first leads => .single leads
  · intro reach
    have enough : (links.targets slot).length + unpaid links [] ≤ 2 * links.flatten.length + 1 := by
      have within : (links.targets slot).length ≤ links.flatten.length := by
        by_cases inside : slot < links.length
        · rw [← sum_targets_length]
          exact Finset.single_le_sum_of_canonicallyOrdered
            (f := fun s => (links.targets s).length) (Finset.mem_range.mpr inside)
        · simp [targets_of_length_le (Nat.le_of_not_lt inside)]
      rw [unpaid_nil]
      omega
    obtain ⟨kept, closed⟩ := visit_closed _ _ _ enough (by simp)
    induction reach with
    | single leads => exact kept _ (.inr leads)
    | tail _ leads ih => exact closed _ ih _ leads

end DataSchema.Links
