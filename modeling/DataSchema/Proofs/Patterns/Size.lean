import DataSchema.Pattern.Size

/-!
Patterns that are not too large. States of a set may be used again, so what a pattern adds to a
machine is at most what it would add if none were.
-/
namespace DataSchema.Pattern

/-- The machine is there, and it has grown by no more than a cost. -/
def Machine.Grows (m : Machine) (cost : Nat) (result : Option Machine) : Prop :=
  ∃ next, result = some next ∧ next.size ≤ m.size + cost

theorem Machine.grows_add (m : Machine) (states links : Nat)
    (fits : m.size + (states * stateSize + links) ≤ sizeLimit) :
    m.Grows (states * stateSize + links) (m.add? states links) := by
  have size_eq : size ⟨m.states + states, m.links + links⟩ =
      m.size + (states * stateSize + links) := by
    simp only [size, Nat.add_mul]
    omega
  refine ⟨⟨m.states + states, m.links + links⟩, ?_, Nat.le_of_eq size_eq⟩
  rw [add?, if_neg (Nat.not_lt.mpr (size_eq ▸ fits))]

/-! ## Sets -/

namespace SetBuilder

variable {b : SetBuilder}

/-- A result is there, and its builder has grown by no more than a cost. -/
def Grows {α : Type} (b : SetBuilder) (cost : Nat) (result : Option (α × SetBuilder)) : Prop :=
  ∃ value next, result = some (value, next) ∧ next.machine.size ≤ b.machine.size + cost

theorem grows_state (slots : Nat) (key : List Nat) (links : Nat)
    (fits : b.machine.size + (stateSize + links) ≤ sizeLimit) :
    b.Grows (stateSize + links) (b.state? slots key links) := by
  unfold state?
  dsimp only
  split
  · exact ⟨_, b, rfl, Nat.le_add_right _ _⟩
  · obtain ⟨machine, recent⟩ := b
    have fits : machine.size + (1 * stateSize + links) ≤ sizeLimit := by
      rw [Nat.one_mul]
      exact fits
    obtain ⟨next, added, small⟩ := Machine.grows_add machine 1 links fits
    rw [Nat.one_mul] at small
    refine ⟨machine.states,
      ⟨next, recent.insert ((slotHash key).toNat % slots) (key, machine.states)⟩, ?_, small⟩
    simp only [add?, added]
    rfl

end SetBuilder

mutual

/-- The most that the states of a tree take. -/
def ByteTree.cost : ByteTree → Nat
  | .node branches =>
    (stateSize + branches.length * transitionSize) + ByteTree.costOfAll branches

def ByteTree.costOfAll : List ((Nat × Nat) × ByteTree) → Nat
  | [] => 0
  | (_, child) :: rest => child.cost + ByteTree.costOfAll rest

end

mutual

theorem ByteTree.grows_build (last : Nat) : ∀ (tree : ByteTree) (b : SetBuilder),
    b.machine.size + tree.cost ≤ sizeLimit → b.Grows tree.cost (tree.build? last b)
  | .node [], b, _ => ⟨last, b, rfl, Nat.le_add_right _ _⟩
  | .node (branch :: rest), b, fits => by
    rw [cost] at fits ⊢
    obtain ⟨key, b', built, small⟩ := ByteTree.grows_buildAll last (branch :: rest) b (by omega)
    obtain ⟨state, b'', added, small'⟩ := SetBuilder.grows_state (b := b') forwardSlots key
      ((branch :: rest).length * transitionSize) (by omega)
    refine ⟨state, b'', ?_, by omega⟩
    rw [build?, built]
    · exact added
    · nofun

theorem ByteTree.grows_buildAll (last : Nat) :
    ∀ (branches : List ((Nat × Nat) × ByteTree)) (b : SetBuilder),
    b.machine.size + costOfAll branches ≤ sizeLimit →
      b.Grows (costOfAll branches) (ByteTree.buildAll? last branches b)
  | [], b, _ => ⟨[], b, rfl, Nat.le_add_right _ _⟩
  | ((lo, hi), child) :: rest, b, fits => by
    rw [costOfAll] at fits ⊢
    obtain ⟨next, b', built, small⟩ := ByteTree.grows_build last child b (by omega)
    obtain ⟨key, b'', others, small'⟩ := ByteTree.grows_buildAll last rest b' (by omega)
    exact ⟨lo :: hi :: next :: key, b'', by simp [buildAll?, built, others], by omega⟩

end

/-- The most that the states of sequences take. -/
def sequencesCost : List ByteRanges → Nat
  | [] => 0
  | sequence :: rest => sequence.length * stateSize + sequencesCost rest

theorem SetBuilder.grows_sequence (sequence : ByteRanges) (b : SetBuilder) (next : Nat)
    (fits : b.machine.size + sequence.length * stateSize ≤ sizeLimit) :
    ∃ b', b.sequence? sequence next = some b' ∧
      b'.machine.size ≤ b.machine.size + sequence.length * stateSize := by
  induction sequence generalizing b next with
  | nil => exact ⟨b, rfl, Nat.le_add_right _ _⟩
  | cons range rest ih =>
    obtain ⟨lo, hi⟩ := range
    rw [List.length_cons, Nat.succ_mul] at fits ⊢
    obtain ⟨state, b', added, small⟩ :=
      grows_state (b := b) backwardSlots [next, lo, hi] 0 (by omega)
    obtain ⟨b'', others, small'⟩ := ih b' state (by omega)
    exact ⟨b'', by simp [sequence?, added, others], by omega⟩

theorem SetBuilder.grows_sequences (sequences : List ByteRanges) (b : SetBuilder) (last : Nat)
    (fits : b.machine.size + sequencesCost sequences ≤ sizeLimit) :
    ∃ b', SetBuilder.sequences? last b sequences = some b' ∧
      b'.machine.size ≤ b.machine.size + sequencesCost sequences := by
  induction sequences generalizing b with
  | nil => exact ⟨b, rfl, Nat.le_add_right _ _⟩
  | cons sequence rest ih =>
    rw [sequencesCost] at fits ⊢
    obtain ⟨b', added, small⟩ := grows_sequence sequence b last (by omega)
    obtain ⟨b'', others, small'⟩ := ih b' (by omega)
    exact ⟨b'', by simp [sequences?, added, others], by omega⟩

theorem Machine.grows_forwardSet {tree : ByteTree} {m : Machine}
    (fits : m.size + (stateSize + tree.cost) ≤ sizeLimit) :
    m.Grows (stateSize + tree.cost) (m.forwardSet? tree) := by
  obtain ⟨next, added, small⟩ := grows_add m 1 0 (by omega)
  obtain ⟨_, b, built, small'⟩ := ByteTree.grows_build m.states tree ⟨next, {}⟩
    (show next.size + _ ≤ _ by omega)
  dsimp only at small'
  exact ⟨b.machine, by simp [forwardSet?, added, built], by omega⟩

theorem Machine.grows_backwardSet {sequences : List ByteRanges} {m : Machine}
    (fits : m.size + ((2 * stateSize + sequences.length * alternateSize) +
      sequencesCost sequences) ≤ sizeLimit) :
    m.Grows ((2 * stateSize + sequences.length * alternateSize) + sequencesCost sequences)
      (m.backwardSet? sequences) := by
  obtain ⟨next, added, small⟩ := grows_add m 2 (sequences.length * alternateSize) (by omega)
  obtain ⟨b, built, small'⟩ := SetBuilder.grows_sequences sequences ⟨next, {}⟩ (m.states + 1)
    (show next.size + _ ≤ _ by omega)
  dsimp only at small'
  exact ⟨b.machine, by simp [backwardSet?, added, built], by omega⟩

/-! ## Fragments -/

mutual

/-- The most that a fragment takes. -/
def Fragment.cost : Fragment → Nat
  | .fixed states links => states * stateSize + links
  | .forwardSet tree => stateSize + tree.cost
  | .backwardSet sequences =>
    (2 * stateSize + sequences.length * alternateSize) + sequencesCost sequences
  | .row parts => Fragment.costOfAll parts
  | .copies count body => count * body.cost

def Fragment.costOfAll : List Fragment → Nat
  | [] => 0
  | part :: rest => part.cost + Fragment.costOfAll rest

end

namespace Fragment

theorem grows_times {step : Machine → Option Machine} {cost : Nat}
    (grows : ∀ m : Machine, m.size + cost ≤ sizeLimit → m.Grows cost (step m))
    {count : Nat} {m : Machine} (fits : m.size + count * cost ≤ sizeLimit) :
    m.Grows (count * cost) (times? step count m) := by
  induction count generalizing m with
  | zero => exact ⟨m, rfl, Nat.le_add_right _ _⟩
  | succ count ih =>
    rw [Nat.succ_mul] at fits ⊢
    obtain ⟨next, stepped, small⟩ := grows m (by omega)
    obtain ⟨last, others, small'⟩ := ih (m := next) (by omega)
    exact ⟨last, by simp [times?, stepped, others], by omega⟩

mutual

/-- What is cheap enough is built. -/
theorem grows_build : ∀ (fragment : Fragment) (m : Machine),
    m.size + fragment.cost ≤ sizeLimit → m.Grows fragment.cost (fragment.build? m)
  | .fixed states links, m, fits => m.grows_add states links fits
  | .forwardSet _, _, fits => Machine.grows_forwardSet fits
  | .backwardSet _, _, fits => Machine.grows_backwardSet fits
  | .row parts, m, fits => grows_buildAll parts m fits
  | .copies _ body, _, fits => grows_times (grows_build body) fits

theorem grows_buildAll : ∀ (parts : List Fragment) (m : Machine),
    m.size + costOfAll parts ≤ sizeLimit → m.Grows (costOfAll parts) (buildAll? parts m)
  | [], m, _ => ⟨m, rfl, Nat.le_add_right _ _⟩
  | part :: rest, m, fits => by
    rw [costOfAll] at fits ⊢
    obtain ⟨next, built, small⟩ := grows_build part m (by omega)
    obtain ⟨last, others, small'⟩ := grows_buildAll rest next (by omega)
    exact ⟨last, by simp [buildAll?, built, others], by omega⟩

end

end Fragment

/-- A pattern is not too large if its machines would not be without states that are used again. -/
theorem Regex.exceedsLimit_eq_false {r : Regex}
    (fits : ∀ backward, (r.wholeFragment backward).cost ≤ sizeLimit) : r.exceedsLimit = false := by
  have built (backward : Bool) : ((r.wholeFragment backward).build? {}).isNone = false := by
    obtain ⟨m, built, -⟩ := (r.wholeFragment backward).grows_build {}
      (by simpa [Machine.size] using fits backward)
    rw [built]
    rfl
  rw [exceedsLimit, built, built]
  rfl

end DataSchema.Pattern
