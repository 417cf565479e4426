import DataSchema.Pattern.Utf8
import Std.Data.HashMap

/-!
Machines that patterns compile to, as far as their size goes. States are numbered in the order in
which they are added, and a machine that would grow beyond the limit is none.
-/
namespace DataSchema.Pattern

/-- The bytes that a compiled pattern may take. -/
def sizeLimit : Nat := 10485760

/-- A number of states, and the bytes of what leads from one to another. -/
structure Machine where
  states : Nat := 0
  links : Nat := 0
deriving DecidableEq, Repr

def stateSize : Nat := 32

/-- A move to another state on a range of bytes. -/
def transitionSize : Nat := 8

/-- A move to another state without a byte. -/
def alternateSize : Nat := 4

def Machine.size (m : Machine) : Nat := m.states * stateSize + m.links

def Machine.add? (m : Machine) (states links : Nat) : Option Machine :=
  let next : Machine := ⟨m.states + states, m.links + links⟩
  if sizeLimit < next.size then none else some next

/-- A machine while a set is added to it, with the states of the set that can be used again. There
is one for each slot, and a new state takes the slot of an older one. -/
structure SetBuilder where
  machine : Machine
  recent : Std.HashMap Nat (List Nat × Nat) := {}

/-- A hash of 64 bits: each part is mixed in and the sum multiplied by a prime. -/
def slotHash (key : List Nat) : UInt64 :=
  key.foldl (fun hash part => (hash ^^^ part.toUInt64) * 1099511628211) 14695981039346656037

/-- The number of the state with a key, if its slot still holds it. -/
def SetBuilder.known? (b : SetBuilder) (slot : Nat) (key : List Nat) : Option Nat :=
  b.recent[slot]?.bind fun held => if held.1 == key then some held.2 else none

/-- Adds a state and puts it into its slot. -/
def SetBuilder.add? (b : SetBuilder) (slot : Nat) (key : List Nat) (links : Nat) :
    Option (Nat × SetBuilder) :=
  match b with
  | ⟨machine, recent⟩ =>
    (machine.add? 1 links).map fun next =>
      (machine.states, ⟨next, recent.insert slot (key, machine.states)⟩)

/-- The number of the state with a key, which is added if it is not known. -/
def SetBuilder.state? (b : SetBuilder) (slots : Nat) (key : List Nat) (links : Nat) :
    Option (Nat × SetBuilder) :=
  let slot := (slotHash key).toNat % slots
  match b.known? slot key with
  | some number => some (number, b)
  | none => b.add? slot key links

def forwardSlots : Nat := 10000
def backwardSlots : Nat := 1000

mutual

/-- The state where the encodings of a set begin when they are read forwards; `last` is the state
after them. States that lead on alike are one. -/
def ByteTree.build? (last : Nat) : ByteTree → SetBuilder → Option (Nat × SetBuilder)
  | .node [], b => some (last, b)
  | .node branches, b =>
    (ByteTree.buildAll? last branches b).bind fun (key, b) =>
      b.state? forwardSlots key (branches.length * transitionSize)

/-- The key of a state: each range and the state after it. -/
def ByteTree.buildAll? (last : Nat) :
    List ((Nat × Nat) × ByteTree) → SetBuilder → Option (List Nat × SetBuilder)
  | [], b => some ([], b)
  | ((lo, hi), child) :: rest, b =>
    (child.build? last b).bind fun (next, b) =>
      (ByteTree.buildAll? last rest b).map fun (key, b) => (lo :: hi :: next :: key, b)

end

/-- Adds a set that is read forwards. -/
def Machine.forwardSet? (tree : ByteTree) (m : Machine) : Option Machine :=
  (m.add? 1 0).bind fun next => (tree.build? m.states ⟨next, {}⟩).map fun built => built.2.machine

/-- The states of a sequence that is read backwards, `next` being the one after its first byte. -/
def SetBuilder.sequence? (b : SetBuilder) : ByteRanges → Nat → Option SetBuilder
  | [], _ => some b
  | (lo, hi) :: rest, next =>
    (b.state? backwardSlots [next, lo, hi] 0).bind fun (state, b) => b.sequence? rest state

/-- The states of sequences that all lead to the state `last`. -/
def SetBuilder.sequences? (last : Nat) (b : SetBuilder) : List ByteRanges → Option SetBuilder
  | [] => some b
  | sequence :: rest => (b.sequence? sequence last).bind fun b => b.sequences? last rest

/-- Adds a set that is read backwards: a state that leads to each sequence, and one after them. -/
def Machine.backwardSet? (sequences : List ByteRanges) (m : Machine) : Option Machine :=
  (m.add? 2 (sequences.length * alternateSize)).bind fun next =>
    (SetBuilder.sequences? (m.states + 1) ⟨next, {}⟩ sequences).map SetBuilder.machine

end DataSchema.Pattern
