import DataSchema.Proofs.Links.Loop
import DataSchema.Proofs.Mentions
import Mathlib.Order.Bounds.Defs

/-!
What a build refuses. A document builds unless a reference has the name of no entry, or entries that
are nothing but references lead to each other in a cycle. The error is on the first such reference,
or else goes round the first such cycle.
-/
namespace DataSchema

open Relation

namespace Document

/-- The entry in the first slot is nothing but a reference to the entry in the second. -/
def Aliases (d : Document) (slot target : Nat) : Prop :=
  ∃ entry name, d.entries[slot]? = some (entry, .reference name) ∧
    d.names.idxOf? name = some target

/-- Slots of entries that are nothing but references and lead back to themselves. -/
def aliasCycles (d : Document) : Set Nat := { slot | TransGen d.Aliases slot slot }

/-- The name of the entry in a slot. -/
def nameAt (d : Document) (slot : Nat) : String := ((d.entries[slot]?).map (·.1)).getD ""

/-- The entry in the slot is nothing but a reference. -/
def isAlias (d : Document) (slot : Nat) : Bool :=
  (d.entries[slot]?).any fun entry => entry.2.isReference

theorem Aliases.isAlias {d : Document} {slot target : Nat} (aliases : d.Aliases slot target) :
    d.isAlias slot = true := by
  obtain ⟨entry, name, found, -⟩ := aliases
  simp [Document.isAlias, found, Node.isReference]

end Document

/-! ## Links of entries -/

section Entries

variable {d : Document} {compiled : List (Compiled Check)}
  (compiles : compileEntries d.names d.entries = .ok compiled)
include compiles

/-- An entry that is nothing but a reference has a single link. -/
theorem targets_of_aliases (slot target : Nat) (aliases : d.Aliases slot target) :
    Links.targets (compiled.map Compiled.unguarded) slot = [target] := by
  obtain ⟨entry, name, place, named⟩ := aliases
  obtain ⟨c, found, compiled'⟩ := forall₂_getElem? (compileEntries_ok compiles) place
  obtain ⟨slot', named', -, unguarded⟩ := CompilesTo.reference ⟨_, _, compiled'⟩
  cases named.symm.trans named'
  simp [Links.targets, found, unguarded]

/-- The links of an entry that is nothing but a reference lead to what it refers to. -/
theorem aliases_of_leads {slot target : Nat} (isAlias : d.isAlias slot = true)
    (leads : Links.Leads (compiled.map Compiled.unguarded) slot target) :
    d.Aliases slot target := by
  cases place : d.entries[slot]? with
  | none => simp [Document.isAlias, place] at isAlias
  | some own =>
    obtain ⟨entry, node⟩ := own
    simp only [Document.isAlias, place, Option.any_some] at isAlias
    obtain ⟨c, found, compiled'⟩ := forall₂_getElem? (compileEntries_ok compiles) place
    cases node with
    | reference name =>
      obtain ⟨slot', named, -, unguarded⟩ := CompilesTo.reference ⟨_, _, compiled'⟩
      simp only [Links.Leads, Links.targets, List.getD_eq_getElem?_getD, List.getElem?_map, found,
        Option.map_some, Option.getD_some, unguarded, List.mem_singleton] at leads
      subst leads
      exact ⟨entry, name, place, named⟩
    | _ => cases isAlias

/-- A cyclic group is nothing but references exactly if its start is on a cycle of such. -/
theorem all_isAlias_iff {start : Nat}
    (first : (Links.cycleThrough (compiled.map Compiled.unguarded) start).head? = some start) :
    (Links.cycleThrough (compiled.map Compiled.unguarded) start).all d.isAlias = true ↔
      start ∈ d.aliasCycles := by
  have only := targets_of_aliases compiles
  constructor
  · intro all
    rw [List.all_eq_true] at all
    have member := List.mem_of_head? first
    obtain ⟨own, -⟩ := Links.mem_cycleThrough_iff.mp member
    -- A way through the group stays in it, so each of its links is that of a reference.
    have reach (slot : Nat)
        (there : TransGen (Links.Leads (compiled.map Compiled.unguarded)) start slot)
        (back : TransGen (Links.Leads (compiled.map Compiled.unguarded)) slot start) :
        TransGen d.Aliases start slot := by
      induction there with
      | single leads => exact .single (aliases_of_leads compiles (all start member) leads)
      | tail there leads ih =>
        have back' := back.head leads
        have isAlias := all _ (Links.mem_cycleThrough_iff.mpr ⟨there, back'⟩)
        exact (ih back').tail (aliases_of_leads compiles isAlias leads)
    exact reach start own own
  · intro own
    rw [List.all_eq_true]
    intro slot member
    have reach := (Links.mem_cycleThrough_iff_of_loop only own).mp member
    obtain ⟨count, -, rfl⟩ := (Links.reach_iff_iterate only own).mp reach
    exact (Links.step_iterate only own count).isAlias

end Entries

/-! ## Cyclic groups -/

/-- The error on a loop of references. -/
def loopError (d : Document) (start : Nat) (between : List Nat) : SchemaError :=
  ⟨some (d.nameAt start), [], .unguardedCycle ((start :: between ++ [start]).map d.nameAt)⟩

theorem cycleFinding_of_aliases {d : Document} {links : Links} {start : Nat} {group : List Nat}
    (first : group.head? = some start) (all : group.all d.isAlias = true) :
    cycleFinding d.entries links group =
      .error (loopError d start
        (links.follow start group.length (Links.firstLink links start start))) := by
  cases group with
  | nil => cases first
  | cons head rest =>
    cases first
    exact if_pos all

theorem cycleFinding_of_not_all {d : Document} (links : Links) {group : List Nat}
    (mixed : group.all d.isAlias = false) :
    ∃ finding, cycleFinding d.entries links group = .ok finding := by
  cases group with
  | nil => cases mixed
  | cons head rest => exact ⟨_, if_neg (by simpa [Document.isAlias] using mixed)⟩

/-- Groups that are not all references are findings only. -/
theorem cycleFindings_of_not_all {d : Document} {links : Links} {groups : List (List Nat)}
    (mixed : ∀ group ∈ groups, group.all d.isAlias = false) :
    ∃ findings, cycleFindings d.entries links groups = .ok findings := by
  induction groups with
  | nil => exact ⟨[], rfl⟩
  | cons group rest ih =>
    obtain ⟨finding, found⟩ := cycleFinding_of_not_all links (mixed group (by simp))
    obtain ⟨findings, others⟩ := ih fun other member => mixed other (by simp [member])
    refine ⟨finding.toList ++ findings, ?_⟩
    rw [cycleFindings, found, others]
    rfl

/-- The first group that is refused decides. -/
theorem cycleFindings_of_error {d : Document} {links : Links} {before after : List (List Nat)}
    {group : List Nat} {error : SchemaError}
    (mixed : ∀ other ∈ before, other.all d.isAlias = false)
    (refused : cycleFinding d.entries links group = .error error) :
    cycleFindings d.entries links (before ++ group :: after) = .error error := by
  induction before with
  | nil =>
    rw [List.nil_append, cycleFindings, refused]
    rfl
  | cons other rest ih =>
    obtain ⟨finding, found⟩ := cycleFinding_of_not_all links (mixed other (by simp))
    have later := ih fun third member => mixed third (by simp [member])
    rw [List.cons_append, cycleFindings, found, later]
    rfl

section Groups

variable {d : Document} {compiled : List (Compiled Check)}
  (compiles : compileEntries d.names d.entries = .ok compiled)
include compiles

theorem cycleFindings_of_no_cycle (acyclic : d.aliasCycles = ∅) :
    ∃ findings, cycleFindings d.entries (compiled.map Compiled.unguarded)
      (Links.cycles (compiled.map Compiled.unguarded)) = .ok findings := by
  apply cycleFindings_of_not_all
  intro group member
  obtain ⟨start, rfl, first⟩ := Links.mem_cycles_iff.mp member
  rw [← Bool.not_eq_true, all_isAlias_iff compiles first, acyclic]
  exact Set.notMem_empty start

/-- The first slot of the group of the least slot on a cycle of references is that slot. -/
theorem head_of_least {start : Nat} (least : IsLeast d.aliasCycles start) :
    (Links.cycleThrough (compiled.map Compiled.unguarded) start).head? = some start := by
  have only := targets_of_aliases compiles
  have own : TransGen d.Aliases start start := least.1
  have inGroup := (Links.mem_cycleThrough_iff_of_loop only own).mpr own
  obtain ⟨head, -, first, member⟩ :=
    Links.exists_cycle_of_reach (Links.mem_cycleThrough_iff.mp inGroup).1
  have same := Links.cycleThrough_congr member
  have reach : TransGen d.Aliases start head := by
    rw [← Links.mem_cycleThrough_iff_of_loop only own, same]
    exact List.mem_of_head? first
  have onCycle : head ∈ d.aliasCycles := by
    obtain ⟨count, -, rfl⟩ := (Links.reach_iff_iterate only own).mp reach
    exact (Links.back_iterate only own count).trans reach
  have equal : head = start := Nat.le_antisymm (Links.head_le_of_mem first member)
    (least.2 onCycle)
  rw [same, first, equal]

/-- The error goes round the cycle of references that has the least slot of all. -/
theorem cycleFindings_of_cycle {start : Nat} (least : IsLeast d.aliasCycles start) :
    ∃ between, Links.RoundTrip d.Aliases start between ∧
      cycleFindings d.entries (compiled.map Compiled.unguarded)
        (Links.cycles (compiled.map Compiled.unguarded)) = .error (loopError d start between) := by
  have first := head_of_least compiles least
  have all := (all_isAlias_iff compiles first).mpr least.1
  obtain ⟨before, after, split⟩ := List.append_of_mem (Links.mem_cycles_iff.mpr ⟨start, rfl, first⟩)
  refine ⟨_, Links.follow_roundTrip (targets_of_aliases compiles) least.1, ?_⟩
  rw [split]
  apply cycleFindings_of_error _ (cycleFinding_of_aliases first all)
  -- A group before this one starts lower, so it is no cycle of references.
  intro other earlier
  obtain ⟨low, rfl, firstLow⟩ := Links.mem_cycles_iff.mp
    (split ▸ List.mem_append_left _ earlier)
  have ascending := Links.cycles_ascending (compiled.map Compiled.unguarded)
  rw [split] at ascending
  have below : low < start := (List.pairwise_append.mp ascending).2.2 _ earlier _
    List.mem_cons_self low start firstLow first
  rw [← Bool.not_eq_true, all_isAlias_iff compiles firstLow]
  exact fun onCycle => Nat.not_le_of_lt below (least.2 onCycle)

end Groups

/-! ## Builds -/

namespace Registry

variable {d : Document} (options : Options)

theorem build_of_unresolved {m : Mention} (first : firstUnresolved d.names d.mentions = some m) :
    build options d = .error m.error := by
  have failed : compileEntries d.names d.entries = .error m.error :=
    (compileEntries_failsAtFirst d.names d.entries).eq_error first
  rw [build, failed]
  rfl

theorem build_of_no_cycle (resolved : d.Resolved) (acyclic : d.aliasCycles = ∅) :
    ∃ r, build options d = .ok r := by
  obtain ⟨compiled, compiles⟩ := (compileEntries_failsAtFirst d.names d.entries).exists_ok resolved
  obtain ⟨findings, found⟩ := cycleFindings_of_no_cycle compiles acyclic
  rw [build, compiles]
  simp only [bind, Except.bind, found]
  exact ⟨_, rfl⟩

theorem build_of_cycle (resolved : d.Resolved) {start : Nat}
    (least : IsLeast d.aliasCycles start) :
    ∃ between, Links.RoundTrip d.Aliases start between ∧
      build options d = .error (loopError d start between) := by
  obtain ⟨compiled, compiles⟩ := (compileEntries_failsAtFirst d.names d.entries).exists_ok resolved
  obtain ⟨between, roundTrip, refused⟩ := cycleFindings_of_cycle compiles least
  refine ⟨between, roundTrip, ?_⟩
  rw [build, compiles]
  simp only [bind, Except.bind, refused]

/-- A document that builds has no unresolved reference. -/
theorem resolved_of_build {options : Options} {r : Registry} (built : build options d = .ok r) :
    d.Resolved := by
  cases first : firstUnresolved d.names d.mentions with
  | none => exact firstUnresolved_eq_none_iff.mp first
  | some m =>
    rw [build_of_unresolved options first] at built
    cases built

/-- A document that builds has no cycle of references. -/
theorem aliasCycles_of_build {options : Options} {r : Registry} (built : build options d = .ok r) :
    d.aliasCycles = ∅ := by
  classical
  by_contra nonempty
  rw [← Ne, ← Set.nonempty_iff_ne_empty] at nonempty
  have least : IsLeast d.aliasCycles (Nat.find nonempty) :=
    ⟨Nat.find_spec nonempty, fun slot onCycle => Nat.find_min' nonempty onCycle⟩
  obtain ⟨between, -, refused⟩ := build_of_cycle options (resolved_of_build built) least
  rw [refused] at built
  cases built

/-- A document builds exactly if every reference has the name of an entry and no entries that are
nothing but references lead to each other in a cycle. Otherwise the error is on the first reference
that has the name of no entry. If there is none, it goes round the cycle of references that has the
least slot of all, from that slot back to it. -/
theorem build_outcome (options : Options) (d : Document) :
    ((∃ r, build options d = .ok r) ↔ d.Resolved ∧ d.aliasCycles = ∅) ∧
    (∀ m, firstUnresolved d.names d.mentions = some m →
      build options d = .error ⟨some m.entry, m.pointer, .unresolvedReference m.name⟩) ∧
    (d.Resolved → ∀ start, IsLeast d.aliasCycles start →
      ∃ between, Links.RoundTrip d.Aliases start between ∧
        build options d = .error ⟨some (d.nameAt start), [],
          .unguardedCycle ((start :: between ++ [start]).map d.nameAt)⟩) := by
  refine ⟨⟨?_, ?_⟩, ?_, ?_⟩
  · rintro ⟨r, built⟩
    have resolved : d.Resolved := by
      cases first : firstUnresolved d.names d.mentions with
      | none => exact firstUnresolved_eq_none_iff.mp first
      | some m =>
        rw [build_of_unresolved options first] at built
        cases built
    refine ⟨resolved, Set.not_nonempty_iff_eq_empty.mp fun nonempty => ?_⟩
    classical
    have least : IsLeast d.aliasCycles (Nat.find nonempty) :=
      ⟨Nat.find_spec nonempty, fun slot onCycle => Nat.find_min' nonempty onCycle⟩
    obtain ⟨between, -, refused⟩ := build_of_cycle options resolved least
    rw [refused] at built
    cases built
  · rintro ⟨resolved, acyclic⟩
    exact build_of_no_cycle options resolved acyclic
  · exact fun m first => build_of_unresolved options first
  · exact fun resolved start least => build_of_cycle options resolved least

/-- A choice that leads to itself, two references to each other, and one that leads to them. -/
def tangled : Document :=
  ⟨[("Choice", .union .anyOf [.reference "Choice", .plain .null]), ("Here", .reference "There"),
    ("Near", .reference "There"), ("There", .reference "Here")], []⟩

/-- The choice is no error, but the two references are. -/
theorem tangled_is_refused :
    tangled.Resolved ∧ IsLeast tangled.aliasCycles 1 ∧
      ∃ between, Links.RoundTrip tangled.Aliases 1 between ∧
        build {} tangled = .error ⟨some "Here", [],
          .unguardedCycle ((1 :: between ++ [1]).map tangled.nameAt)⟩ := by
  have resolved : tangled.Resolved := by
    unfold Document.Resolved
    decide
  have least : IsLeast tangled.aliasCycles 1 := by
    constructor
    · have there : tangled.Aliases 1 3 := ⟨"Here", "There", rfl, by decide⟩
      have back : tangled.Aliases 3 1 := ⟨"There", "Here", rfl, by decide⟩
      exact (TransGen.single there).tail back
    · intro slot onCycle
      obtain ⟨next, ⟨entry, name, found, -⟩, -⟩ := TransGen.head'_iff.mp onCycle
      cases slot with
      | zero => cases found
      | succ slot => exact Nat.succ_pos slot
  exact ⟨resolved, least, (build_outcome {} tangled).2.2 resolved 1 least⟩

end Registry
end DataSchema
