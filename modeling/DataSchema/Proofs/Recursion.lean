import DataSchema.Proofs.Budget.Sufficient
import DataSchema.Proofs.Build
import DataSchema.Proofs.Reading.Findings
import DataSchema.Proofs.Remarks
import DataSchema.Proofs.Targets

/-!
Findings on recursion. Without an array or object between, a check of an entry goes on with the same
value at the entries that it links to, and the findings are the groups of entries that link to each
other. The groups of slots are told in `Links`; here slots stand for the names of entries, each name
for the first entry that has it.
-/
namespace DataSchema

open Relation

/-- The node is a reference to the name, or has one in a branch or under a negation. Items and
members of other values are not considered. -/
inductive Node.LinksTo (name : String) : Node → Prop
  | reference : LinksTo name (.reference name)
  | union {mode branches branch} (member : branch ∈ branches) (inside : LinksTo name branch) :
      LinksTo name (.union mode branches)
  | intersection {branches branch} (member : branch ∈ branches) (inside : LinksTo name branch) :
      LinksTo name (.intersection branches)
  | negation {inner} (inside : LinksTo name inner) : LinksTo name (.negation inner)

/-- The entry of the first name links to the second name. -/
def Document.LinksTo (d : Document) (name target : String) : Prop :=
  ∃ node, d.node? name = some node ∧ node.LinksTo target

/-! ## Links of nodes -/

section Nodes

variable {names : List String} {node : Node} {c : Compiled Check}

private theorem mem_unguarded_branches_iff {branches : List Node} {parts : List (Compiled Check)}
    {slot : Nat} (each : List.Forall₂ (CompilesTo names) branches parts)
    (ih : ∀ branch ∈ branches, ∀ {c}, CompilesTo names branch c →
      (slot ∈ c.unguarded ↔ ∃ name, branch.LinksTo name ∧ names.idxOf? name = some slot)) :
    slot ∈ parts.flatMap Compiled.unguarded ↔
      ∃ name, (∃ branch ∈ branches, branch.LinksTo name) ∧ names.idxOf? name = some slot := by
  induction each with
  | nil => simp
  | cons compiles rest ihRest =>
    have first := ih _ List.mem_cons_self compiles
    have later := ihRest fun branch member => ih branch (List.mem_cons_of_mem _ member)
    rw [List.flatMap_cons, List.mem_append, first, later]
    simp only [List.exists_mem_cons_iff, or_and_right, exists_or]

/-- The unguarded references of a node are the slots of the names that it links to. -/
theorem CompilesTo.mem_unguarded_iff (compiles : CompilesTo names node c) {slot : Nat} :
    slot ∈ c.unguarded ↔ ∃ name, node.LinksTo name ∧ names.idxOf? name = some slot := by
  induction node generalizing c with
  | scalar kind format constraints =>
    rw [compiles.scalar.2]
    simpa using fun name links => by cases links
  | enum values =>
    rw [compiles.enum.2]
    simpa using fun name links => by cases links
  | unknown token raw =>
    rw [compiles.unknown.2]
    simpa using fun name links => by cases links
  | array items count unique =>
    obtain ⟨check, -, -, unguarded⟩ := compiles.array
    rw [unguarded]
    simpa using fun name links => by cases links
  | object properties required count additional =>
    obtain ⟨declared, extra, -, -, -, unguarded⟩ := compiles.object
    rw [unguarded]
    simpa using fun name links => by cases links
  | reference target =>
    obtain ⟨own, found, -, unguarded⟩ := compiles.reference
    rw [unguarded, List.mem_singleton]
    constructor
    · rintro rfl
      exact ⟨target, .reference, found⟩
    · rintro ⟨name, links, found'⟩
      cases links
      cases found.symm.trans found'
      rfl
  | negation inner ih =>
    obtain ⟨part, compiled, -, unguarded⟩ := compiles.negation
    rw [unguarded, ih compiled]
    have same (name : String) : (Node.negation inner).LinksTo name ↔ inner.LinksTo name :=
      ⟨fun links => by cases links; assumption, .negation⟩
    simp only [same]
  | union mode branches ih =>
    obtain ⟨parts, each, -, unguarded⟩ := compiles.union
    rw [unguarded, mem_unguarded_branches_iff each ih]
    have same (name : String) : (Node.union mode branches).LinksTo name ↔
        ∃ branch ∈ branches, branch.LinksTo name :=
      ⟨fun links => by cases links with | union member inside => exact ⟨_, member, inside⟩,
        fun ⟨_, member, inside⟩ => .union member inside⟩
    simp only [same]
  | intersection branches ih =>
    obtain ⟨parts, each, -, unguarded⟩ := compiles.intersection
    rw [unguarded, mem_unguarded_branches_iff each ih]
    have same (name : String) : (Node.intersection branches).LinksTo name ↔
        ∃ branch ∈ branches, branch.LinksTo name :=
      ⟨fun links => by cases links with | intersection member inside => exact ⟨_, member, inside⟩,
        fun ⟨_, member, inside⟩ => .intersection member inside⟩
    simp only [same]

/-- What a node links to is among the names that it refers to. -/
theorem Node.LinksTo.mem_targets {name : String} (links : node.LinksTo name) :
    name ∈ node.targets := by
  induction links with
  | reference => exact List.mem_singleton_self name
  | union member _ ih =>
    rw [targets_union]
    exact List.mem_flatMap.mpr ⟨_, member, ih⟩
  | intersection member _ ih =>
    rw [targets_intersection]
    exact List.mem_flatMap.mpr ⟨_, member, ih⟩
  | negation _ ih => rwa [targets_negation]

end Nodes

/-! ## Links of entries -/

/-- The name of a slot is that by which the slot was found. -/
theorem Document.nameAt_of_slot {d : Document} {name : String} {slot : Nat}
    (found : d.names.idxOf? name = some slot) : d.nameAt slot = name := by
  obtain ⟨node, -, place⟩ := d.node?_of_slot found
  simp [nameAt, place]

theorem Document.idxOf_of_slot {d : Document} {name : String} {slot : Nat}
    (found : d.names.idxOf? name = some slot) : d.names.idxOf name = slot := by
  simp [List.idxOf_eq_getD_idxOf?, found]

namespace Registry

variable {d : Document} {r : Registry} {compiled : List (Compiled Check)}
  (built : BuiltFrom d r compiled) {name other : String} {slot target : Nat}
include built

/-- The slots that an entry leads to are those of the names that it links to. -/
theorem BuiltFrom.leads_iff (found : d.names.idxOf? name = some slot) :
    Links.Leads (compiled.map Compiled.unguarded) slot target ↔
      ∃ other, d.LinksTo name other ∧ d.names.idxOf? other = some target := by
  obtain ⟨node, schema, place⟩ := d.node?_of_slot found
  obtain ⟨c, at', compiles, -⟩ := built.slot_compiles place
  have links : Links.targets (compiled.map Compiled.unguarded) slot = c.unguarded := by
    simp [Links.targets, at']
  rw [Links.Leads, links, compiles.mem_unguarded_iff]
  simp only [Document.LinksTo, schema, Option.some.injEq, exists_eq_left']

/-- A slot that is led to is that of its name. -/
theorem BuiltFrom.slot_of_leads
    (leads : Links.Leads (compiled.map Compiled.unguarded) slot target) :
    d.names.idxOf? (d.nameAt target) = some target := by
  have inside := Links.lt_length_of_leads leads
  rw [built.length_eq] at inside
  obtain ⟨c, at', compiles, -⟩ := built.slot_compiles (List.getElem?_eq_getElem inside)
  simp only [Links.Leads, Links.targets, List.getD_eq_getElem?_getD, List.getElem?_map, at',
    Option.map_some, Option.getD_some, compiles.mem_unguarded_iff] at leads
  obtain ⟨name, -, found⟩ := leads
  rwa [Document.nameAt_of_slot found]

theorem BuiltFrom.slot_of_reach
    (reach : TransGen (Links.Leads (compiled.map Compiled.unguarded)) slot target) :
    d.names.idxOf? (d.nameAt target) = some target := by
  obtain ⟨last, -, leads⟩ := TransGen.tail'_iff.mp reach
  exact built.slot_of_leads leads

/-- Ways between slots are ways between their names. -/
theorem BuiltFrom.reach_names (start : d.names.idxOf? name = some slot)
    (reach : TransGen (Links.Leads (compiled.map Compiled.unguarded)) slot target) :
    TransGen d.LinksTo name (d.nameAt target) := by
  induction reach with
  | single leads =>
    obtain ⟨next, links, found⟩ := (built.leads_iff start).mp leads
    rw [Document.nameAt_of_slot found]
    exact .single links
  | tail before leads ih =>
    obtain ⟨next, links, found⟩ := (built.leads_iff (built.slot_of_reach before)).mp leads
    rw [Document.nameAt_of_slot found]
    exact ih.tail links

omit built in
/-- In a resolved document an entry links to entries only. -/
theorem exists_slots_of_links (resolved : d.Resolved) (links : d.LinksTo name other) :
    (∃ slot, d.names.idxOf? name = some slot) ∧ ∃ target, d.names.idxOf? other = some target := by
  obtain ⟨node, schema, links⟩ := links
  obtain ⟨slot, found, place⟩ := Document.slot_iff_node?.mp schema
  have inside : other ∈ d.names := Document.resolved_iff.mp resolved (name, node)
    (List.mem_of_getElem? place) other links.mem_targets
  exact ⟨⟨slot, found⟩, Option.isSome_iff_exists.mp (List.isSome_idxOf?.mpr inside)⟩

/-- Ways between names are ways between their slots. -/
theorem BuiltFrom.reach_slots (resolved : d.Resolved) (reach : TransGen d.LinksTo name other) :
    ∃ slot target, d.names.idxOf? name = some slot ∧ d.names.idxOf? other = some target ∧
      TransGen (Links.Leads (compiled.map Compiled.unguarded)) slot target := by
  induction reach with
  | single links =>
    obtain ⟨⟨slot, start⟩, target, found⟩ := exists_slots_of_links resolved links
    exact ⟨slot, target, start, found, .single ((built.leads_iff start).mpr ⟨_, links, found⟩)⟩
  | tail _ links ih =>
    obtain ⟨slot, middle, start, between, reach⟩ := ih
    obtain ⟨-, target, found⟩ := exists_slots_of_links resolved links
    exact ⟨slot, target, start, found,
      reach.tail ((built.leads_iff between).mpr ⟨_, links, found⟩)⟩

end Registry

/-! ## Groups of names -/

/-- The groups of names that link to each other: a name is in a group exactly if it links to itself
by one or more links, in one group only, and with those that it leads to and that lead to it. Names
in groups and the groups by their first names stand in the order of the document. -/
structure Document.CyclicGroups (d : Document) (groups : List (List String)) : Prop where
  mem_iff : ∀ name, (∃ group ∈ groups, name ∈ group) ↔ TransGen d.LinksTo name name
  together_iff : ∀ name other, (∃ group ∈ groups, name ∈ group ∧ other ∈ group) ↔
    TransGen d.LinksTo name other ∧ TransGen d.LinksTo other name
  disjoint : groups.Pairwise List.Disjoint
  ordered : ∀ group ∈ groups, group.Pairwise fun name other =>
    d.names.idxOf name < d.names.idxOf other
  ascending : groups.Pairwise fun before after => ∀ name other, before.head? = some name →
    after.head? = some other → d.names.idxOf name < d.names.idxOf other

/-- The finding on a group: it stands at the first of the group and goes round to it. -/
def Finding.GoesRound (group : List String) (f : Finding) : Prop :=
  ∃ first rest, group = first :: rest ∧
    f = ⟨first, [], .unguardedRecursion (first :: rest ++ [first])⟩

/-- No cyclic group is empty. -/
theorem Links.ne_nil_of_mem_cycles {links : Links} {group : List Nat}
    (member : group ∈ links.cycles) : group ≠ [] := by
  rintro rfl
  obtain ⟨start, -, first⟩ := mem_cycles_iff.mp member
  cases first

/-- Cyclic groups that are no error have a finding each, in their order. -/
theorem cycleFindings_goRound {d : Document} {links : Links} {found : List Finding}
    (checked : cycleFindings d.entries links links.cycles = .ok found) :
    List.Forall₂ Finding.GoesRound (links.cycles.map (List.map d.nameAt)) found := by
  have nonempty : ∀ group ∈ links.cycles, group ≠ [] := fun _ => Links.ne_nil_of_mem_cycles
  generalize links.cycles = groups at checked nonempty
  induction groups generalizing found with
  | nil =>
    cases checked
    exact .nil
  | cons group rest ih =>
    obtain ⟨first, one, checked⟩ := steps_of_ok checked
    obtain ⟨others, more, checked⟩ := steps_of_ok checked
    cases checked
    have later := ih more fun other member => nonempty other (List.mem_cons_of_mem _ member)
    cases group with
    | nil => exact absurd rfl (nonempty [] List.mem_cons_self)
    | cons start slots =>
      simp only [cycleFinding] at one
      split at one
      · cases one
      · cases one
        refine .cons ⟨d.nameAt start, slots.map d.nameAt, rfl, ?_⟩ later
        simp [Document.nameAt]

namespace Registry

variable {d : Document} {r : Registry} {compiled : List (Compiled Check)}

section Groups

variable (built : BuiltFrom d r compiled) {name other : String} {start : Nat}
include built

/-- The names in a cyclic group are those whose slots are in it. -/
theorem BuiltFrom.mem_named_iff :
    name ∈ (Links.cycleThrough (compiled.map Compiled.unguarded) start).map d.nameAt ↔
      ∃ slot ∈ Links.cycleThrough (compiled.map Compiled.unguarded) start,
        d.names.idxOf? name = some slot := by
  rw [List.mem_map]
  constructor
  · rintro ⟨slot, inside, rfl⟩
    exact ⟨slot, inside, built.slot_of_reach (Links.mem_cycleThrough_iff.mp inside).1⟩
  · rintro ⟨slot, inside, found⟩
    exact ⟨slot, inside, Document.nameAt_of_slot found⟩

/-- Names share a group exactly if each leads to the other. -/
theorem BuiltFrom.together_iff (resolved : d.Resolved) :
    (∃ group ∈ (Links.cycles (compiled.map Compiled.unguarded)).map (List.map d.nameAt),
        name ∈ group ∧ other ∈ group) ↔
      TransGen d.LinksTo name other ∧ TransGen d.LinksTo other name := by
  constructor
  · rintro ⟨group, member, own, also⟩
    obtain ⟨slots, cycle, rfl⟩ := List.mem_map.mp member
    obtain ⟨start, rfl, -⟩ := Links.mem_cycles_iff.mp cycle
    obtain ⟨slot, inside, found⟩ := built.mem_named_iff.mp own
    obtain ⟨slot', inside', found'⟩ := built.mem_named_iff.mp also
    rw [← Links.cycleThrough_congr inside] at inside'
    obtain ⟨there, back⟩ := Links.mem_cycleThrough_iff.mp inside'
    have hence := built.reach_names found there
    have hither := built.reach_names found' back
    rw [Document.nameAt_of_slot found'] at hence
    rw [Document.nameAt_of_slot found] at hither
    exact ⟨hence, hither⟩
  · rintro ⟨hence, hither⟩
    obtain ⟨slot, slot', found, found', there⟩ := built.reach_slots resolved hence
    obtain ⟨last, first, found₂, found₃, back⟩ := built.reach_slots resolved hither
    cases found'.symm.trans found₂
    cases found.symm.trans found₃
    obtain ⟨start, cycle, -, inside⟩ := Links.exists_cycle_of_reach (there.trans back)
    have inside' := Links.mem_cycleThrough_iff.mpr ⟨there, back⟩
    rw [Links.cycleThrough_congr inside] at inside'
    exact ⟨_, List.mem_map_of_mem cycle, built.mem_named_iff.mpr ⟨slot, inside, found⟩,
      built.mem_named_iff.mpr ⟨slot', inside', found'⟩⟩

/-- The cyclic groups of slots, by the names of their entries. -/
theorem BuiltFrom.cyclicGroups (resolved : d.Resolved) :
    d.CyclicGroups ((Links.cycles (compiled.map Compiled.unguarded)).map (List.map d.nameAt)) where
  mem_iff name := by
    have together := @BuiltFrom.together_iff d r compiled built name name resolved
    simpa only [and_self] using together
  together_iff name other := built.together_iff resolved
  disjoint := by
    rw [List.pairwise_map]
    refine (Links.cycles_ascending _).imp_of_mem fun {before after} memberBefore memberAfter below
      name own also => ?_
    obtain ⟨low, rfl, firstLow⟩ := Links.mem_cycles_iff.mp memberBefore
    obtain ⟨high, rfl, firstHigh⟩ := Links.mem_cycles_iff.mp memberAfter
    obtain ⟨slot, inside, found⟩ := built.mem_named_iff.mp own
    obtain ⟨slot', inside', found'⟩ := built.mem_named_iff.mp also
    -- A slot in both groups would make them the same group, with one first slot.
    cases found.symm.trans found'
    have same := (Links.cycleThrough_congr inside).symm.trans (Links.cycleThrough_congr inside')
    rw [same] at firstLow below
    exact Nat.lt_irrefl low (below low low firstLow firstLow)
  ordered group member := by
    obtain ⟨slots, cycle, rfl⟩ := List.mem_map.mp member
    obtain ⟨start, rfl, -⟩ := Links.mem_cycles_iff.mp cycle
    rw [List.pairwise_map]
    refine (Links.cycleThrough_ascending _ start).imp_of_mem
      fun {slot slot'} inside inside' below => ?_
    have found := built.slot_of_reach (Links.mem_cycleThrough_iff.mp inside).1
    have found' := built.slot_of_reach (Links.mem_cycleThrough_iff.mp inside').1
    rwa [Document.idxOf_of_slot found, Document.idxOf_of_slot found']
  ascending := by
    rw [List.pairwise_map]
    refine (Links.cycles_ascending _).imp_of_mem fun {before after} memberBefore memberAfter below
      name other first first' => ?_
    obtain ⟨low, rfl, firstLow⟩ := Links.mem_cycles_iff.mp memberBefore
    obtain ⟨high, rfl, firstHigh⟩ := Links.mem_cycles_iff.mp memberAfter
    have found := built.slot_of_reach
      (Links.mem_cycleThrough_iff.mp (List.mem_of_head? firstLow)).1
    have found' := built.slot_of_reach
      (Links.mem_cycleThrough_iff.mp (List.mem_of_head? firstHigh)).1
    simp only [List.head?_map, firstLow, firstHigh, Option.map_some, Option.some.injEq]
      at first first'
    subst first first'
    rw [Document.idxOf_of_slot found, Document.idxOf_of_slot found']
    exact below low high firstLow firstHigh

end Groups

/-- The findings of a build on recursion are the groups of entries that link to each other without
an array or object between. They come after all other findings. -/
theorem recursion_findings {options : Options} (d : Document) (r : Registry)
    (built : build options d = .ok r) :
    ∃ others recursions groups,
      r.findings = d.findings ++ others ++ recursions ∧
      (∀ f ∈ others, ∀ cycle, f.kind ≠ .unguardedRecursion cycle) ∧
      (∀ source, Document.ofJson source = .ok d →
        ∀ f ∈ d.findings, ∀ cycle, f.kind ≠ .unguardedRecursion cycle) ∧
      List.Forall₂ Finding.GoesRound groups recursions ∧ d.CyclicGroups groups := by
  have resolved := resolved_of_build built
  obtain ⟨compiled, from'⟩ := builtFrom_of_build built
  obtain ⟨recursions, checked, findings⟩ := from'.cycles
  refine ⟨_, recursions, _, findings, ?_, ?_, cycleFindings_goRound checked,
    from'.cyclicGroups resolved⟩
  · intro f member
    have remarked := from'.findings_perm.mem_iff.mp member
    obtain ⟨entry, -, inside⟩ := List.mem_flatMap.mp remarked
    obtain ⟨-, node, -, remark⟩ := mem_remarksAt_iff.mp inside
    exact Node.remark_ne_recursion remark
  · intro source read f member cycle
    obtain ⟨kept, ignored, kind⟩ := Document.findings_of_ofJson read f member
    simp [kind]

/-- Two entries that link to each other, one of them also behind an array, one that links to itself,
and one that only leads there. -/
def braided : Document :=
  ⟨[("Root", .reference "Tree"),
    ("Tree", .union .anyOf [.array (.reference "Root") {} false, .negation (.reference "Leaf")]),
    ("Self", .intersection [.reference "Self", .plain .null]),
    ("Leaf", .union .oneOf [.reference "Tree", .reference "Self"])], []⟩

theorem braided_goes_round :
    ∃ r, build {} braided = .ok r ∧
      r.findings = [⟨"Tree", [], .unguardedRecursion ["Tree", "Leaf", "Tree"]⟩,
        ⟨"Self", [], .unguardedRecursion ["Self", "Self"]⟩] ∧
      ∃ others recursions groups, r.findings = braided.findings ++ others ++ recursions ∧
        List.Forall₂ Finding.GoesRound groups recursions ∧ braided.CyclicGroups groups := by
  refine ⟨_, rfl, rfl, ?_⟩
  obtain ⟨others, recursions, groups, findings, -, -, goRound, cyclic⟩ :=
    recursion_findings braided _ (rfl : build {} braided = .ok _)
  exact ⟨others, recursions, groups, findings, goRound, cyclic⟩

end Registry
end DataSchema
