import DataSchema.Proofs.Recursion

/-!
What a finding on recursion shows. Its list goes from each name to the next by links among the
listed names, and comes back to the first. With one or two names each step is a single link, but
with three the names stand in the order of the document, and a step may take several links.
-/
namespace DataSchema

open Relation

namespace Document

variable {d : Document} {names group : List String} {groups : List (List String)}
  {name other : String}

/-- The entry of the first name links to the second name, and both are among some names. -/
def LinksWithin (d : Document) (names : List String) (name other : String) : Prop :=
  d.LinksTo name other ∧ name ∈ names ∧ other ∈ names

/-- The list comes back to its first name. From each name to the next lead links that do not leave
the list, and where no more than two names are listed, a single one. -/
structure LeadsRound (d : Document) (cycle : List String) : Prop where
  closed : ∃ first between, cycle = first :: between ++ [first]
  onward : cycle.IsChain (TransGen (d.LinksWithin cycle))
  direct : cycle.length ≤ 3 → cycle.IsChain d.LinksTo

/-- A way among two names alone that leads from one to the other has a link between them. -/
theorem linksTo_of_reach (two : ∀ third ∈ names, third = name ∨ third = other)
    (reach : TransGen (d.LinksWithin names) name other) : d.LinksTo name other := by
  induction reach with
  | single links => exact links.1
  | tail _ links ih =>
    rcases two _ links.2.1 with rfl | rfl
    · exact links.1
    · exact ih two

namespace CyclicGroups

variable (cyclic : d.CyclicGroups groups) (member : group ∈ groups) (own : name ∈ group)
include cyclic member own

/-- A group holds the names that lead to one of its names and that this one leads to. -/
theorem mem_group_iff :
    other ∈ group ↔ TransGen d.LinksTo name other ∧ TransGen d.LinksTo other name := by
  rw [← cyclic.together_iff name other]
  constructor
  · exact fun inside => ⟨group, member, own, inside⟩
  · rintro ⟨group', member', own', inside⟩
    by_contra outside
    have different : group ≠ group' := by
      rintro rfl
      exact outside inside
    have symmetric : Std.Symm (List.Disjoint (α := String)) := ⟨fun _ _ => List.Disjoint.symm⟩
    exact cyclic.disjoint.forall member member' different own own'

/-- No way between two names of a group leaves it. -/
theorem reach_within (inside : other ∈ group) :
    TransGen (d.LinksWithin group) name other := by
  obtain ⟨there, back⟩ := (cyclic.mem_group_iff member own).mp inside
  induction there using TransGen.head_induction_on with
  | single links => exact .single ⟨links, own, inside⟩
  | @head start next links onward ih =>
    have within : next ∈ group :=
      (cyclic.mem_group_iff member own).mpr ⟨.single links, onward.trans back⟩
    exact .head ⟨links, own, within⟩ (ih within (back.tail links))

end CyclicGroups

/-- The list of a finding on a group leads round it. -/
theorem LeadsRound.of_group {first : String} {rest : List String}
    (cyclic : d.CyclicGroups groups) (member : first :: rest ∈ groups) :
    d.LeadsRound (first :: rest ++ [first]) := by
  have among (third : String) : third ∈ first :: rest ++ [first] ↔ third ∈ first :: rest := by
    simp [or_comm]
  have within (a b : String) (links : d.LinksWithin (first :: rest) a b) :
      d.LinksWithin (first :: rest ++ [first]) a b :=
    ⟨links.1, (among a).mpr links.2.1, (among b).mpr links.2.2⟩
  have onward : (first :: rest ++ [first]).IsChain
      (TransGen (d.LinksWithin (first :: rest ++ [first]))) := by
    refine (List.pairwise_of_forall_mem_list fun name own other inside => ?_).isChain
    have reach := cyclic.reach_within member ((among name).mp own) ((among other).mp inside)
    exact TransGen.mono within _ _ reach
  refine ⟨⟨first, rest, rfl⟩, onward, fun short => ?_⟩
  match rest with
  | [] =>
    have again := List.isChain_pair.mp onward
    exact List.isChain_pair.mpr (linksTo_of_reach (by simp) again)
  | [second] =>
    obtain ⟨there, back⟩ := List.isChain_cons_cons.mp onward
    have hence : d.LinksTo first second := linksTo_of_reach (by simp) there
    have hither : d.LinksTo second first :=
      linksTo_of_reach (by simp) (List.isChain_pair.mp back)
    exact List.isChain_cons_cons.mpr ⟨hence, List.isChain_pair.mpr hither⟩
  | _ :: _ :: _ =>
    simp only [List.length_append, List.length_cons] at short
    omega

end Document

namespace Registry

variable {options : Options} {d : Document} {r : Registry} {compiled : List (Compiled Check)}

/-- What is found in the entries themselves is not on recursion. -/
theorem BuiltFrom.kind_ne_recursion (built : BuiltFrom d r compiled) {f : Finding}
    (found : f ∈ compiled.flatMap Compiled.findings) (cycle : List String) :
    f.kind ≠ .unguardedRecursion cycle := by
  obtain ⟨entry, -, inside⟩ := List.mem_flatMap.mp (built.findings_perm.mem_iff.mp found)
  obtain ⟨-, node, -, remark⟩ := mem_remarksAt_iff.mp inside
  exact Node.remark_ne_recursion remark cycle

/-- Every finding on recursion of a build lists names that lead round to the first, among themselves
and without an array or object between. A document that was read from a source has no such finding
before. -/
theorem recursion_leads_round (options : Options) (d : Document) (r : Registry)
    (built : build options d = .ok r) :
    (∃ found, r.findings = d.findings ++ found ∧
      ∀ f ∈ found, ∀ cycle, f.kind = .unguardedRecursion cycle → d.LeadsRound cycle) ∧
    ∀ source, Document.ofJson source = .ok d →
      ∀ f ∈ d.findings, ∀ cycle, f.kind ≠ .unguardedRecursion cycle := by
  constructor
  · have resolved := resolved_of_build built
    obtain ⟨compiled, from'⟩ := builtFrom_of_build built
    obtain ⟨recursions, checked, findings⟩ := from'.cycles
    rw [List.append_assoc] at findings
    refine ⟨_, findings, fun f member cycle kind => ?_⟩
    rcases List.mem_append.mp member with inEntries | inCycles
    · exact absurd kind (from'.kind_ne_recursion inEntries cycle)
    · obtain ⟨group, among, first, rest, rfl, rfl⟩ :=
        forall₂_mem_right (cycleFindings_goRound checked) inCycles
      cases kind
      exact .of_group (from'.cyclicGroups resolved) among
  · intro source read f member cycle
    obtain ⟨kept, ignored, kind⟩ := Document.findings_of_ofJson read f member
    simp [kind]

/-- Three entries that link to each other against the order of the document. -/
def backward : Document :=
  ⟨[("A", .union .anyOf [.reference "C", .plain .string]),
    ("B", .union .anyOf [.reference "A", .plain .string]),
    ("C", .union .anyOf [.reference "B", .plain .string])], []⟩

theorem backward_leads_round :
    ∃ r, build {} backward = .ok r ∧
      r.findings = [⟨"A", [], .unguardedRecursion ["A", "B", "C", "A"]⟩] ∧
      backward.LeadsRound ["A", "B", "C", "A"] := by
  refine ⟨_, rfl, rfl, ?_⟩
  obtain ⟨⟨found, findings, each⟩, -⟩ :=
    recursion_leads_round {} backward _ (rfl : build {} backward = .ok _)
  cases findings
  exact each _ (List.mem_singleton_self _) _ rfl

/-- The list goes from a name to one that its entry has no reference to. -/
theorem backward_is_listed_forward :
    ∃ r, build {} backward = .ok r ∧
      r.findings = [⟨"A", [], .unguardedRecursion ["A", "B", "C", "A"]⟩] ∧
      ¬ backward.LinksTo "A" "B" := by
  refine ⟨_, rfl, rfl, ?_⟩
  have only {target : String} (links : (Node.reference target).LinksTo "B") : target = "B" := by
    cases links
    rfl
  rintro ⟨node, found, links⟩
  cases found
  cases links with
  | union member inside =>
    rcases List.mem_pair.mp member with rfl | rfl
    · exact absurd (only inside) (by decide)
    · cases inside

end Registry
end DataSchema
