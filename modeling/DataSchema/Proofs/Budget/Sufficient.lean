import DataSchema.Proofs.Compilation
import DataSchema.Proofs.Links.Cycles

/-!
Budgets that are large enough. Between two steps down into a value a run can only follow unguarded
references, and where these have no cycle each of them leads to a slot of lesser rank. So a run
takes at most one level for each entry and one more at every height of the value, and a document
without a finding on recursion never uses up a budget of that many levels.
-/
namespace DataSchema

/-! ## Heights -/

mutual

/-- How deep a value is nested: scalars and empty containers are of height 0. -/
def Json.height : Json → Nat
  | .array items => Json.itemsHeight items
  | .object members => Json.membersHeight members
  | _ => 0

def Json.itemsHeight : List Json → Nat
  | [] => 0
  | item :: rest => max (item.height + 1) (Json.itemsHeight rest)

def Json.membersHeight : List (String × Json) → Nat
  | [] => 0
  | (_, value) :: rest => max (value.height + 1) (Json.membersHeight rest)

end

theorem Json.height_lt_of_item {item : Json} {items : List Json} (member : item ∈ items) :
    item.height < (Json.array items).height := by
  rw [Json.height]
  induction items with
  | nil => cases member
  | cons head rest ih =>
    rw [Json.itemsHeight]
    rcases List.mem_cons.mp member with rfl | later
    · omega
    · have smaller := ih later
      omega

theorem Json.height_lt_of_member {m : String × Json} {members : Members} (member : m ∈ members) :
    m.2.height < (Json.object members).height := by
  rw [Json.height]
  induction members with
  | nil => cases member
  | cons head rest ih =>
    rw [Json.membersHeight]
    rcases List.mem_cons.mp member with rfl | later
    · omega
    · have smaller := ih later
      omega

namespace Check

variable {names : List String} {setting : Setting} {down : Descent} {value : Json} {path : Path}

/-- An overrun behind one of these references, or in a part of the value. -/
def OverrunBelow (names : List String) (setting : Setting) (down : Descent) (value : Json)
    (path : Path) (unguarded : List Nat) : Prop :=
  (∃ slot ∈ unguarded, Overrun (down (setting.slots.getD slot .any) value path)) ∨
  ∃ part place node check, part.height < value.height ∧ HasCheck names node check ∧
    Overrun (down check part place)

/-- What is below a branch is below the combination. -/
private theorem OverrunBelow.of_branches {branches : List Node} {parts : List (Compiled Check)}
    (each : List.Forall₂ (CompilesTo names) branches parts)
    (source : ∀ branch ∈ branches, ∀ {c}, CompilesTo names branch c →
      Overrun (evalWith setting down c.value value path) →
      OverrunBelow names setting down value path c.unguarded)
    (deep : ∃ check ∈ parts.map Compiled.value,
      Overrun (evalWith setting down check value path)) :
    OverrunBelow names setting down value path (parts.flatMap Compiled.unguarded) := by
  obtain ⟨check, member, deep⟩ := deep
  obtain ⟨part, inside, rfl⟩ := List.mem_map.mp member
  obtain ⟨branch, among, compiles⟩ := forall₂_mem_right each inside
  refine (source branch among compiles deep).imp ?_ id
  rintro ⟨slot, own, found⟩
  exact ⟨slot, List.mem_flatMap.mpr ⟨part, inside, own⟩, found⟩

/-- One level of a compiled check has an overrun only if following an unguarded reference has one,
or checking a part of the value. -/
theorem overrun_source {node : Node} {c : Compiled Check} (compiles : CompilesTo names node c)
    (deep : Overrun (evalWith setting down c.value value path)) :
    OverrunBelow names setting down value path c.unguarded := by
  induction node generalizing c with
  | scalar kind format constraints =>
    have isLeaf : (scalarCheck kind format constraints).isLeaf = true := by cases kind <;> rfl
    rw [compiles.scalar.1] at deep
    exact absurd deep (not_overrun_of_leaf isLeaf)
  | enum values =>
    rw [compiles.enum.1] at deep
    exact absurd deep (not_overrun_of_leaf rfl)
  | unknown token raw =>
    rw [compiles.unknown.1] at deep
    exact absurd deep (not_overrun_of_leaf rfl)
  | array items count unique =>
    obtain ⟨check, has, isArray, -⟩ := compiles.array
    rw [isArray, overrun_array_iff] at deep
    obtain ⟨list, rfl, entry, member, found⟩ := deep
    exact .inr ⟨entry.1, _, items, check,
      Json.height_lt_of_item (List.fst_mem_of_mem_zipIdx member), has, found⟩
  | object properties required count additional =>
    obtain ⟨declared, extra, each, others, isObject, -⟩ := compiles.object
    rw [isObject, overrun_object_iff] at deep
    obtain ⟨members, rfl, m, member, check, given, found⟩ := deep
    obtain ⟨node, -, has⟩ := memberNode?_of_check each others given
    exact .inr ⟨m.2, _, node, check, Json.height_lt_of_member member, has, found⟩
  | union mode branches ih =>
    obtain ⟨parts, each, isUnion, unguarded⟩ := compiles.union
    rw [isUnion] at deep
    rw [unguarded]
    apply OverrunBelow.of_branches each (fun branch among => ih branch among)
    cases mode with
    | anyOf => exact Overrun.of_anyOf deep
    | oneOf => exact overrun_oneOf_iff.mp deep
  | intersection branches ih =>
    obtain ⟨parts, each, isIntersection, unguarded⟩ := compiles.intersection
    rw [isIntersection] at deep
    rw [unguarded]
    exact .of_branches each (fun branch among => ih branch among) (overrun_allOf_iff.mp deep)
  | negation inner ih =>
    obtain ⟨part, compilesInner, isNegation, unguarded⟩ := compiles.negation
    rw [isNegation, overrun_negation_iff] at deep
    rw [unguarded]
    exact ih compilesInner deep
  | reference name =>
    obtain ⟨slot, -, isRef, unguarded⟩ := compiles.reference
    rw [isRef] at deep
    exact .inl ⟨slot, by simp [unguarded], deep⟩

end Check

/-! ## Levels that are enough -/

namespace Registry

variable {d : Document} {r : Registry} {compiled : List (Compiled Check)}

theorem BuiltFrom.length_eq (built : BuiltFrom d r compiled) :
    (compiled.map Compiled.unguarded : Links).length = d.entries.length := by
  rw [List.length_map]
  exact built.entries.length_eq.symm

/-- A run keeps within its budget if the budget has a level for each reference that may be followed
before the next step down, and one for each entry and one more at every height of the value. -/
theorem BuiltFrom.run_within (built : BuiltFrom d r compiled)
    (acyclic : Links.cycles (compiled.map Compiled.unguarded) = []) {levels : Nat} (chain : Nat)
    {node : Node} {c : Compiled Check} {value : Json} {path : Path}
    (compiles : CompilesTo d.names node c) (chainLe : chain ≤ d.entries.length)
    (ranks : ∀ slot ∈ c.unguarded, Links.rank (compiled.map Compiled.unguarded) slot < chain)
    (enough : chain + value.height * (d.entries.length + 1) < levels) :
    ¬ Check.Overrun (Check.run r.setting levels c.value value path) := by
  induction levels generalizing chain node c value path with
  | zero => omega
  | succ levels ih =>
    intro deep
    have inside : ∀ slot, slot < d.names.length → slot < d.entries.length := by
      simp [Document.names]
    rcases Check.overrun_source compiles deep with
      ⟨slot, own, found⟩ | ⟨part, place, node', check, smaller, ⟨c', compiles', rfl⟩, found⟩
    · -- The reference leads to an entry whose own references are of lesser rank.
      have slotInside := inside slot (compiles.unguarded_lt slot own)
      obtain ⟨c', at', compiles', isCheck⟩ :=
        built.slot_compiles (List.getElem?_eq_getElem slotInside)
      have links : Links.targets (compiled.map Compiled.unguarded) slot = c'.unguarded := by
        simp [Links.targets, at']
      have rankSlot := ranks slot own
      refine ih (Links.rank (compiled.map Compiled.unguarded) slot) compiles' (by omega) ?_
        (by omega) (isCheck ▸ found)
      intro target member
      refine Links.rank_lt_of_leads acyclic (by rwa [Links.Leads, links]) ?_
      rw [built.length_eq]
      exact inside target (compiles'.unguarded_lt target member)
    · -- A part of the value is less high, and any chain of references may follow.
      have below : (part.height + 1) * (d.entries.length + 1) ≤
          value.height * (d.entries.length + 1) := Nat.mul_le_mul_right _ smaller
      rw [Nat.succ_mul] at below
      refine ih d.entries.length compiles' (Nat.le_refl _) ?_ (by omega) found
      intro target member
      rw [← built.length_eq]
      apply Links.rank_lt_length acyclic
      rw [built.length_eq]
      exact inside target (compiles'.unguarded_lt target member)

/-- Every cyclic group that is no error leaves a finding on recursion. -/
theorem exists_recursion_finding {entries : List (String × Node)} {links : Links}
    {groups : List (List Nat)} {found : List Finding}
    (checked : cycleFindings entries links groups = .ok found) {group : List Nat}
    (member : group ∈ groups) (nonempty : group ≠ []) :
    ∃ finding ∈ found, ∃ cycle, finding.kind = .unguardedRecursion cycle := by
  induction groups generalizing found with
  | nil => cases member
  | cons head rest ih =>
    obtain ⟨first, one, checked⟩ := steps_of_ok checked
    obtain ⟨others, more, checked⟩ := steps_of_ok checked
    cases checked
    rcases List.mem_cons.mp member with rfl | later
    · cases group with
      | nil => exact absurd rfl nonempty
      | cons start slots =>
        simp only [cycleFinding] at one
        split at one
        · cases one
        · cases one
          exact ⟨_, List.mem_append_left _ List.mem_cons_self, _, rfl⟩
    · obtain ⟨finding, inside, isRecursion⟩ := ih more later
      exact ⟨finding, by simp [inside], isRecursion⟩

theorem BuiltFrom.acyclic (built : BuiltFrom d r compiled)
    (quiet : ∀ finding ∈ r.findings, ∀ cycle, finding.kind ≠ .unguardedRecursion cycle) :
    Links.cycles (compiled.map Compiled.unguarded) = [] := by
  obtain ⟨cyclic, checked, findings⟩ := built.cycles
  rw [List.eq_nil_iff_forall_not_mem]
  intro group member
  obtain ⟨start, -, first⟩ := Links.mem_cycles_iff.mp member
  have nonempty : group ≠ [] := by
    rintro rfl
    cases first
  obtain ⟨finding, inside, cycle, isRecursion⟩ := exists_recursion_finding checked member nonempty
  exact quiet finding (by simp [findings, inside]) cycle isRecursion

/-- Where the build finds no unguarded recursion, a budget of one level for each entry and one more
at every height of the value is never used up. -/
theorem outcome_within_sufficient_budget (options : Options) (d : Document) (r : Registry)
    (built : build options d = .ok r)
    (quiet : ∀ finding ∈ r.findings, ∀ cycle, finding.kind ≠ .unguardedRecursion cycle)
    (value : Json) (enough : (value.height + 1) * (d.entries.length + 1) ≤ options.maxDepth) :
    ∀ name ∈ d.names, ∃ outcome, r.validate? name value = some outcome ∧
      outcome.depthExceeded = false := by
  intro name member
  obtain ⟨compiled, from'⟩ := builtFrom_of_build built
  have acyclic := from'.acyclic quiet
  obtain ⟨slot, found⟩ := Option.isSome_iff_exists.mp (List.isSome_idxOf?.mpr member)
  have inside : slot < d.entries.length := by
    simpa [Document.names] using (List.idxOf?_eq_some_iff.mp found).choose
  obtain ⟨c, -, compiles, isCheck⟩ := from'.slot_compiles (List.getElem?_eq_getElem inside)
  have within : ¬ Check.Overrun (Check.run r.setting (options.maxDepth + 1) c.value value []) := by
    apply from'.run_within acyclic d.entries.length compiles (Nat.le_refl _)
    · intro target own
      rw [← from'.length_eq]
      apply Links.rank_lt_length acyclic
      simpa [from'.length_eq, Document.names] using compiles.unguarded_lt target own
    · rw [Nat.succ_mul] at enough
      omega
  refine ⟨r.validateSlot slot value, by simp [validate?, slot?, from'.names, found], ?_⟩
  have depth : r.setting.maxDepth = options.maxDepth := by rw [setting, options_of_build built]
  rw [validateSlot, isCheck, ← Bool.not_eq_true, Check.depthExceeded_outcome_iff, depth]
  exact within

/-- Three entries that refer to each other on the way to a list, and only there in a cycle. -/
def guardedRecursion : Document :=
  ⟨[("Choice", .union .oneOf [.reference "Other", .plain .null]),
    ("Other", .negation (.reference "List")),
    ("List", .array (.reference "Choice") {} false)], []⟩

/-- A list in a list is of height two, so twelve levels are enough for three entries. -/
theorem guarded_recursion_within_budget :
    ∃ r, build ⟨12, .passthrough⟩ guardedRecursion = .ok r ∧
      (∀ finding ∈ r.findings, ∀ cycle, finding.kind ≠ .unguardedRecursion cycle) ∧
      ((Json.array [.array [.null]]).height + 1) * (guardedRecursion.entries.length + 1) ≤ 12 ∧
      ∃ outcome, r.validate? "Choice" (.array [.array [.null]]) = some outcome ∧
        outcome.depthExceeded = false := by
  have enough : ((Json.array [.array [.null]]).height + 1) *
      (guardedRecursion.entries.length + 1) ≤ 12 := by decide
  refine ⟨_, rfl, ?_, enough, ?_⟩
  · exact fun finding member => absurd member List.not_mem_nil
  · exact outcome_within_sufficient_budget ⟨12, .passthrough⟩ guardedRecursion _ rfl
      (fun finding member => absurd member List.not_mem_nil) _ enough "Choice" (by decide)

end Registry
end DataSchema
