import DataSchema.Proofs.Evaluation
import DataSchema.Proofs.Related
import DataSchema.Proofs.Tree
import DataSchema.Registry

/-!
What compilation makes of each kind of node. A check depends on the names of the entries only and
not on where its node stands, so each kind has one statement on its check, the checks of its parts
and the references that are left unguarded. Entries come out in their order, one check for each.
-/
namespace DataSchema

/-- Work that succeeds has succeeded in its first step and in what follows. -/
theorem steps_of_ok {ε α β : Type} {first : Except ε α} {next : α → Except ε β} {result : β}
    (h : first.bind next = .ok result) : ∃ x, first = .ok x ∧ next x = .ok result := by
  cases first with
  | error e => cases h
  | ok x => exact ⟨x, rfl, h⟩

/-- Work that fails has failed in its first step or in what follows. -/
theorem steps_of_error {ε α β : Type} {first : Except ε α} {next : α → Except ε β} {e : ε}
    (h : first.bind next = .error e) :
    first = .error e ∨ ∃ x, first = .ok x ∧ next x = .error e := by
  cases first with
  | error other =>
    cases h
    exact .inl rfl
  | ok x => exact .inr ⟨x, rfl, h⟩

/-- A node compiles to this check among entries of these names, wherever it stands. -/
def CompilesTo (names : List String) (node : Node) (c : Compiled Check) : Prop :=
  ∃ entry pointer, compileNode ⟨names, entry, pointer⟩ node = .ok c

/-- A node has this check, whatever was found on the way. -/
def HasCheck (names : List String) (node : Node) (check : Check) : Prop :=
  ∃ c, CompilesTo names node c ∧ c.value = check

variable {names : List String} {c : Compiled Check}

/-- The check of a scalar node with its refinements. -/
def scalarCheck (kind : ScalarKind) (format : Option Format) (constraints : Constraints) : Check :=
  match kind with
  | .string => .string (StringRule.draft format constraints).1
  | .number => .number false (NumberRule.draft .number format constraints).1
  | .integer => .number true (NumberRule.draft .integer format constraints).1
  | .boolean => .boolean
  | .null => .null

theorem CompilesTo.scalar {kind : ScalarKind} {format : Option Format} {constraints : Constraints}
    (h : CompilesTo names (.scalar kind format constraints) c) :
    c.value = scalarCheck kind format constraints ∧ c.unguarded = [] := by
  obtain ⟨entry, pointer, h⟩ := h
  cases h
  cases kind <;> exact ⟨rfl, rfl⟩

theorem CompilesTo.enum {values : List Json} (h : CompilesTo names (.enum values) c) :
    c.value = .enum values ∧ c.unguarded = [] := by
  obtain ⟨entry, pointer, h⟩ := h
  cases h
  exact ⟨rfl, rfl⟩

theorem CompilesTo.unknown {token : Option String} {raw : Json}
    (h : CompilesTo names (.unknown token raw) c) : c.value = .any ∧ c.unguarded = [] := by
  obtain ⟨entry, pointer, h⟩ := h
  cases h
  exact ⟨rfl, rfl⟩

/-- A reference is the slot of the first entry of its name, and is unguarded. -/
theorem CompilesTo.reference {name : String} (h : CompilesTo names (.reference name) c) :
    ∃ slot, names.idxOf? name = some slot ∧ c.value = .ref slot ∧ c.unguarded = [slot] := by
  obtain ⟨entry, pointer, h⟩ := h
  simp only [compileNode] at h
  split at h
  · rename_i slot found
    cases h
    exact ⟨slot, found, rfl, rfl⟩
  · cases h

theorem CompilesTo.array {items : Node} {count : CountRange} {unique : Bool}
    (h : CompilesTo names (.array items count unique) c) :
    ∃ check, HasCheck names items check ∧
      c.value = .array check (ArrayRule.draft count unique).1 ∧ c.unguarded = [] := by
  obtain ⟨entry, pointer, h⟩ := h
  obtain ⟨inner, compiled, h⟩ := steps_of_ok h
  cases h
  exact ⟨inner.value, ⟨inner, ⟨_, _, compiled⟩, rfl⟩, rfl, rfl⟩

theorem CompilesTo.negation {inner : Node} (h : CompilesTo names (.negation inner) c) :
    ∃ part, CompilesTo names inner part ∧ c.value = .negation part.value ∧
      c.unguarded = part.unguarded := by
  obtain ⟨entry, pointer, h⟩ := h
  obtain ⟨part, compiled, h⟩ := steps_of_ok h
  cases h
  exact ⟨part, ⟨_, _, compiled⟩, rfl, rfl⟩

private theorem compileBranches_ok {entry : String} {pointer : List String} {branches : List Node}
    {index : Nat} {out : Compiled (List Check)}
    (h : compileBranches ⟨names, entry, pointer⟩ index branches = .ok out) :
    ∃ parts, List.Forall₂ (CompilesTo names) branches parts ∧
      out.value = parts.map Compiled.value ∧ out.unguarded = parts.flatMap Compiled.unguarded := by
  induction branches generalizing index out with
  | nil =>
    cases h
    exact ⟨[], .nil, rfl, rfl⟩
  | cons node rest ih =>
    obtain ⟨part, compiled, h⟩ := steps_of_ok h
    obtain ⟨others, compiledRest, h⟩ := steps_of_ok h
    cases h
    obtain ⟨parts, each, values, unguarded⟩ := ih compiledRest
    refine ⟨part :: parts, .cons ⟨_, _, compiled⟩ each, ?_, ?_⟩
    · simp [Compiled.pair, values]
    · simp [Compiled.pair, unguarded]

theorem CompilesTo.union {mode : UnionMode} {branches : List Node}
    (h : CompilesTo names (.union mode branches) c) :
    ∃ parts, List.Forall₂ (CompilesTo names) branches parts ∧
      c.value = .union mode (parts.map Compiled.value) ∧
      c.unguarded = parts.flatMap Compiled.unguarded := by
  obtain ⟨entry, pointer, h⟩ := h
  obtain ⟨out, compiled, h⟩ := steps_of_ok h
  cases h
  obtain ⟨parts, each, values, unguarded⟩ := compileBranches_ok compiled
  exact ⟨parts, each, congrArg (Check.union mode) values, unguarded⟩

theorem CompilesTo.intersection {branches : List Node}
    (h : CompilesTo names (.intersection branches) c) :
    ∃ parts, List.Forall₂ (CompilesTo names) branches parts ∧
      c.value = .intersection (parts.map Compiled.value) ∧
      c.unguarded = parts.flatMap Compiled.unguarded := by
  obtain ⟨entry, pointer, h⟩ := h
  obtain ⟨out, compiled, h⟩ := steps_of_ok h
  cases h
  obtain ⟨parts, each, values, unguarded⟩ := compileBranches_ok compiled
  exact ⟨parts, each, congrArg Check.intersection values, unguarded⟩

/-- A declared member keeps its name and has the check of its schema. -/
def HasProperty (names : List String) (property : String × Node) (check : String × Check) : Prop :=
  property.1 = check.1 ∧ HasCheck names property.2 check.2

private theorem compileProperties_ok {entry : String} {pointer : List String}
    {properties : List (String × Node)} {out : Compiled (List (String × Check))}
    (h : compileProperties ⟨names, entry, pointer⟩ properties = .ok out) :
    List.Forall₂ (HasProperty names) properties out.value := by
  induction properties generalizing out with
  | nil =>
    cases h
    exact .nil
  | cons property rest ih =>
    obtain ⟨name, node⟩ := property
    obtain ⟨part, compiled, h⟩ := steps_of_ok h
    obtain ⟨others, compiledRest, h⟩ := steps_of_ok h
    cases h
    exact .cons ⟨rfl, part, ⟨_, _, compiled⟩, rfl⟩ (ih compiledRest)

/-- What undeclared members are given: the check of a schema for them, or a verdict. -/
inductive HasExtra (names : List String) (count : CountRange) : Additional Node → Extra Check → Prop
  | closed (additional : Additional Node) (closed : additional.isClosed count = true) :
      HasExtra names count additional .reject
  | allowed (opened : (Additional.allow : Additional Node).isClosed count = false) :
      HasExtra names count .allow .allow
  | checked (node : Node) (check : Check) (has : HasCheck names node check) :
      HasExtra names count (.schema node) (.check check)

private theorem compileAdditional_ok {entry : String} {pointer : List String} {count : CountRange}
    {additional : Additional Node} {out : Compiled (Extra Check)}
    (h : compileAdditional ⟨names, entry, pointer⟩ count additional = .ok out) :
    HasExtra names count additional out.value := by
  cases additional with
  | allow =>
    cases h
    cases closed : (Additional.allow : Additional Node).isClosed count with
    | true => simpa [closed] using HasExtra.closed Additional.allow closed
    | false => simpa [closed] using HasExtra.allowed closed
  | deny =>
    cases h
    exact .closed .deny rfl
  | schema node =>
    obtain ⟨part, compiled, h⟩ := steps_of_ok h
    cases h
    exact .checked node part.value ⟨part, ⟨_, _, compiled⟩, rfl⟩

theorem CompilesTo.object {properties : List (String × Node)} {required : List String}
    {count : CountRange} {additional : Additional Node}
    (h : CompilesTo names (.object properties required count additional) c) :
    ∃ declared extra,
      List.Forall₂ (HasProperty names) properties declared ∧
      HasExtra names count additional extra ∧
      c.value = .object declared required extra (ObjectRule.draft count).1 ∧
      c.unguarded = [] := by
  obtain ⟨entry, pointer, h⟩ := h
  obtain ⟨declared, compiled, h⟩ := steps_of_ok h
  obtain ⟨extra, compiledExtra, h⟩ := steps_of_ok h
  cases h
  exact ⟨declared.value, extra.value, compileProperties_ok compiled,
    compileAdditional_ok compiledExtra, rfl, rfl⟩

/-- A list of parts that compile has their checks. -/
theorem HasCheck.of_parts {names : List String} {nodes : List Node} {parts : List (Compiled Check)}
    (each : List.Forall₂ (CompilesTo names) nodes parts) :
    List.Forall₂ (HasCheck names) nodes (parts.map Compiled.value) := by
  rw [List.forall₂_map_right_iff]
  exact each.imp fun node c compiles => ⟨c, compiles, rfl⟩

/-- What the check of each kind of node looks like. -/
inductive CheckForm (names : List String) : Node → Check → Prop
  | string {format constraints} : CheckForm names (.scalar .string format constraints)
      (.string (StringRule.draft format constraints).1)
  | number {format constraints} : CheckForm names (.scalar .number format constraints)
      (.number false (NumberRule.draft .number format constraints).1)
  | integer {format constraints} : CheckForm names (.scalar .integer format constraints)
      (.number true (NumberRule.draft .integer format constraints).1)
  | boolean {format constraints} : CheckForm names (.scalar .boolean format constraints) .boolean
  | null {format constraints} : CheckForm names (.scalar .null format constraints) .null
  | enum {values} : CheckForm names (.enum values) (.enum values)
  | array {items check count unique} (inner : HasCheck names items check) :
      CheckForm names (.array items count unique) (.array check (ArrayRule.draft count unique).1)
  | object {properties declared required count additional extra}
      (each : List.Forall₂ (HasProperty names) properties declared)
      (others : HasExtra names count additional extra) :
      CheckForm names (.object properties required count additional)
        (.object declared required extra (ObjectRule.draft count).1)
  | union {mode branches checks} (each : List.Forall₂ (HasCheck names) branches checks) :
      CheckForm names (.union mode branches) (.union mode checks)
  | intersection {branches checks} (each : List.Forall₂ (HasCheck names) branches checks) :
      CheckForm names (.intersection branches) (.intersection checks)
  | negation {inner check} (part : HasCheck names inner check) :
      CheckForm names (.negation inner) (.negation check)
  | reference {name slot} (found : names.idxOf? name = some slot) :
      CheckForm names (.reference name) (.ref slot)
  | unknown {token raw} : CheckForm names (.unknown token raw) .any

theorem HasCheck.form {names : List String} {node : Node} {check : Check}
    (has : HasCheck names node check) : CheckForm names node check := by
  obtain ⟨c, compiles, rfl⟩ := has
  cases node with
  | scalar kind format constraints =>
    rw [compiles.scalar.1]
    cases kind with
    | string => exact .string
    | number => exact .number
    | integer => exact .integer
    | boolean => exact .boolean
    | null => exact .null
  | enum values => exact compiles.enum.1 ▸ .enum
  | unknown token raw => exact compiles.unknown.1 ▸ .unknown
  | reference name =>
    obtain ⟨slot, found, eq, -⟩ := compiles.reference
    exact eq ▸ .reference found
  | array items count unique =>
    obtain ⟨check, inner, eq, -⟩ := compiles.array
    exact eq ▸ .array inner
  | object properties required count additional =>
    obtain ⟨declared, extra, each, others, eq, -⟩ := compiles.object
    exact eq ▸ .object each others
  | union mode branches =>
    obtain ⟨parts, each, eq, -⟩ := compiles.union
    exact eq ▸ .union (HasCheck.of_parts each)
  | intersection branches =>
    obtain ⟨parts, each, eq, -⟩ := compiles.intersection
    exact eq ▸ .intersection (HasCheck.of_parts each)
  | negation inner =>
    obtain ⟨part, compiled, eq, -⟩ := compiles.negation
    exact eq ▸ .negation ⟨part, compiled, rfl⟩

/-- The schema of a member: the declared one, or the one for all others. -/
def memberNode? (properties : List (String × Node)) (additional : Additional Node)
    (name : String) : Option Node :=
  match properties.lookup name with
  | some node => some node
  | none =>
    match additional with
    | .schema node => some node
    | _ => none

theorem mem_of_memberNode? {properties : List (String × Node)} {additional : Additional Node}
    {name : String} {node : Node} (schema : memberNode? properties additional name = some node) :
    (name, node) ∈ properties ∨ additional = .schema node := by
  unfold memberNode? at schema
  cases declared : properties.lookup name with
  | some own =>
    simp only [declared, Option.some.injEq] at schema
    subst schema
    obtain ⟨before, after, rfl, -⟩ := List.lookup_eq_some_iff.mp declared
    exact .inl (by simp)
  | none =>
    cases additional with
    | schema own =>
      simp only [declared, Option.some.injEq] at schema
      exact .inr (schema ▸ rfl)
    | _ => simp [declared] at schema

section Members

variable {properties : List (String × Node)} {declared : List (String × Check)}
  {count : CountRange} {additional : Additional Node} {extra : Extra Check}
  (each : List.Forall₂ (HasProperty names) properties declared)
  (others : HasExtra names count additional extra)
include each others

/-- The check that a member is given is the check of its schema. -/
theorem memberCheck?_rel (name : String) :
    Option.Rel (HasCheck names) (memberNode? properties additional name)
      (Check.memberCheck? declared extra name) := by
  induction each with
  | nil =>
    cases others with
    | closed additional closed =>
      cases additional with
      | schema node => cases closed
      | _ => exact .none
    | allowed => exact .none
    | checked node check has => exact .some has
  | @cons property check _ _ related _ ih =>
    obtain ⟨key, node⟩ := property
    obtain ⟨key', own⟩ := check
    obtain ⟨same, has⟩ := related
    cases same
    unfold memberNode? Check.memberCheck? at ih ⊢
    rw [List.lookup_cons, List.lookup_cons]
    cases name == key with
    | true => exact .some has
    | false => exact ih

/-- A member with a check has the schema of it. -/
theorem memberNode?_of_check {name : String} {check : Check}
    (given : Check.memberCheck? declared extra name = some check) :
    ∃ node, memberNode? properties additional name = some node ∧ HasCheck names node check := by
  have related := memberCheck?_rel each others name
  rw [given] at related
  cases schema : memberNode? properties additional name with
  | none => rw [schema] at related; cases related
  | some node =>
    rw [schema] at related
    cases related with
    | some has => exact ⟨node, rfl, has⟩

/-- A member without a check has no schema. -/
theorem memberNode?_of_none {name : String}
    (free : Check.memberCheck? declared extra name = none) :
    memberNode? properties additional name = none := by
  have related := memberCheck?_rel each others name
  rw [free] at related
  cases schema : memberNode? properties additional name with
  | none => rfl
  | some node => rw [schema] at related; cases related

end Members

/-- Unguarded references are slots of entries. -/
theorem CompilesTo.unguarded_lt {node : Node} (h : CompilesTo names node c) :
    ∀ slot ∈ c.unguarded, slot < names.length := by
  have ofParts {branches : List Node} {parts : List (Compiled Check)}
      (each : List.Forall₂ (CompilesTo names) branches parts)
      (ih : ∀ branch ∈ branches, ∀ {c}, CompilesTo names branch c →
        ∀ slot ∈ c.unguarded, slot < names.length) :
      ∀ slot ∈ parts.flatMap Compiled.unguarded, slot < names.length := by
    induction each with
    | nil => simp
    | cons compiles rest ihRest =>
      intro slot member
      rw [List.flatMap_cons] at member
      rcases List.mem_append.mp member with own | later
      · exact ih _ (by simp) compiles slot own
      · exact ihRest (fun branch inside => ih branch (by simp [inside])) slot later
  induction node generalizing c with
  | scalar kind format constraints => simp [h.scalar.2]
  | enum values => simp [h.enum.2]
  | unknown token raw => simp [h.unknown.2]
  | array items count unique ih =>
    obtain ⟨check, -, -, unguarded⟩ := h.array
    simp [unguarded]
  | object properties required count additional =>
    obtain ⟨declared, extra, -, -, -, unguarded⟩ := h.object
    simp [unguarded]
  | union mode branches ih =>
    obtain ⟨parts, each, -, unguarded⟩ := h.union
    exact unguarded ▸ ofParts each fun branch inside => ih branch inside
  | intersection branches ih =>
    obtain ⟨parts, each, -, unguarded⟩ := h.intersection
    exact unguarded ▸ ofParts each fun branch inside => ih branch inside
  | negation inner ih =>
    obtain ⟨part, compiles, -, unguarded⟩ := h.negation
    exact unguarded ▸ ih compiles
  | reference name =>
    obtain ⟨slot, found, -, unguarded⟩ := h.reference
    intro other member
    rw [unguarded, List.mem_singleton] at member
    subst member
    exact (List.idxOf?_eq_some_iff.mp found).choose

/-! ## Entries -/

theorem compileEntries_ok {entries : List (String × Node)} {compiled : List (Compiled Check)}
    (h : compileEntries names entries = .ok compiled) :
    List.Forall₂ (fun entry c => compileNode ⟨names, entry.1, []⟩ entry.2 = .ok c)
      entries compiled := by
  induction entries generalizing compiled with
  | nil =>
    cases h
    exact .nil
  | cons entry rest ih =>
    obtain ⟨check, first, h⟩ := steps_of_ok h
    obtain ⟨checks, others, h⟩ := steps_of_ok h
    cases h
    exact .cons first (ih others)

/-- The place of a name among the entries is that of the entry which the name looks up. -/
theorem Document.slot_iff_node? {d : Document} {name : String} {node : Node} :
    d.node? name = some node ↔
      ∃ slot, d.names.idxOf? name = some slot ∧ d.entries[slot]? = some (name, node) := by
  obtain ⟨entries, findings⟩ := d
  simp only [Document.node?, Document.names]
  induction entries with
  | nil => simp
  | cons entry rest ih =>
    obtain ⟨key, own⟩ := entry
    simp only [List.lookup_cons, List.map_cons, List.idxOf?_cons]
    by_cases same : name = key
    · subst same
      simp
    · simp only [beq_false_of_ne same, beq_false_of_ne (Ne.symm same), ih]
      simp

/-- The slot of a name holds the entry which the name looks up. -/
theorem Document.node?_of_slot {d : Document} {name : String} {slot : Nat}
    (found : d.names.idxOf? name = some slot) :
    ∃ node, d.node? name = some node ∧ d.entries[slot]? = some (name, node) := by
  obtain ⟨inside, same, -⟩ := List.idxOf?_eq_some_iff.mp found
  have bound : slot < d.entries.length := by simpa [Document.names] using inside
  have place : d.entries[slot]? = some (name, d.entries[slot].2) := by
    rw [List.getElem?_eq_getElem bound, Option.some.injEq]
    exact Prod.ext (by simpa [Document.names] using same) rfl
  exact ⟨_, Document.slot_iff_node?.mpr ⟨slot, found, place⟩, place⟩

namespace Registry

/-- Options take no part in the work of a build. -/
theorem build_options (options options' : Options) (d : Document) :
    build options' d = (build options d).map fun r => { r with options := options' } := by
  unfold build
  cases compileEntries d.names d.entries with
  | error e => rfl
  | ok compiled =>
    simp only [bind, Except.bind]
    cases cycleFindings d.entries (compiled.map Compiled.unguarded)
      (Links.cycles (compiled.map Compiled.unguarded)) <;> rfl

theorem options_of_build {options : Options} {d : Document} {r : Registry}
    (built : build options d = .ok r) : r.options = options := by
  have same := build_options options options d
  rw [built] at same
  exact congrArg Registry.options (Except.ok.inj same)

/-- A name with a slot accepts what the check in the slot accepts within the budget. -/
theorem validate?_eq_accepted_iff {r : Registry} {name : String} {value form : Json} :
    r.validate? name value = some (.accepted form) ↔ ∃ slot, r.slot? name = some slot ∧
      Check.run r.setting (r.setting.maxDepth + 1) (r.checks.getD slot .any) value [] =
        .ok form := by
  simp only [validate?, validateSlot, Option.map_eq_some_iff, Check.outcome_eq_accepted_iff]

/-- A name with a slot rejects what the check in the slot rejects, for the same issues. -/
theorem validate?_eq_rejected_iff {r : Registry} {name : String} {value : Json}
    {issues : List Issue} :
    r.validate? name value = some (.rejected issues) ↔ ∃ slot, r.slot? name = some slot ∧
      Check.run r.setting (r.setting.maxDepth + 1) (r.checks.getD slot .any) value [] =
        .error issues := by
  simp only [validate?, validateSlot, Option.map_eq_some_iff, Check.outcome_eq_rejected_iff]

/-- What a build has made of a document. -/
structure BuiltFrom (d : Document) (r : Registry) (compiled : List (Compiled Check)) : Prop where
  names : r.names = d.names
  checks : r.checks = compiled.map Compiled.value
  entries : List.Forall₂ (fun entry c => compileNode ⟨d.names, entry.1, []⟩ entry.2 = .ok c)
    d.entries compiled
  cycles : ∃ cyclic, cycleFindings d.entries (compiled.map Compiled.unguarded)
    (Links.cycles (compiled.map Compiled.unguarded)) = .ok cyclic ∧
    r.findings = d.findings ++ compiled.flatMap Compiled.findings ++ cyclic

theorem builtFrom_of_build {options : Options} {d : Document} {r : Registry}
    (built : build options d = .ok r) : ∃ compiled, BuiltFrom d r compiled := by
  obtain ⟨compiled, checks, built⟩ := steps_of_ok built
  obtain ⟨cyclic, found, built⟩ := steps_of_ok built
  cases built
  exact ⟨compiled, rfl, rfl, compileEntries_ok checks, cyclic, found, rfl⟩

/-- The check in the slot of an entry is the check of its node. -/
theorem BuiltFrom.slot_compiles {d : Document} {r : Registry} {compiled : List (Compiled Check)}
    (built : BuiltFrom d r compiled) {slot : Nat} {name : String} {node : Node}
    (entry : d.entries[slot]? = some (name, node)) :
    ∃ c, compiled[slot]? = some c ∧ CompilesTo d.names node c ∧
      r.checks.getD slot .any = c.value := by
  obtain ⟨c, found, compiles⟩ := forall₂_getElem? built.entries entry
  exact ⟨c, found, ⟨_, _, compiles⟩, by simp [built.checks, found]⟩

theorem BuiltFrom.hasCheck {d : Document} {r : Registry} {compiled : List (Compiled Check)}
    (built : BuiltFrom d r compiled) {slot : Nat} {name : String} {node : Node}
    (entry : d.entries[slot]? = some (name, node)) :
    HasCheck d.names node (r.checks.getD slot .any) := by
  obtain ⟨c, -, compiles, check⟩ := built.slot_compiles entry
  exact ⟨c, compiles, check.symm⟩

end Registry
end DataSchema
