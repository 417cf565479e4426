import DataSchema.Proofs.Build
import DataSchema.Proofs.Json.Pointers
import DataSchema.Proofs.Parts
import DataSchema.Proofs.Places
import DataSchema.Proofs.Reading.Again
import DataSchema.Proofs.Recursion

/-!
Where a build points. The places in a node are places of its written form too, so the pointer of a
finding leads to the written form of the node that it is about, and the pointer of an error on a
reference leads to the reference.
-/
namespace DataSchema

/-! ## Places in written schemas -/

/-- No object in the node declares a member twice. -/
def Node.NamesOnce (node : Node) : Prop :=
  ∀ properties required count additional,
    (Node.object properties required count additional).Within node →
      (properties.map Prod.fst).Nodup

/-- Neither the entries nor the members of an object have a name twice. -/
structure Document.NamesOnce (d : Document) : Prop where
  entries : d.names.Nodup
  members : ∀ entry ∈ d.entries, entry.2.NamesOnce

namespace Node

theorem allToJson_eq (nodes : List Node) : allToJson nodes = nodes.map toJson := by
  induction nodes with
  | nil => rw [allToJson, List.map_nil]
  | cons node rest ih => rw [allToJson, ih, List.map_cons]

variable {node : Node} {pointer : List String} {part place : List String × Node}

theorem within_of_mem_parts (member : part ∈ node.parts pointer) : part.2.Within node := by
  cases node with
  | array items count unique =>
    obtain rfl := List.mem_singleton.mp member
    exact .array .self
  | negation inner =>
    obtain rfl := List.mem_singleton.mp member
    exact .negation .self
  | union mode branches =>
    obtain ⟨branch, inside, rfl⟩ := List.mem_map.mp member
    exact .union (List.fst_mem_of_mem_zipIdx inside) .self
  | intersection branches =>
    obtain ⟨branch, inside, rfl⟩ := List.mem_map.mp member
    exact .intersection (List.fst_mem_of_mem_zipIdx inside) .self
  | object properties required count additional =>
    rcases List.mem_append.mp member with declared | other
    · obtain ⟨property, inside, rfl⟩ := List.mem_map.mp declared
      exact .property inside .self
    · cases additional with
      | schema node =>
        obtain rfl := List.mem_singleton.mp other
        exact .additional .self
      | _ => cases other
  | _ => cases member

/-- A branch is written at its index. -/
theorem resolve?_branch {branches : List Node} {keyword : String} {branch : Node × Nat}
    (inside : branch ∈ branches.zipIdx) :
    Json.Pointer.resolve? (.object [(keyword, .array (allToJson branches))])
      [keyword, toString branch.2] = some branch.1.toJson := by
  have there : branches[branch.2]? = some branch.1 := List.mem_zipIdx_iff_getElem?.mp inside
  simp [Json.Pointer.resolve?, allToJson_eq, there]

/-- Parts are written where they are. -/
theorem resolve?_of_mem_parts (once : node.NamesOnce) (member : part ∈ node.parts pointer) :
    ∃ rest, part.1 = pointer ++ rest ∧
      Json.Pointer.resolve? node.toJson rest = some part.2.toJson := by
  cases node with
  | array items count unique =>
    obtain rfl := List.mem_singleton.mp member
    exact ⟨_, rfl, by simp [toJson, Json.Pointer.resolve?]⟩
  | negation inner =>
    obtain rfl := List.mem_singleton.mp member
    exact ⟨_, rfl, by simp [toJson, Json.Pointer.resolve?]⟩
  | union mode branches =>
    obtain ⟨branch, inside, rfl⟩ := List.mem_map.mp member
    exact ⟨_, rfl, by rw [toJson, resolve?_branch inside]⟩
  | intersection branches =>
    obtain ⟨branch, inside, rfl⟩ := List.mem_map.mp member
    exact ⟨_, rfl, by rw [toJson, resolve?_branch inside]⟩
  | object properties required count additional =>
    rcases List.mem_append.mp member with declared | other
    · obtain ⟨property, inside, rfl⟩ := List.mem_map.mp declared
      refine ⟨_, rfl, ?_⟩
      have names : ((membersToJson properties).map Prod.fst).Nodup := by
        rw [membersToJson_eq, List.map_map]
        exact once _ _ _ _ .self
      have written : (property.1, property.2.toJson) ∈ membersToJson properties := by
        rw [membersToJson_eq]
        exact List.mem_map_of_mem (f := fun p => (p.1, p.2.toJson)) inside
      simp [toJson, Json.Pointer.resolve?, Json.member?_of_mem names written]
    · cases additional with
      | schema node =>
        obtain rfl := List.mem_singleton.mp other
        refine ⟨_, rfl, ?_⟩
        cases required <;>
          simp [toJson, additionalToJson, CountRange.members, Json.Pointer.resolve?]
      | _ => cases other
  | _ => cases member

/-- At every place in a node stands, in the written form of the node, that of the place. -/
theorem resolve?_of_mem_places (once : node.NamesOnce) (member : place ∈ node.places pointer) :
    ∃ rest, place.1 = pointer ++ rest ∧
      Json.Pointer.resolve? node.toJson rest = some place.2.toJson := by
  induction node using Node.parts_induction generalizing pointer with
  | step node ih =>
    rw [places_eq, List.mem_cons, List.mem_flatMap] at member
    rcases member with rfl | ⟨part, among, inside⟩
    · exact ⟨[], by simp, rfl⟩
    · have within := within_of_mem_parts among
      have onceThere : part.2.NamesOnce := fun properties required count additional deeper =>
        once properties required count additional (deeper.trans within)
      obtain ⟨segments, below, written⟩ := resolve?_of_mem_parts once among
      obtain ⟨rest, deeper, more⟩ := ih pointer part among onceThere inside
      refine ⟨segments ++ rest, by rw [deeper, below, List.append_assoc], ?_⟩
      rw [Json.Pointer.resolve?_append, written, Option.bind_some, more]

/-! ## References -/

theorem branchMentions_eq (entry : String) (index : Nat) (branches : List Node) :
    branchMentions entry pointer index branches = (branches.zipIdx index).flatMap fun branch =>
      branch.1.mentions entry (pointer ++ [toString branch.2]) := by
  induction branches generalizing index with
  | nil => rfl
  | cons branch rest ih => rw [branchMentions, ih, List.zipIdx_cons, List.flatMap_cons]

theorem propertyMentions_eq (entry : String) (properties : List (String × Node)) :
    propertyMentions entry pointer properties = properties.flatMap fun property =>
      property.2.mentions entry (pointer ++ [property.1]) := by
  induction properties with
  | nil => rfl
  | cons property rest ih => rw [propertyMentions, ih, List.flatMap_cons]

/-- A reference in a node is the node or is in one of its parts. -/
theorem mem_mentions_iff {entry : String} {m : Mention} :
    m ∈ node.mentions entry pointer ↔
      (∃ name, node = .reference name ∧ m = ⟨entry, pointer, name⟩) ∨
        ∃ part ∈ node.parts pointer, m ∈ part.2.mentions entry part.1 := by
  cases node with
  | object properties required count additional =>
    rw [mentions, propertyMentions_eq, parts]
    cases additional with
    | schema node => simp [additionalMentions, additionalParts, or_and_right, exists_or]
    | _ => simpa [additionalMentions, additionalParts] using exists_comm
  | union mode branches =>
    rw [mentions, branchMentions_eq, parts]
    simp
  | intersection branches =>
    rw [mentions, branchMentions_eq, parts]
    simp
  | _ => simp [mentions, parts]

/-- The references in a node stand at its places. -/
theorem mem_places_of_mem_mentions {entry : String} {m : Mention}
    (mentioned : m ∈ node.mentions entry pointer) :
    m.entry = entry ∧ (m.pointer, .reference m.name) ∈ node.places pointer := by
  induction node using Node.parts_induction generalizing pointer with
  | step node ih =>
    rw [places_eq, List.mem_cons, List.mem_flatMap]
    rcases mem_mentions_iff.mp mentioned with ⟨name, rfl, rfl⟩ | ⟨part, among, inside⟩
    · exact ⟨rfl, .inl rfl⟩
    · obtain ⟨same, there⟩ := ih pointer part among inside
      exact ⟨same, .inr ⟨part, among, there⟩⟩

end Node

/-! ## What a schema shows -/

/-- The schema that a node is written as has what a finding tells of it. -/
def Node.Shows (node : Node) : FindingKind → Prop
  | .unsupportedTypeToken token => ∃ raw, node = .unknown (some token) raw ∧ node.toJson = raw
  | .patternCompile pattern _ => ∃ members, node.toJson = .object members ∧
      Json.member? members "type" = some (.string "string") ∧
      Json.member? members "pattern" = some (.string pattern)
  | .unknownFormat kind format => ∃ members, node.toJson = .object members ∧
      Json.member? members "type" = some (.string kind.name) ∧
      Json.member? members "format" = some (.string format)
  | .invalidConstraint keyword _ => ∃ members, node.toJson = .object members ∧
      Json.hasMember members keyword = true
  | .unsatisfiableBounds lower upper => ∃ members, node.toJson = .object members ∧
      Json.hasMember members lower = true ∧ Json.hasMember members upper = true
  | .shadowedKeywords _ _ => False
  | .unguardedRecursion _ => False

namespace Node

variable {node : Node} {kind : FindingKind}

theorem shows_of_flaw (flaw : kind ∈ node.flaws) : node.Shows kind := by
  cases node with
  | scalar type format c =>
    simp only [flaws, List.mem_append, Option.mem_toList, Option.bind_eq_some_iff] at flaw
    rcases flaw with (⟨f, rfl, flaw⟩ | ⟨source, given, flaw⟩) | ⟨factor, given, flaw⟩
    · obtain ⟨-, rfl⟩ := formatFlaw?_eq_some_iff.mp flaw
      exact ⟨_, rfl, by simp, by simp⟩
    · unfold patternFlaw? at flaw
      split at flaw
      · split at flaw <;> cases flaw
        exact ⟨_, rfl, by simp [ScalarKind.name], by simp [Constraints.members, given]⟩
      · cases flaw
    · have written : Json.hasMember (("type", .string type.name) :: whenPresent "format" format
          (fun f => .string f.token) ++ c.members) "multipleOf" = true := by
        simp [Json.hasMember, Constraints.members, given]
      unfold factorFlaw? at flaw
      split at flaw
      · cases (Option.ite_none_left_eq_some.mp flaw).2
        exact ⟨_, rfl, written⟩
      · cases (Option.ite_none_left_eq_some.mp flaw).2
        exact ⟨_, rfl, written⟩
      · cases flaw
  | _ => cases flaw

/-- The name of a bound is a member if the members are there which the bound was resolved from. -/
theorem boundName_given {inclusive : Option Binary64} {exclusive : Option Exclusive}
    {bound : Binary64 × Bool} {name exclusiveName : String} {members : Members}
    (resolved : NumberRule.resolveBound inclusive exclusive = some bound)
    (own : Json.hasMember members name = inclusive.isSome)
    (marked : Json.hasMember members exclusiveName = exclusive.isSome) :
    Json.hasMember members (NumberRule.boundName name exclusiveName bound.2) = true := by
  cases exclusive with
  | none =>
    obtain ⟨value, rfl, rfl⟩ := Option.map_eq_some_iff.mp resolved
    exact own
  | some mark =>
    cases mark with
    | bound value =>
      cases resolved
      exact marked
    | flag on =>
      obtain ⟨value, rfl, rfl⟩ := Option.map_eq_some_iff.mp resolved
      cases on
      · exact own
      · exact marked

theorem shows_of_crossed (crossed : kind ∈ node.crossed) : node.Shows kind := by
  have ofNumbers {type : ScalarKind} {format : Option Format} {c : Constraints}
      (bounds : kind ∈ NumberRule.crossed (NumberRule.resolveBound c.minimum c.exclusiveMinimum)
        (NumberRule.resolveBound c.maximum c.exclusiveMaximum)) :
      (Node.scalar type format c).Shows kind := by
    obtain ⟨lo, hi, lower, upper, -, rfl⟩ := NumberRule.mem_crossed_iff.mp bounds
    refine ⟨_, rfl, boundName_given lower ?_ ?_, boundName_given upper ?_ ?_⟩ <;>
      simp [Json.hasMember, Constraints.members]
  cases node with
  | scalar type format c =>
    cases type with
    | string =>
      obtain ⟨lo, hi, least, most, -, rfl⟩ := mem_crossedBounds_iff.mp crossed
      refine ⟨_, rfl, ?_, ?_⟩ <;> simp [Json.hasMember, Constraints.members, least, most]
    | number => exact ofNumbers crossed
    | integer => exact ofNumbers crossed
    | _ => cases crossed
  | array items count unique =>
    obtain ⟨lo, hi, least, most, -, rfl⟩ := mem_crossedBounds_iff.mp crossed
    refine ⟨_, rfl, ?_, ?_⟩ <;> simp [Json.hasMember, CountRange.members, least, most]
  | object properties required count additional =>
    obtain ⟨lo, hi, least, most, -, rfl⟩ := mem_crossedBounds_iff.mp crossed
    refine ⟨_, rfl, ?_, ?_⟩ <;> cases required <;>
      simp [Json.hasMember, CountRange.members, least, most]
  | _ => cases crossed

/-- What is remarked at a node shows in its written form. -/
theorem shows_of_remark (remark : kind ∈ node.remarks) : node.Shows kind := by
  rcases mem_remarks_iff.mp remark with flaw | crossed | ⟨token, raw, rfl, rfl⟩
  · exact shows_of_flaw flaw
  · exact shows_of_crossed crossed
  · exact ⟨raw, rfl, rfl⟩

end Node

/-! ## Builds -/

/-- The pointer of a finding leads, in the written form of the entry, to that of a node that makes
the finding by itself and shows what it tells. -/
def Document.PointsAtCause (d : Document) (f : Finding) : Prop :=
  ∃ own node, d.node? f.schema = some own ∧
    Json.Pointer.select? own.toJson (Json.Pointer.render f.location) = some node.toJson ∧
    (∃ c, CompilesAt d.names f.schema (f.location, node) c ∧ f ∈ c.findings) ∧ node.Shows f.kind

/-- The pointer of an error leads, in the written form of the entry, to the reference to the name,
and no entry has the name. -/
def Document.PointsAtReference (d : Document) (e : SchemaError) (name : String) : Prop :=
  ∃ schema own, e.schema = some schema ∧ d.node? schema = some own ∧
    Json.Pointer.select? own.toJson (Json.Pointer.render e.location) =
      some (.object [("$ref", .string ("#/components/schemas/" ++ Json.Pointer.escape name))]) ∧
    name ∉ d.names

namespace Document.NamesOnce

variable {d : Document} {entry : String × Node} {location : List String} {node : Node}

theorem node?_eq (once : d.NamesOnce) (member : entry ∈ d.entries) :
    d.node? entry.1 = some entry.2 := by
  obtain ⟨before, after, split⟩ := List.append_of_mem member
  have fresh : entry.1 ∉ before.map Prod.fst := by
    have names := once.entries
    rw [Document.names, split, List.map_append, List.map_cons] at names
    exact fun inside => (List.nodup_append.mp names).2.2 _ inside _ List.mem_cons_self rfl
  refine List.lookup_eq_some_iff.mpr ⟨before, after, split, fun other inside => ?_⟩
  have apart : entry.1 ≠ other.1 := by
    intro same
    rw [same] at fresh
    exact fresh (List.mem_map_of_mem inside)
  simpa using apart

/-- The pointer to a place of an entry leads to the written form of what is there. -/
theorem select?_eq (once : d.NamesOnce) (member : entry ∈ d.entries)
    (inside : (location, node) ∈ entry.2.places []) :
    Json.Pointer.select? entry.2.toJson (Json.Pointer.render location) = some node.toJson := by
  obtain ⟨rest, rfl, written⟩ := Node.resolve?_of_mem_places (once.members entry member) inside
  rw [Json.Pointer.select?_render, written]

/-- What is found in an entry points at its cause. -/
theorem pointsAtCause (once : d.NamesOnce) (member : entry ∈ d.entries) {c : Compiled Check}
    (compiled : CompilesAt d.names entry.1 ([], entry.2) c) {f : Finding}
    (found : f ∈ c.findings) : f.schema = entry.1 ∧ d.PointsAtCause f := by
  have remarked := (compileNode_findings compiled).mem_iff.mp found
  obtain ⟨schema, node, inside, remark⟩ := mem_remarksAt_iff.mp remarked
  obtain ⟨inner, there, -⟩ := compileNode_places compiled inside
  have own : f ∈ inner.findings := by
    have stands := (mem_findings_own_iff there).mpr remark
    rwa [← schema] at stands
  refine ⟨schema, entry.2, node, ?_, ?_, ⟨inner, ?_, own⟩, Node.shows_of_remark remark⟩
  · rw [schema, once.node?_eq member]
  · exact once.select?_eq member inside
  · rw [schema]
    exact there

end Document.NamesOnce

/-- Only cycles are an error after all entries have been compiled. -/
theorem cause_of_cycleFindings {entries : List (String × Node)} {links : Links}
    {groups : List (List Nat)} {e : SchemaError}
    (refused : cycleFindings entries links groups = .error e) :
    ∃ cycle, e.cause = .unguardedCycle cycle := by
  induction groups with
  | nil => cases refused
  | cons group rest ih =>
    rcases steps_of_error refused with own | ⟨_, -, later⟩
    · unfold cycleFinding at own
      split at own
      · cases own
      · dsimp only at own
        split at own <;> cases own
        exact ⟨_, rfl⟩
    · rcases steps_of_error later with others | ⟨_, -, done⟩
      · exact ih others
      · cases done

namespace Registry

/-- A build that is refused for a reference is refused for one of the document. -/
theorem mention_of_refused {options : Options} {d : Document} {e : SchemaError} {name : String}
    (refused : build options d = .error e) (cause : e.cause = .unresolvedReference name) :
    ∃ m ∈ d.mentions, m.name = name ∧ name ∉ d.names ∧ e = m.error := by
  cases first : firstUnresolved d.names d.mentions with
  | some m =>
    cases (build_of_unresolved options first).symm.trans refused
    cases cause
    have unknown := List.find?_some first
    exact ⟨m, List.mem_of_find?_eq_some first, rfl, by simpa using unknown, rfl⟩
  | none =>
    obtain ⟨compiled, compiles⟩ := (compileEntries_failsAtFirst d.names d.entries).exists_ok
      (firstUnresolved_eq_none_iff.mp first)
    rw [build, compiles] at refused
    rcases steps_of_error refused with none | ⟨_, -, later⟩
    · cases none
    · rcases steps_of_error later with cycles | ⟨_, -, done⟩
      · obtain ⟨cycle, own⟩ := cause_of_cycleFindings cycles
        cases own.symm.trans cause
      · cases done

/-- Whatever is found in an entry points into the schema that the entry is written as, at the
written form of the node that it is found at, which shows what it tells. So do all findings that a
build adds to those of the document, except on recursion, and the error on a reference that names no
entry points at the reference. -/
theorem findings_point_at_causes (options : Options) (d : Document) (once : d.NamesOnce) :
    (∀ entry ∈ d.entries, ∀ c, CompilesAt d.names entry.1 ([], entry.2) c →
      ∀ f ∈ c.findings, f.schema = entry.1 ∧ d.PointsAtCause f) ∧
    (∀ r, build options d = .ok r → ∃ found, r.findings = d.findings ++ found ∧
      ∀ f ∈ found, (∀ cycle, f.kind ≠ .unguardedRecursion cycle) → d.PointsAtCause f) ∧
    ∀ e name, build options d = .error e → e.cause = .unresolvedReference name →
      d.PointsAtReference e name := by
  refine ⟨fun entry member c compiled f found => once.pointsAtCause member compiled found, ?_, ?_⟩
  · intro r built
    obtain ⟨compiled, from'⟩ := builtFrom_of_build built
    obtain ⟨cyclic, checked, findings⟩ := from'.cycles
    rw [List.append_assoc] at findings
    refine ⟨_, findings, fun f member notCycle => ?_⟩
    rcases List.mem_append.mp member with inEntries | inCycles
    · obtain ⟨c, among, found⟩ := List.mem_flatMap.mp inEntries
      obtain ⟨entry, inside, compiles⟩ := forall₂_mem_right from'.entries among
      exact (once.pointsAtCause inside compiles found).2
    · obtain ⟨group, -, first, rest, -, rfl⟩ :=
        forall₂_mem_right (cycleFindings_goRound checked) inCycles
      exact absurd rfl (notCycle _)
  · intro e name refused cause
    obtain ⟨m, mentioned, rfl, unknown, rfl⟩ := mention_of_refused refused cause
    obtain ⟨entry, member, inside⟩ := List.mem_flatMap.mp mentioned
    obtain ⟨same, there⟩ := Node.mem_places_of_mem_mentions inside
    refine ⟨entry.1, entry.2, congrArg some same, once.node?_eq member, ?_, unknown⟩
    exact once.select?_eq member there

/-- Names that a pointer has to escape, and one that is empty. -/
def slashed : Document :=
  ⟨[("a/b", .object
      [("~/x", .array (.scalar .integer none { multipleOf := some .zero }) {} false),
        ("", .unknown (some "file") (.object [("type", .string "file")]))] [] {} .allow)], []⟩

theorem slashed_points_at_causes :
    slashed.NamesOnce ∧ ∃ r, build {} slashed = .ok r ∧
      r.findings.map (fun f => Json.Pointer.render f.location) =
        ["/properties/~0~1x/items", "/properties/"] ∧
      ∀ f ∈ r.findings, slashed.PointsAtCause f := by
  have once : slashed.NamesOnce := by
    refine ⟨by decide, fun entry member => ?_⟩
    obtain rfl := List.mem_singleton.mp member
    intro properties required count additional within
    cases within with
    | self => decide
    | property among inside =>
      simp only [List.mem_cons, List.not_mem_nil, or_false] at among
      rcases among with rfl | rfl
      · cases inside with
        | array deeper => cases deeper
      · cases inside
  obtain ⟨-, ofBuild, -⟩ := findings_point_at_causes {} slashed once
  obtain ⟨found, findings, each⟩ := ofBuild _ rfl
  refine ⟨once, _, rfl, by decide +kernel, fun f member => ?_⟩
  have listed : found = [⟨"a/b", ["properties", "~/x", "items"], .invalidConstraint "multipleOf"
      "must be a positive number, found 0"⟩,
      ⟨"a/b", ["properties", ""], .unsupportedTypeToken "file"⟩] :=
    findings.symm.trans (by decide +kernel)
  rw [findings] at member
  refine each f member fun cycle => ?_
  rw [listed] at member
  simp only [slashed, List.nil_append, List.mem_cons, List.not_mem_nil, or_false] at member
  rcases member with rfl | rfl <;> simp

end Registry
end DataSchema
