import DataSchema.Proofs.Mending

/-!
What a build finds in its entries. Each node has its own remarks, whatever its parts are, and the
findings on an entry are the remarks of all nodes in it, each at the place of its node.
-/
namespace DataSchema

/-- What is found at a node by itself. -/
def Node.remarks : Node → List FindingKind
  | .scalar .string format c => (StringRule.draft format c).2
  | .scalar .number format c => (NumberRule.draft .number format c).2
  | .scalar .integer format c => (NumberRule.draft .integer format c).2
  | .scalar kind format _ => format.toList.map fun f => .unknownFormat kind f.token
  | .array _ count unique => (ArrayRule.draft count unique).2
  | .object _ _ count _ => (ObjectRule.draft count).2
  | .unknown token _ => token.toList.map .unsupportedTypeToken
  | _ => []

/-- The findings on the remarks of nodes at places of an entry. -/
def remarksAt (entry : String) (places : List (List String × Node)) : List Finding :=
  places.flatMap fun place => place.2.remarks.map fun kind => ⟨entry, place.1, kind⟩

/-- The findings on the remarks of all nodes of a document. -/
def Document.remarks (d : Document) : List Finding :=
  d.entries.flatMap fun entry => remarksAt entry.1 (entry.2.places [])

theorem mem_remarksAt_iff {entry : String} {places : List (List String × Node)} {f : Finding} :
    f ∈ remarksAt entry places ↔
      f.schema = entry ∧ ∃ node, (f.location, node) ∈ places ∧ f.kind ∈ node.remarks := by
  obtain ⟨schema, location, kind⟩ := f
  simp only [remarksAt, List.mem_flatMap, List.mem_map, Finding.mk.injEq]
  constructor
  · rintro ⟨⟨pointer, node⟩, member, own, remark, rfl, rfl, rfl⟩
    exact ⟨rfl, node, member, remark⟩
  · rintro ⟨rfl, node, member, remark⟩
    exact ⟨(location, node), member, kind, remark, rfl, rfl, rfl⟩

/-! ## What remarks are about -/

/-- The bounds of a node that leave nothing between them. -/
def Node.crossed : Node → List FindingKind
  | .scalar .string _ c => crossedBounds c.minLength c.maxLength "minLength" "maxLength"
  | .scalar .number _ c | .scalar .integer _ c =>
    NumberRule.crossed (NumberRule.resolveBound c.minimum c.exclusiveMinimum)
      (NumberRule.resolveBound c.maximum c.exclusiveMaximum)
  | .array _ count _ => crossedBounds count.min count.max "minItems" "maxItems"
  | .object _ _ count _ => crossedBounds count.min count.max "minProperties" "maxProperties"
  | _ => []

section Kinds

variable {node : Node} {kind : FindingKind} {format : Option Format} {c : Constraints}

theorem StringRule.mem_found_iff :
    kind ∈ (draft format c).2 ↔ kind ∈ (Node.scalar .string format c).flaws ∨
      kind ∈ (Node.scalar .string format c).crossed := by
  have noFactor : c.multipleOf.bind (factorFlaw? .string) = none := by cases c.multipleOf <;> rfl
  simp only [Node.flaws, Node.crossed, draft, ofFormat_drafts.found_eq, ofPattern_drafts.found_eq,
    noFactor, List.mem_append]
  simp [or_right_comm]

theorem NumberRule.mem_found_iff {type : ScalarKind} (numeric : type = .number ∨ type = .integer) :
    kind ∈ (draft type format c).2 ↔ kind ∈ (Node.scalar type format c).flaws ∨
      kind ∈ (Node.scalar type format c).crossed := by
  have noPattern : c.pattern.bind (patternFlaw? type) = none := by
    rcases numeric with rfl | rfl <;> cases c.pattern <;> rfl
  have crossed_eq : (Node.scalar type format c).crossed =
      crossed (resolveBound c.minimum c.exclusiveMinimum)
        (resolveBound c.maximum c.exclusiveMaximum) := by
    rcases numeric with rfl | rfl <;> rfl
  simp only [Node.flaws, crossed_eq, draft, (ofFormat_drafts numeric).found_eq,
    (ofFactor_drafts numeric).found_eq, noPattern, List.mem_append]
  simp [or_right_comm]

/-- A remark is on a flaw, on bounds, or on a type that is not known. -/
theorem Node.mem_remarks_iff :
    kind ∈ node.remarks ↔ kind ∈ node.flaws ∨ kind ∈ node.crossed ∨
      ∃ token raw, node = .unknown (some token) raw ∧ kind = .unsupportedTypeToken token := by
  cases node with
  | scalar type format c =>
    cases type with
    | string => simp [remarks, StringRule.mem_found_iff]
    | number => simp [remarks, NumberRule.mem_found_iff]
    | integer => simp [remarks, NumberRule.mem_found_iff]
    | boolean => simp [remarks, (flaws_of_neither format c (.inl rfl)).1, crossed]
    | null => simp [remarks, (flaws_of_neither format c (.inr rfl)).1, crossed]
  | unknown token raw => cases token <;> simp [remarks, flaws, crossed]
  | _ => simp [remarks, flaws, crossed, ArrayRule.draft, ObjectRule.draft]

theorem Node.flaw_kind (flaw : kind ∈ node.flaws) :
    (∃ type format, kind = .unknownFormat type format) ∨
      (∃ pattern message, kind = .patternCompile pattern message) ∨
      ∃ keyword message, kind = .invalidConstraint keyword message := by
  cases node with
  | scalar type format c =>
    simp only [flaws, List.mem_append, Option.mem_toList, Option.bind_eq_some_iff] at flaw
    rcases flaw with (⟨f, -, flaw⟩ | ⟨source, -, flaw⟩) | ⟨factor, -, flaw⟩
    · exact .inl ⟨type, f.token, (formatFlaw?_eq_some_iff.mp flaw).2.symm⟩
    · unfold patternFlaw? at flaw
      split at flaw
      · split at flaw <;> cases flaw
        exact .inr (.inl ⟨_, _, rfl⟩)
      · cases flaw
    · unfold factorFlaw? at flaw
      split at flaw
      · exact .inr (.inr ⟨_, _, (Option.some.inj (Option.ite_none_left_eq_some.mp flaw).2).symm⟩)
      · exact .inr (.inr ⟨_, _, (Option.some.inj (Option.ite_none_left_eq_some.mp flaw).2).symm⟩)
      · cases flaw
  | _ => cases flaw

theorem mem_crossedBounds_iff {min max : Option Nat} {minName maxName : String} :
    kind ∈ crossedBounds min max minName maxName ↔ ∃ lo hi, min = some lo ∧ max = some hi ∧
      hi < lo ∧ kind = .unsatisfiableBounds minName maxName := by
  cases min <;> cases max <;> simp [crossedBounds]

theorem NumberRule.mem_crossed_iff {lower upper : Option (Binary64 × Bool)} :
    kind ∈ crossed lower upper ↔ ∃ lo hi, lower = some lo ∧ upper = some hi ∧
      (hi.1.lt lo.1 || (lo.1.eq hi.1 && (lo.2 || hi.2))) = true ∧
      kind = .unsatisfiableBounds (boundName "minimum" "exclusiveMinimum" lo.2)
        (boundName "maximum" "exclusiveMaximum" hi.2) := by
  unfold crossed
  split
  · simp [List.mem_ite_nil_right]
  · next neither =>
    simp only [List.not_mem_nil, false_iff]
    rintro ⟨lo, hi, rfl, rfl, -⟩
    exact neither _ _ _ _ rfl rfl

theorem Node.crossed_kind (crossed : kind ∈ node.crossed) :
    ∃ lower upper, kind = .unsatisfiableBounds lower upper := by
  have ofCounts {min max : Option Nat} {minName maxName : String}
      (counts : kind ∈ crossedBounds min max minName maxName) :
      ∃ lower upper, kind = .unsatisfiableBounds lower upper := by
    obtain ⟨-, -, -, -, -, found⟩ := mem_crossedBounds_iff.mp counts
    exact ⟨_, _, found⟩
  have ofNumbers {lower upper : Option (Binary64 × Bool)}
      (bounds : kind ∈ NumberRule.crossed lower upper) :
      ∃ lower upper, kind = .unsatisfiableBounds lower upper := by
    obtain ⟨lo, hi, -, -, -, found⟩ := NumberRule.mem_crossed_iff.mp bounds
    exact ⟨_, _, found⟩
  cases node with
  | scalar type format c =>
    cases type with
    | string => exact ofCounts crossed
    | number => exact ofNumbers crossed
    | integer => exact ofNumbers crossed
    | _ => cases crossed
  | array items count unique => exact ofCounts crossed
  | object properties required count additional => exact ofCounts crossed
  | _ => cases crossed

/-- No node is remarked to refer to itself: that takes more than a node. -/
theorem Node.remark_ne_recursion (remark : kind ∈ node.remarks) (cycle : List String) :
    kind ≠ .unguardedRecursion cycle := by
  rintro rfl
  rcases mem_remarks_iff.mp remark with flaw | crossed | ⟨token, raw, -, unknown⟩
  · simpa using flaw_kind flaw
  · simpa using crossed_kind crossed
  · cases unknown

/-- Bounds are remarked exactly where they leave nothing between them. -/
theorem Node.bounds_remarked_iff {lower upper : String} :
    .unsatisfiableBounds lower upper ∈ node.remarks ↔
      .unsatisfiableBounds lower upper ∈ node.crossed := by
  rw [mem_remarks_iff]
  constructor
  · rintro (flaw | crossed | ⟨token, raw, -, unknown⟩)
    · simpa using flaw_kind flaw
    · exact crossed
    · cases unknown
  · exact fun crossed => .inr (.inl crossed)

end Kinds

/-! ## Lists that are put together -/

section Lists

variable {α β γ : Type} {as : List α} {bs : List β} {f : α → List γ} {g : β → List γ}

private theorem flatMap_perm_of_related
    (each : List.Forall₂ (fun a b => (g b).Perm (f a)) as bs) :
    (bs.flatMap g).Perm (as.flatMap f) := by
  induction each with
  | nil => exact .nil
  | cons first _ ih => exact first.append ih

private theorem sublist_flatMap_of_mem {b : β} (member : b ∈ bs) :
    (g b).Sublist (bs.flatMap g) := by
  rw [List.flatMap_def]
  exact List.sublist_flatten_of_mem (List.mem_map_of_mem member)

end Lists

/-! ## The parts of a node -/

/-- A schema for other members is part of its object. -/
def additionalParts (pointer : List String) : Additional Node → List (List String × Node)
  | .allow | .deny => []
  | .schema node => [(pointer ++ ["additionalProperties"], node)]

/-- The nodes that a node is made of, each with the segments that lead to it. -/
def Node.parts (pointer : List String) : Node → List (List String × Node)
  | .array items _ _ => [(pointer ++ ["items"], items)]
  | .object properties _ _ additional =>
    (properties.map fun property => (pointer ++ ["properties", property.1], property.2))
      ++ additionalParts pointer additional
  | .union mode branches => branches.zipIdx.map fun branch =>
    (pointer ++ [mode.keyword, toString branch.2], branch.1)
  | .intersection branches => branches.zipIdx.map fun branch =>
    (pointer ++ ["allOf", toString branch.2], branch.1)
  | .negation inner => [(pointer ++ ["not"], inner)]
  | _ => []

private theorem branchPlaces_eq (pointer : List String) (index : Nat) (branches : List Node) :
    branchPlaces pointer index branches = (branches.zipIdx index).flatMap fun branch =>
      branch.1.places (pointer ++ [toString branch.2]) := by
  induction branches generalizing index with
  | nil => rfl
  | cons branch rest ih => rw [branchPlaces, ih, List.zipIdx_cons, List.flatMap_cons]

private theorem propertyPlaces_eq (pointer : List String) (properties : List (String × Node)) :
    propertyPlaces pointer properties = properties.flatMap fun property =>
      property.2.places (pointer ++ [property.1]) := by
  induction properties with
  | nil => rfl
  | cons property rest ih => rw [propertyPlaces, ih, List.flatMap_cons]

/-- The places in a node are its own and those in its parts. -/
theorem Node.places_eq (pointer : List String) (node : Node) :
    node.places pointer =
      (pointer, node) :: (node.parts pointer).flatMap fun part => part.2.places part.1 := by
  cases node with
  | object properties required count additional =>
    rw [places, propertyPlaces_eq, parts, List.flatMap_append, List.flatMap_map]
    cases additional <;> simp [additionalPlaces, additionalParts]
  | union mode branches =>
    rw [places, branchPlaces_eq, parts, List.flatMap_map]
    simp
  | intersection branches =>
    rw [places, branchPlaces_eq, parts, List.flatMap_map]
    simp
  | _ => simp [places, parts]

/-- What holds of a node once it holds of its parts holds of all nodes. -/
theorem Node.parts_induction {motive : Node → Prop}
    (step : ∀ node : Node, (∀ pointer, ∀ part ∈ node.parts pointer, motive part.2) → motive node)
    (node : Node) : motive node := by
  induction node with
  | array items count unique ih => exact step _ (by simpa [parts] using ih)
  | negation inner ih => exact step _ (by simpa [parts] using ih)
  | union mode branches ih =>
    refine step _ fun pointer part member => ?_
    obtain ⟨branch, inside, rfl⟩ := List.mem_map.mp member
    exact ih branch.1 (List.fst_mem_of_mem_zipIdx inside)
  | intersection branches ih =>
    refine step _ fun pointer part member => ?_
    obtain ⟨branch, inside, rfl⟩ := List.mem_map.mp member
    exact ih branch.1 (List.fst_mem_of_mem_zipIdx inside)
  | object properties required count additional ih ihAdd =>
    refine step _ fun pointer part member => ?_
    rcases List.mem_append.mp member with declared | other
    · obtain ⟨property, inside, rfl⟩ := List.mem_map.mp declared
      exact ih property inside
    · cases additional with
      | schema node =>
        obtain rfl := List.mem_singleton.mp other
        exact ihAdd node rfl
      | _ => cases other
  | _ => exact step _ fun pointer part member => by cases member

/-- Parts stand below their node. -/
theorem Node.below_of_mem_parts {node : Node} {pointer : List String} {part : List String × Node}
    (member : part ∈ node.parts pointer) :
    ∃ segment rest, part.1 = pointer ++ segment :: rest := by
  cases node with
  | array items count unique => exact ⟨"items", [], by simp_all [parts]⟩
  | negation inner => exact ⟨"not", [], by simp_all [parts]⟩
  | union mode branches =>
    obtain ⟨branch, -, rfl⟩ := List.mem_map.mp member
    exact ⟨_, _, rfl⟩
  | intersection branches =>
    obtain ⟨branch, -, rfl⟩ := List.mem_map.mp member
    exact ⟨_, _, rfl⟩
  | object properties required count additional =>
    rcases List.mem_append.mp member with declared | other
    · obtain ⟨property, -, rfl⟩ := List.mem_map.mp declared
      exact ⟨_, _, rfl⟩
    · cases additional with
      | schema node =>
        obtain rfl := List.mem_singleton.mp other
        exact ⟨_, _, rfl⟩
      | _ => cases other
  | _ => cases member

/-- All places in a node but its own are below it. -/
theorem Node.below_of_mem_places {node : Node} {pointer : List String} {place : List String × Node}
    (member : place ∈ node.places pointer) :
    place = (pointer, node) ∨ ∃ segment rest, place.1 = pointer ++ segment :: rest := by
  induction node using Node.parts_induction generalizing pointer with
  | step node ih =>
    rw [places_eq, List.mem_cons, List.mem_flatMap] at member
    refine member.imp_right ?_
    rintro ⟨part, among, inside⟩
    obtain ⟨segment, rest, below⟩ := below_of_mem_parts among
    rcases ih pointer part among inside with rfl | ⟨next, more, deeper⟩
    · exact ⟨segment, rest, below⟩
    · exact ⟨segment, rest ++ next :: more, by simp [deeper, below]⟩

/-! ## Compilation -/

theorem compileScalar_findings (site : Site) (kind : ScalarKind) (format : Option Format)
    (c : Constraints) : (compileScalar site kind format c).findings =
      site.findings (Node.scalar kind format c).remarks := by
  cases kind <;> rfl

section Nodes

variable {names : List String} {entry : String} {pointer : List String}

/-- What stands at a place of the entry compiles to this. -/
def CompilesAt (names : List String) (entry : String) (place : List String × Node)
    (c : Compiled Check) : Prop :=
  compileNode ⟨names, entry, place.1⟩ place.2 = .ok c

private theorem compileBranches_parts {keyword : String} {branches : List Node} {index : Nat}
    {out : Compiled (List Check)}
    (compiled : compileBranches ⟨names, entry, pointer ++ [keyword]⟩ index branches = .ok out) :
    ∃ parts, List.Forall₂ (CompilesAt names entry)
        ((branches.zipIdx index).map fun branch =>
          (pointer ++ [keyword, toString branch.2], branch.1)) parts ∧
      out.findings = parts.flatMap Compiled.findings := by
  induction branches generalizing index out with
  | nil =>
    cases compiled
    exact ⟨[], .nil, rfl⟩
  | cons branch rest ih =>
    obtain ⟨part, first, compiled⟩ := steps_of_ok compiled
    obtain ⟨others, later, compiled⟩ := steps_of_ok compiled
    cases compiled
    obtain ⟨parts, each, found⟩ := ih later
    refine ⟨part :: parts, .cons ?_ each, ?_⟩
    · simpa [CompilesAt, Site.within] using first
    · rw [List.flatMap_cons, ← found]
      rfl

private theorem compileProperties_parts {properties : List (String × Node)}
    {out : Compiled (List (String × Check))}
    (compiled : compileProperties ⟨names, entry, pointer ++ ["properties"]⟩ properties = .ok out) :
    ∃ parts, List.Forall₂ (CompilesAt names entry)
        (properties.map fun property => (pointer ++ ["properties", property.1], property.2)) parts ∧
      out.findings = parts.flatMap Compiled.findings := by
  induction properties generalizing out with
  | nil =>
    cases compiled
    exact ⟨[], .nil, rfl⟩
  | cons property rest ih =>
    obtain ⟨part, first, compiled⟩ := steps_of_ok compiled
    obtain ⟨others, later, compiled⟩ := steps_of_ok compiled
    cases compiled
    obtain ⟨parts, each, found⟩ := ih later
    refine ⟨part :: parts, .cons ?_ each, ?_⟩
    · simpa [CompilesAt, Site.within] using first
    · rw [List.flatMap_cons, ← found]
      rfl

/-- A node compiles with its parts, and finds what they find and then its own remarks. -/
theorem compileNode_parts {node : Node} {c : Compiled Check}
    (compiled : compileNode ⟨names, entry, pointer⟩ node = .ok c) :
    ∃ parts, List.Forall₂ (CompilesAt names entry) (node.parts pointer) parts ∧
      c.findings = parts.flatMap Compiled.findings ++
        node.remarks.map fun kind => ⟨entry, pointer, kind⟩ := by
  cases node with
  | scalar kind format constraints =>
    cases compiled
    exact ⟨[], .nil, compileScalar_findings ⟨names, entry, pointer⟩ kind format constraints⟩
  | enum values =>
    cases compiled
    exact ⟨[], .nil, rfl⟩
  | unknown token raw =>
    cases compiled
    exact ⟨[], .nil, rfl⟩
  | reference name =>
    simp only [compileNode] at compiled
    split at compiled
    · cases compiled
      exact ⟨[], .nil, rfl⟩
    · cases compiled
  | array items count unique =>
    obtain ⟨inner, first, compiled⟩ := steps_of_ok compiled
    cases compiled
    exact ⟨[inner], .cons first .nil, by simp [Compiled.noting, Compiled.map, Compiled.guarded,
      Site.findings, Node.remarks, ArrayRule.draft]⟩
  | negation inner =>
    obtain ⟨part, first, compiled⟩ := steps_of_ok compiled
    cases compiled
    exact ⟨[part], .cons first .nil, by simp [Compiled.map, Node.remarks]⟩
  | union mode branches =>
    obtain ⟨out, first, compiled⟩ := steps_of_ok compiled
    cases compiled
    obtain ⟨parts, each, found⟩ := compileBranches_parts first
    exact ⟨parts, each, by simp [Compiled.map, Node.remarks, found]⟩
  | intersection branches =>
    obtain ⟨out, first, compiled⟩ := steps_of_ok compiled
    cases compiled
    obtain ⟨parts, each, found⟩ := compileBranches_parts first
    exact ⟨parts, each, by simp [Compiled.map, Node.remarks, found]⟩
  | object properties required count additional =>
    obtain ⟨declared, first, compiled⟩ := steps_of_ok compiled
    obtain ⟨extra, second, compiled⟩ := steps_of_ok compiled
    cases compiled
    obtain ⟨parts, each, found⟩ := compileProperties_parts first
    have others : ∃ more,
        List.Forall₂ (CompilesAt names entry) (additionalParts pointer additional) more ∧
          extra.findings = more.flatMap Compiled.findings := by
      cases additional with
      | schema node =>
        obtain ⟨part, own, second⟩ := steps_of_ok second
        cases second
        exact ⟨[part], .cons own .nil, by simp [Compiled.map]⟩
      | _ =>
        cases second
        exact ⟨[], .nil, rfl⟩
    obtain ⟨more, rest, foundMore⟩ := others
    refine ⟨parts ++ more, List.rel_append each rest, ?_⟩
    simp [Compiled.noting, Compiled.guarded, Compiled.pair, Site.findings, Node.remarks,
      ObjectRule.draft, found, foundMore]

/-- What a node finds is what is remarked at all places in it. -/
theorem compileNode_findings {node : Node} {c : Compiled Check}
    (compiled : compileNode ⟨names, entry, pointer⟩ node = .ok c) :
    c.findings.Perm (remarksAt entry (node.places pointer)) := by
  induction node using Node.parts_induction generalizing pointer c with
  | step node ih =>
    obtain ⟨parts, each, found⟩ := compileNode_parts compiled
    have inParts : (parts.flatMap Compiled.findings).Perm
        ((node.parts pointer).flatMap fun part => remarksAt entry (part.2.places part.1)) :=
      flatMap_perm_of_related (forall₂_imp_of_mem each fun part member c _ compiles =>
        ih pointer part member compiles)
    rw [found, Node.places_eq, remarksAt, List.flatMap_cons, List.flatMap_assoc]
    exact List.perm_append_comm.trans (inParts.append_left _)

/-- Every place in a node compiles, and finds what it finds there. -/
theorem compileNode_places {node : Node} {c : Compiled Check}
    (compiled : compileNode ⟨names, entry, pointer⟩ node = .ok c) {place : List String × Node}
    (member : place ∈ node.places pointer) :
    ∃ inner, CompilesAt names entry place inner ∧ inner.findings.Sublist c.findings := by
  induction node using Node.parts_induction generalizing pointer c with
  | step node ih =>
    obtain ⟨parts, each, found⟩ := compileNode_parts compiled
    rw [Node.places_eq, List.mem_cons, List.mem_flatMap] at member
    rcases member with rfl | ⟨part, among, inside⟩
    · exact ⟨c, compiled, List.Sublist.refl _⟩
    · obtain ⟨index, at'⟩ := List.mem_iff_getElem?.mp among
      obtain ⟨own, atOwn, compiles⟩ := forall₂_getElem? each at'
      obtain ⟨inner, there, sublist⟩ := ih pointer part among compiles inside
      have inParts := sublist.trans (sublist_flatMap_of_mem (List.mem_of_getElem? atOwn))
      exact ⟨inner, there, found ▸ inParts.trans (List.sublist_append_left _ _)⟩

/-- What a node finds at its own place is what is remarked at it. -/
theorem mem_findings_own_iff {node : Node} {c : Compiled Check} {kind : FindingKind}
    (compiled : compileNode ⟨names, entry, pointer⟩ node = .ok c) :
    ⟨entry, pointer, kind⟩ ∈ c.findings ↔ kind ∈ node.remarks := by
  rw [(compileNode_findings compiled).mem_iff, mem_remarksAt_iff]
  constructor
  · rintro ⟨-, inner, member, remark⟩
    rcases Node.below_of_mem_places member with same | ⟨segment, rest, below⟩
    · cases same
      exact remark
    · exact absurd below (by simp)
  · exact fun remark => ⟨rfl, node, Node.places_eq pointer node ▸ List.mem_cons_self, remark⟩

end Nodes

/-! ## Documents -/

namespace Registry

variable {d : Document} {r : Registry} {compiled : List (Compiled Check)}

/-- What a build finds in the entries is what is remarked at their nodes. -/
theorem BuiltFrom.findings_perm (built : BuiltFrom d r compiled) :
    (compiled.flatMap Compiled.findings).Perm d.remarks :=
  flatMap_perm_of_related (built.entries.imp fun _ _ => compileNode_findings)

/-- Every place in an entry compiles, and what it finds is found by the build. -/
theorem BuiltFrom.place_compiles (built : BuiltFrom d r compiled) {entry : String × Node}
    (member : entry ∈ d.entries) {place : List String × Node} (inside : place ∈ entry.2.places []) :
    ∃ c, CompilesAt d.names entry.1 place c ∧
      c.findings.Sublist (compiled.flatMap Compiled.findings) := by
  obtain ⟨slot, at'⟩ := List.mem_iff_getElem?.mp member
  obtain ⟨own, atOwn, compiles⟩ := forall₂_getElem? built.entries at'
  obtain ⟨c, there, sublist⟩ := compileNode_places compiles inside
  exact ⟨c, there, sublist.trans (sublist_flatMap_of_mem (List.mem_of_getElem? atOwn))⟩

end Registry
end DataSchema
