import DataSchema.Proofs.Compilation

/-!
Refinements that make no sense. Each is lost alone: a document that has some means what it means
without them, and all that is found besides is one finding for each of them, at its place.
-/
namespace DataSchema

/-! ## Lists that are put together -/

/-- The third list has the items of the first and of the second, each in their order. -/
inductive Interleaves {α : Type} : List α → List α → List α → Prop
  | nil : Interleaves [] [] []
  | left {xs ys zs} (x : α) (rest : Interleaves xs ys zs) : Interleaves (x :: xs) ys (x :: zs)
  | right {xs ys zs} (y : α) (rest : Interleaves xs ys zs) : Interleaves xs (y :: ys) (y :: zs)

namespace Interleaves

variable {α : Type} {xs ys zs us vs ws : List α}

theorem append (first : Interleaves xs ys zs) (second : Interleaves us vs ws) :
    Interleaves (xs ++ us) (ys ++ vs) (zs ++ ws) := by
  induction first with
  | nil => exact second
  | left x _ ih => exact .left x ih
  | right y _ ih => exact .right y ih

theorem left_only : ∀ xs : List α, Interleaves xs [] xs
  | [] => .nil
  | x :: xs => .left x (left_only xs)

theorem right_only : ∀ ys : List α, Interleaves [] ys ys
  | [] => .nil
  | y :: ys => .right y (right_only ys)

/-- Items that are put before and after others. -/
theorem around (before xs after : List α) :
    Interleaves xs (before ++ after) (before ++ xs ++ after) := by
  simpa using ((right_only before).append (left_only xs)).append (right_only after)

theorem map {β : Type} (f : α → β) (all : Interleaves xs ys zs) :
    Interleaves (xs.map f) (ys.map f) (zs.map f) := by
  induction all with
  | nil => exact .nil
  | left x _ ih => exact .left (f x) ih
  | right y _ ih => exact .right (f y) ih

end Interleaves

/-! ## Flaws -/

/-- The formats that say something of a kind, or are known to say nothing. -/
def ScalarKind.formats : ScalarKind → List Format
  | .string => [.uuid, .email, .uri, .dateTime, .date, .other "password", .other "byte",
      .other "binary"]
  | .number | .integer => [.int32, .int64, .other "float", .other "double"]
  | .boolean | .null => []

/-- A format that a kind does not have. -/
def formatFlaw? (kind : ScalarKind) (format : Format) : Option FindingKind :=
  if format ∈ kind.formats then none else some (.unknownFormat kind format.token)

/-- A pattern of a string that cannot be read, with what is said of it. -/
def patternFlaw? (kind : ScalarKind) (source : String) : Option FindingKind :=
  match kind with
  | .string =>
    match Pattern.compile source with
    | .ok _ => none
    | .error refusal => some (.patternCompile source refusal.summary)
  | _ => none

/-- A factor of a number that is not finite and positive. -/
def factorFlaw? (kind : ScalarKind) (factor : Binary64) : Option FindingKind :=
  match kind with
  | .number | .integer =>
    if factor.isFinite && Binary64.zero.lt factor then none
    else some (.invalidConstraint "multipleOf"
      ("must be a positive number, found " ++ factor.format .plain))
  | _ => none

/-- What is wrong with the refinements of a node, by itself. -/
def Node.flaws : Node → List FindingKind
  | .scalar kind format c =>
    (format.bind (formatFlaw? kind)).toList ++ (c.pattern.bind (patternFlaw? kind)).toList
      ++ (c.multipleOf.bind (factorFlaw? kind)).toList
  | _ => []

mutual

/-- A node and all nodes at any depth of it, each with the segments that lead to it, in the order of
the work. -/
def Node.places (pointer : List String) (node : Node) : List (List String × Node) :=
  (pointer, node) ::
    match node with
    | .array items _ _ => items.places (pointer ++ ["items"])
    | .object properties _ _ additional =>
      propertyPlaces (pointer ++ ["properties"]) properties ++ additionalPlaces pointer additional
    | .union mode branches => branchPlaces (pointer ++ [mode.keyword]) 0 branches
    | .intersection branches => branchPlaces (pointer ++ ["allOf"]) 0 branches
    | .negation inner => inner.places (pointer ++ ["not"])
    | _ => []

def branchPlaces (pointer : List String) (index : Nat) : List Node → List (List String × Node)
  | [] => []
  | node :: rest =>
    node.places (pointer ++ [toString index]) ++ branchPlaces pointer (index + 1) rest

def propertyPlaces (pointer : List String) : List (String × Node) → List (List String × Node)
  | [] => []
  | (name, node) :: rest => node.places (pointer ++ [name]) ++ propertyPlaces pointer rest

def additionalPlaces (pointer : List String) : Additional Node → List (List String × Node)
  | .allow | .deny => []
  | .schema node => node.places (pointer ++ ["additionalProperties"])

end

/-- The findings on flaws of nodes at places of an entry. -/
def flawsAt (entry : String) (places : List (List String × Node)) : List Finding :=
  places.flatMap fun place => place.2.flaws.map fun kind => ⟨entry, place.1, kind⟩

/-- The findings on all flaws of a document, in the order of the work. -/
def Document.flaws (d : Document) : List Finding :=
  d.entries.flatMap fun entry => flawsAt entry.1 (entry.2.places [])

/-! ## Without flaws -/

/-- What has no flaw. -/
def unflawed {α : Type} (flaw? : α → Option FindingKind) (refinement : Option α) : Option α :=
  refinement.filter fun x => (flaw? x).isNone

def Constraints.mended (kind : ScalarKind) (c : Constraints) : Constraints :=
  { c with pattern := unflawed (patternFlaw? kind) c.pattern
           multipleOf := unflawed (factorFlaw? kind) c.multipleOf }

mutual

/-- The node without the refinements that make no sense, at any depth. -/
def Node.mended : Node → Node
  | .scalar kind format c => .scalar kind (unflawed (formatFlaw? kind) format) (c.mended kind)
  | .array items count unique => .array items.mended count unique
  | .object properties required count additional =>
    .object (mendedProperties properties) required count (mendedAdditional additional)
  | .union mode branches => .union mode (mendedBranches branches)
  | .intersection branches => .intersection (mendedBranches branches)
  | .negation inner => .negation inner.mended
  | .enum values => .enum values
  | .reference name => .reference name
  | .unknown token raw => .unknown token raw

def mendedBranches : List Node → List Node
  | [] => []
  | node :: rest => node.mended :: mendedBranches rest

def mendedProperties : List (String × Node) → List (String × Node)
  | [] => []
  | (name, node) :: rest => (name, node.mended) :: mendedProperties rest

def mendedAdditional : Additional Node → Additional Node
  | .allow => .allow
  | .deny => .deny
  | .schema node => .schema node.mended

end

/-- The document without the refinements that make no sense. -/
def Document.mended (d : Document) : Document :=
  { d with entries := d.entries.map fun entry => (entry.1, entry.2.mended) }

/-- What is left of a refinement has no flaw. -/
theorem bind_unflawed {α : Type} (flaw? : α → Option FindingKind) (refinement : Option α) :
    (unflawed flaw? refinement).bind flaw? = none := by
  cases refinement with
  | none => rfl
  | some x => cases flaw : flaw? x <;> simp [unflawed, Option.filter, flaw]

theorem Node.flaws_mended (node : Node) : node.mended.flaws = [] := by
  cases node with
  | scalar kind format c =>
    simp only [mended, flaws, Constraints.mended, bind_unflawed]
    rfl
  | _ => rfl

/-- What stands at a place, without its flaws. -/
def mendedPlace (place : List String × Node) : List String × Node := (place.1, place.2.mended)

theorem branchPlaces_mended {branches : List Node}
    (each : ∀ branch ∈ branches, ∀ pointer,
      branch.mended.places pointer = (branch.places pointer).map mendedPlace)
    (pointer : List String) (index : Nat) :
    branchPlaces pointer index (mendedBranches branches) =
      (branchPlaces pointer index branches).map mendedPlace := by
  induction branches generalizing index with
  | nil => rfl
  | cons branch rest ih =>
    have others := ih (fun other member => each other (by simp [member])) (index + 1)
    rw [mendedBranches, branchPlaces, branchPlaces, List.map_append, each branch (by simp), others]

theorem propertyPlaces_mended {properties : List (String × Node)}
    (each : ∀ property ∈ properties, ∀ pointer,
      property.2.mended.places pointer = (property.2.places pointer).map mendedPlace)
    (pointer : List String) :
    propertyPlaces pointer (mendedProperties properties) =
      (propertyPlaces pointer properties).map mendedPlace := by
  induction properties with
  | nil => rfl
  | cons property rest ih =>
    have others := ih fun other member => each other (by simp [member])
    rw [mendedProperties, propertyPlaces, propertyPlaces, List.map_append, each property (by simp),
      others]

/-- The parts of a node without flaws are its parts, each without its own. -/
theorem Node.places_mended (node : Node) (pointer : List String) :
    node.mended.places pointer = (node.places pointer).map mendedPlace := by
  induction node generalizing pointer with
  | scalar kind format constraints => rfl
  | enum values => rfl
  | unknown token raw => rfl
  | reference name => rfl
  | array items count unique ih => exact congrArg _ (ih (pointer ++ ["items"]))
  | negation inner ih => exact congrArg _ (ih (pointer ++ ["not"]))
  | union mode branches ih =>
    exact congrArg _ (branchPlaces_mended ih (pointer ++ [mode.keyword]) 0)
  | intersection branches ih =>
    exact congrArg _ (branchPlaces_mended ih (pointer ++ ["allOf"]) 0)
  | object properties required count additional ih ihAdd =>
    have declared := propertyPlaces_mended ih (pointer ++ ["properties"])
    have others : additionalPlaces pointer (mendedAdditional additional) =
        (additionalPlaces pointer additional).map mendedPlace := by
      cases additional with
      | schema node => exact ihAdd node rfl (pointer ++ ["additionalProperties"])
      | _ => rfl
    rw [mended, places, places, declared, others, List.map_cons, List.map_append]
    rfl

/-- No flaw is left in a document without its flaws. -/
theorem Document.flaws_mended (d : Document) : d.mended.flaws = [] := by
  have none (entry : String × Node) : flawsAt entry.1 (entry.2.mended.places []) = [] := by
    rw [Node.places_mended, flawsAt, List.flatMap_map]
    exact List.flatMap_eq_nil_iff.mpr fun place _ =>
      List.map_eq_nil_iff.mpr (Node.flaws_mended place.2)
  rw [flaws, mended, List.flatMap_map]
  exact List.flatMap_eq_nil_iff.mpr fun entry _ => none entry

/-! ## Rules -/

/-- Rules are drafted for a refinement that has no flaw, and a flaw is all that is found. -/
structure DraftsUnflawed {α β : Type} (draft : Option α → Drafted β)
    (flaw? : α → Option FindingKind) : Prop where
  absent : draft none = ([], [])
  sound : ∀ x, flaw? x = none → (draft (some x)).2 = []
  flawed : ∀ x kind, flaw? x = some kind → draft (some x) = ([], [kind])

namespace DraftsUnflawed

variable {α β : Type} {draft : Option α → Drafted β} {flaw? : α → Option FindingKind}

theorem found_eq (drafts : DraftsUnflawed draft flaw?) (refinement : Option α) :
    (draft refinement).2 = (refinement.bind flaw?).toList := by
  cases refinement with
  | none => rw [drafts.absent]; rfl
  | some x =>
    cases flaw : flaw? x with
    | none => rw [drafts.sound x flaw, Option.bind_some, flaw]; rfl
    | some kind => rw [drafts.flawed x kind flaw, Option.bind_some, flaw]; rfl

/-- Nothing is found without flaws, and the rules are the same. -/
theorem unflawed_eq (drafts : DraftsUnflawed draft flaw?) (refinement : Option α) :
    draft (unflawed flaw? refinement) = ((draft refinement).1, []) := by
  cases refinement with
  | none => rw [drafts.absent, unflawed, Option.filter_none, drafts.absent]
  | some x =>
    cases flaw : flaw? x with
    | none =>
      have kept : unflawed flaw? (some x) = some x := by simp [unflawed, Option.filter, flaw]
      rw [kept, ← drafts.sound x flaw]
    | some kind =>
      have dropped : unflawed flaw? (some x) = none := by simp [unflawed, Option.filter, flaw]
      rw [dropped, drafts.absent, drafts.flawed x kind flaw]

end DraftsUnflawed

theorem formatFlaw?_eq_none_iff {kind : ScalarKind} {format : Format} :
    formatFlaw? kind format = none ↔ format ∈ kind.formats := by
  simp [formatFlaw?]

theorem formatFlaw?_eq_some_iff {kind : ScalarKind} {format : Format} {found : FindingKind} :
    formatFlaw? kind format = some found ↔
      format ∉ kind.formats ∧ .unknownFormat kind format.token = found := by
  simp [formatFlaw?]

theorem StringRule.ofFormat_drafts : DraftsUnflawed ofFormat (formatFlaw? .string) where
  absent := rfl
  sound format known := by
    rw [formatFlaw?_eq_none_iff] at known
    cases format <;> simp_all [ScalarKind.formats, ofFormat, textFormat?, annotations, Format.token]
  flawed format found unknown := by
    obtain ⟨unknown, rfl⟩ := formatFlaw?_eq_some_iff.mp unknown
    cases format <;> simp_all [ScalarKind.formats, ofFormat, textFormat?, annotations, Format.token]

theorem StringRule.ofPattern_drafts : DraftsUnflawed ofPattern (patternFlaw? .string) where
  absent := rfl
  sound source flaw := by
    unfold patternFlaw? at flaw
    unfold ofPattern
    cases compiled : Pattern.compile source <;> simp_all
  flawed source kind flaw := by
    unfold patternFlaw? at flaw
    unfold ofPattern
    cases compiled : Pattern.compile source <;> simp_all

section Numbers

variable {kind : ScalarKind} (numeric : kind = .number ∨ kind = .integer)
include numeric

theorem NumberRule.ofFormat_drafts : DraftsUnflawed (ofFormat kind) (formatFlaw? kind) := by
  have formats : kind.formats = [.int32, .int64, .other "float", .other "double"] := by
    rcases numeric with rfl | rfl <;> rfl
  refine ⟨rfl, ?_, ?_⟩
  · intro format known
    rw [formatFlaw?_eq_none_iff, formats] at known
    cases format <;> simp_all [ofFormat]
  · intro format found flaw
    obtain ⟨unknown, rfl⟩ := formatFlaw?_eq_some_iff.mp flaw
    rw [formats] at unknown
    cases format <;> simp_all [ofFormat]

theorem NumberRule.ofFactor_drafts : DraftsUnflawed ofFactor (factorFlaw? kind) := by
  have flaw_eq : factorFlaw? kind = factorFlaw? .number := by
    rcases numeric with rfl | rfl <;> rfl
  rw [flaw_eq]
  refine ⟨rfl, ?_, ?_⟩
  · intro factor fine
    unfold factorFlaw? at fine
    unfold ofFactor
    split <;> simp_all
  · intro factor found flaw
    unfold factorFlaw? at flaw
    unfold ofFactor
    split <;> simp_all

end Numbers

/-! ## Compilation -/

/-- The second work has made what the first has made, and has these findings besides. -/
structure Compiled.Loses {α : Type} (c₀ : Compiled α) (lost : List Finding) (c : Compiled α) :
    Prop where
  value : c₀.value = c.value
  unguarded : c₀.unguarded = c.unguarded
  findings : Interleaves c₀.findings lost c.findings

namespace Compiled.Loses

variable {α β γ : Type} {a₀ a : Compiled α} {b₀ b : Compiled β} {lost more : List Finding}

theorem map (f : α → β) (loses : a₀.Loses lost a) : (a₀.map f).Loses lost (a.map f) :=
  ⟨congrArg f loses.value, loses.unguarded, loses.findings⟩

theorem guarded (loses : a₀.Loses lost a) : a₀.guarded.Loses lost a.guarded :=
  ⟨loses.value, rfl, loses.findings⟩

/-- What is found afterwards is found by both. -/
theorem noting (found : List Finding) (loses : a₀.Loses lost a) :
    (a₀.noting found).Loses lost (a.noting found) := by
  have after := loses.findings.append (.left_only found)
  rw [List.append_nil] at after
  exact ⟨loses.value, loses.unguarded, after⟩

theorem pair (f : α → β → γ) (first : a₀.Loses lost a) (second : b₀.Loses more b) :
    (a₀.pair f b₀).Loses (lost ++ more) (a.pair f b) := by
  refine ⟨?_, ?_, first.findings.append second.findings⟩
  · rw [Compiled.pair, Compiled.pair, first.value, second.value]
  · rw [Compiled.pair, Compiled.pair, first.unguarded, second.unguarded]

/-- Nothing is lost by the same work. -/
theorem refl (c : Compiled α) : c.Loses [] c := ⟨rfl, rfl, .left_only _⟩

end Compiled.Loses

/-- The first work succeeds if the second does, and makes the same without these findings. -/
def Mends {α : Type} (result₀ : Except SchemaError (Compiled α)) (lost : List Finding)
    (result : Except SchemaError (Compiled α)) : Prop :=
  ∀ c, result = .ok c → ∃ c₀, result₀ = .ok c₀ ∧ c₀.Loses lost c

namespace Mends

variable {α β : Type} {result₀ result : Except SchemaError (Compiled α)}
  {lost more : List Finding}

theorem ok {c₀ c : Compiled α} (loses : c₀.Loses lost c) : Mends (.ok c₀) lost (.ok c) := by
  intro c' same
  cases same
  exact ⟨c₀, rfl, loses⟩

theorem refl (result : Except SchemaError (Compiled α)) : Mends result [] result :=
  fun c succeeded => ⟨c, succeeded, .refl c⟩

/-- Work goes on alike from what is alike. -/
theorem bind {next₀ next : Compiled α → Except SchemaError (Compiled β)}
    (first : Mends result₀ lost result)
    (rest : ∀ c₀ c, c₀.Loses lost c → Mends (next₀ c₀) more (next c)) :
    Mends (result₀.bind next₀) more (result.bind next) := by
  intro c succeeded
  obtain ⟨a, given, succeeded⟩ := steps_of_ok succeeded
  obtain ⟨a₀, given₀, loses⟩ := first a given
  rw [given₀]
  exact rest a₀ a loses c succeeded

theorem map {f₀ f : Compiled α → Compiled β} (first : Mends result₀ lost result)
    (step : ∀ c₀ c, c₀.Loses lost c → (f₀ c₀).Loses more (f c)) :
    Mends (result₀.bind fun c => .ok (f₀ c)) more (result.bind fun c => .ok (f c)) :=
  first.bind fun c₀ c loses => ok (step c₀ c loses)

end Mends

@[simp] theorem flawsAt_nil (entry : String) : flawsAt entry [] = [] := rfl

@[simp] theorem flawsAt_cons (entry : String) (pointer : List String) (node : Node)
    (places : List (List String × Node)) : flawsAt entry ((pointer, node) :: places) =
      node.flaws.map (fun kind => ⟨entry, pointer, kind⟩) ++ flawsAt entry places := rfl

@[simp] theorem flawsAt_append (entry : String) (places more : List (List String × Node)) :
    flawsAt entry (places ++ more) = flawsAt entry places ++ flawsAt entry more :=
  List.flatMap_append

/-- Rules that are the same, with findings besides. -/
theorem Site.drafted_loses {α : Type} (site : Site) (check : List α → Check) {d₀ d : Drafted α}
    {lost : List FindingKind} (rules : d₀.1 = d.1) (found : Interleaves d₀.2 lost d.2) :
    (site.drafted check d₀).Loses (site.findings lost) (site.drafted check d) :=
  ⟨congrArg check rules, rfl, found.map _⟩

section Scalars

variable (format : Option Format) (c : Constraints)

/-- The flaws of a string are its format, first of all, and its pattern, after all. -/
theorem StringRule.draft_mended :
    (draft (unflawed (formatFlaw? .string) format) (c.mended .string)).1 = (draft format c).1 ∧
      Interleaves (draft (unflawed (formatFlaw? .string) format) (c.mended .string)).2
        (Node.scalar .string format c).flaws (draft format c).2 := by
  have noFactor : c.multipleOf.bind (factorFlaw? .string) = none := by cases c.multipleOf <;> rfl
  simp only [draft, Constraints.mended, Node.flaws, ofFormat_drafts.unflawed_eq,
    ofPattern_drafts.unflawed_eq, ← ofFormat_drafts.found_eq, ← ofPattern_drafts.found_eq, noFactor,
    Option.toList_none, List.nil_append, List.append_nil, true_and]
  exact .around _ _ _

/-- Those of a number are its format and its factor. -/
theorem NumberRule.draft_mended {kind : ScalarKind} (numeric : kind = .number ∨ kind = .integer) :
    (draft kind (unflawed (formatFlaw? kind) format) (c.mended kind)).1 = (draft kind format c).1 ∧
      Interleaves (draft kind (unflawed (formatFlaw? kind) format) (c.mended kind)).2
        (Node.scalar kind format c).flaws (draft kind format c).2 := by
  have formats := ofFormat_drafts numeric
  have factors := ofFactor_drafts numeric
  have noPattern : c.pattern.bind (patternFlaw? kind) = none := by
    rcases numeric with rfl | rfl <;> cases c.pattern <;> rfl
  simp only [draft, Constraints.mended, Node.flaws, formats.unflawed_eq, factors.unflawed_eq,
    ← formats.found_eq, ← factors.found_eq, noPattern, Option.toList_none, List.nil_append,
    List.append_nil, true_and]
  exact .around _ _ _

/-- The flaw of any other node is its format, and none is left. -/
theorem Node.flaws_of_neither {kind : ScalarKind} (neither : kind = .boolean ∨ kind = .null) :
    (Node.scalar kind format c).flaws = (format.toList.map fun f => .unknownFormat kind f.token) ∧
      unflawed (formatFlaw? kind) format = none := by
  have noFormat (f : Format) : formatFlaw? kind f = some (.unknownFormat kind f.token) := by
    rcases neither with rfl | rfl <;> rfl
  have noPattern : c.pattern.bind (patternFlaw? kind) = none := by
    rcases neither with rfl | rfl <;> cases c.pattern <;> rfl
  have noFactor : c.multipleOf.bind (factorFlaw? kind) = none := by
    rcases neither with rfl | rfl <;> cases c.multipleOf <;> rfl
  rw [Node.flaws, noPattern, noFactor]
  cases format <;> simp [unflawed, Option.filter, noFormat]

/-- A scalar node makes the same check without its flaws. -/
theorem compileScalar_mended (site : Site) (kind : ScalarKind) :
    (compileScalar site kind (unflawed (formatFlaw? kind) format) (c.mended kind)).Loses
      (site.findings (Node.scalar kind format c).flaws) (compileScalar site kind format c) := by
  cases kind with
  | string =>
    obtain ⟨rules, found⟩ := StringRule.draft_mended format c
    exact site.drafted_loses .string rules found
  | number =>
    obtain ⟨rules, found⟩ := NumberRule.draft_mended format c (.inl rfl)
    exact site.drafted_loses (.number false) rules found
  | integer =>
    obtain ⟨rules, found⟩ := NumberRule.draft_mended format c (.inr rfl)
    exact site.drafted_loses (.number true) rules found
  | boolean =>
    obtain ⟨found, none⟩ := Node.flaws_of_neither format c (.inl rfl)
    rw [found, none]
    exact ⟨rfl, rfl, .right_only _⟩
  | null =>
    obtain ⟨found, none⟩ := Node.flaws_of_neither format c (.inr rfl)
    rw [found, none]
    exact ⟨rfl, rfl, .right_only _⟩

end Scalars

private theorem compileBranches_mended {branches : List Node}
    (each : ∀ branch ∈ branches, ∀ site : Site, Mends (compileNode site branch.mended)
      (flawsAt site.entry (branch.places site.pointer)) (compileNode site branch))
    (site : Site) (index : Nat) :
    Mends (compileBranches site index (mendedBranches branches))
      (flawsAt site.entry (branchPlaces site.pointer index branches))
      (compileBranches site index branches) := by
  induction branches generalizing index with
  | nil => exact .refl _
  | cons branch rest ih =>
    have first := each branch (by simp) (site.within (toString index))
    have others := ih (fun other member => each other (by simp [member])) (index + 1)
    rw [branchPlaces, flawsAt_append]
    exact first.bind fun a₀ a own => others.map fun b₀ b later => own.pair _ later

private theorem compileProperties_mended {properties : List (String × Node)}
    (each : ∀ property ∈ properties, ∀ site : Site, Mends (compileNode site property.2.mended)
      (flawsAt site.entry (property.2.places site.pointer)) (compileNode site property.2))
    (site : Site) :
    Mends (compileProperties site (mendedProperties properties))
      (flawsAt site.entry (propertyPlaces site.pointer properties))
      (compileProperties site properties) := by
  induction properties with
  | nil => exact .refl _
  | cons property rest ih =>
    have first := each property (by simp) (site.within property.1)
    have others := ih fun other member => each other (by simp [member])
    rw [propertyPlaces, flawsAt_append]
    exact first.bind fun a₀ a own => others.map fun b₀ b later => (own.map _).pair _ later

/-- A node compiles without its flaws to the check that it has with them. -/
theorem compileNode_mended (site : Site) (node : Node) :
    Mends (compileNode site node.mended) (flawsAt site.entry (node.places site.pointer))
      (compileNode site node) := by
  induction node generalizing site with
  | scalar kind format constraints =>
    have alone : flawsAt site.entry ((Node.scalar kind format constraints).places site.pointer) =
        site.findings (Node.scalar kind format constraints).flaws := List.append_nil _
    rw [alone]
    exact .ok (compileScalar_mended format constraints site kind)
  | enum values => exact .refl _
  | unknown token raw => exact .refl _
  | reference name => exact .refl _
  | array items count unique ih =>
    exact (ih (site.within "items")).map fun c₀ c loses => (loses.guarded.map _).noting _
  | object properties required count additional ih ihAdd =>
    have declared := compileProperties_mended ih (site.within "properties")
    have others : Mends (compileAdditional site count (mendedAdditional additional))
        (flawsAt site.entry (additionalPlaces site.pointer additional))
        (compileAdditional site count additional) := by
      cases additional with
      | allow => exact .refl _
      | deny => exact .refl _
      | schema node =>
        exact (ihAdd node rfl (site.within "additionalProperties")).map fun c₀ c => .map _
    rw [Node.places, flawsAt_cons, flawsAt_append]
    exact declared.bind fun a₀ a own => others.map fun b₀ b later =>
      (own.pair _ later).guarded.noting _
  | union mode branches ih =>
    exact (compileBranches_mended ih (site.within mode.keyword) 0).map fun c₀ c => .map _
  | intersection branches ih =>
    exact (compileBranches_mended ih (site.within "allOf") 0).map fun c₀ c => .map _
  | negation inner ih => exact (ih (site.within "not")).map fun c₀ c => .map _

/-! ## Documents -/

/-- Entries compile without their flaws to the checks that they have with them. -/
theorem compileEntries_mended {names : List String} {entries : List (String × Node)}
    {compiled : List (Compiled Check)} (succeeded : compileEntries names entries = .ok compiled) :
    ∃ compiled₀, compileEntries names (entries.map fun entry => (entry.1, entry.2.mended)) =
        .ok compiled₀ ∧
      compiled₀.map Compiled.value = compiled.map Compiled.value ∧
      compiled₀.map Compiled.unguarded = compiled.map Compiled.unguarded ∧
      Interleaves (compiled₀.flatMap Compiled.findings)
        (entries.flatMap fun entry => flawsAt entry.1 (entry.2.places []))
        (compiled.flatMap Compiled.findings) := by
  induction entries generalizing compiled with
  | nil =>
    cases succeeded
    exact ⟨[], rfl, rfl, rfl, .nil⟩
  | cons entry rest ih =>
    obtain ⟨check, first, succeeded⟩ := steps_of_ok succeeded
    obtain ⟨checks, others, succeeded⟩ := steps_of_ok succeeded
    cases succeeded
    obtain ⟨check₀, first₀, own⟩ := compileNode_mended ⟨names, entry.1, []⟩ entry.2 check first
    obtain ⟨checks₀, others₀, values, unguarded, found⟩ := ih others
    refine ⟨check₀ :: checks₀, ?_, ?_, ?_, own.findings.append found⟩
    · rw [List.map_cons, compileEntries, first₀, others₀]
      rfl
    · rw [List.map_cons, List.map_cons, own.value, values]
    · rw [List.map_cons, List.map_cons, own.unguarded, unguarded]

@[simp] theorem Node.isReference_mended (node : Node) :
    node.mended.isReference = node.isReference := by
  cases node <;> rfl

/-- Cycles are told by the names of entries and by whether they are references. -/
theorem cycleFindings_mended (entries : List (String × Node)) (links : Links)
    (groups : List (List Nat)) :
    cycleFindings (entries.map fun entry => (entry.1, entry.2.mended)) links groups =
      cycleFindings entries links groups := by
  have isAlias (slot : Nat) :
      ((entries.map fun entry => (entry.1, entry.2.mended))[slot]?).any (·.2.isReference) =
        (entries[slot]?).any (·.2.isReference) := by
    rw [List.getElem?_map]
    cases entries[slot]? <;> simp
  have name (slot : Nat) :
      ((entries.map fun entry => (entry.1, entry.2.mended))[slot]?).map Prod.fst =
        (entries[slot]?).map Prod.fst := by
    rw [List.getElem?_map, Option.map_map]
    rfl
  have same (group : List Nat) :
      cycleFinding (entries.map fun entry => (entry.1, entry.2.mended)) links group =
        cycleFinding entries links group := by
    cases group with
    | nil => rfl
    | cons start rest => simp only [cycleFinding, isAlias, name]
  induction groups with
  | nil => rfl
  | cons group rest ih => rw [cycleFindings, cycleFindings, same, ih]

@[simp] theorem Document.names_mended (d : Document) : d.mended.names = d.names := by
  simp [Document.names, Document.mended]

namespace Registry

/-- A document that builds does so without its refinements that make no sense, none of which is left
then. Every outcome is the same, under all options, and with the refinements there is one finding
more on each of them, among the others in their order. -/
theorem build_of_mended (options : Options) (d : Document) (r : Registry)
    (built : build options d = .ok r) :
    d.mended.flaws = [] ∧ ∃ r₀, build options d.mended = .ok r₀ ∧
      (∀ name value, r₀.validate? name value = r.validate? name value) ∧
      Interleaves r₀.findings d.flaws r.findings := by
  obtain ⟨compiled, checks, built⟩ := steps_of_ok built
  obtain ⟨cyclic, found, built⟩ := steps_of_ok built
  cases built
  obtain ⟨compiled₀, checks₀, values, unguarded, flaws⟩ := compileEntries_mended checks
  have cyclic₀ : cycleFindings d.mended.entries (compiled.map Compiled.unguarded)
      (Links.cycles (compiled.map Compiled.unguarded)) = .ok cyclic :=
    (cycleFindings_mended _ _ _).trans found
  have built₀ : build options d.mended = .ok
      { names := d.names
        checks := compiled.map Compiled.value
        shapes := d.mended.entries.map fun entry => Shape.ofNode entry.2
        findings := d.findings ++ compiled₀.flatMap Compiled.findings ++ cyclic
        options } := by
    have checks₀ : compileEntries d.names d.mended.entries = .ok compiled₀ := checks₀
    simp only [build, d.names_mended, checks₀, bind, Except.bind, unguarded, values, cyclic₀]
    rfl
  refine ⟨d.flaws_mended, _, built₀, fun name value => rfl, ?_⟩
  have findings : Interleaves (d.findings ++ (compiled₀.flatMap Compiled.findings ++ cyclic))
      ([] ++ (d.flaws ++ [])) (d.findings ++ (compiled.flatMap Compiled.findings ++ cyclic)) :=
    (Interleaves.left_only _).append (flaws.append (.left_only _))
  simpa using findings

/-- Orders with a format and a pattern that make no sense beside lengths that leave nothing, and a
factor and a format of their own. -/
def flawedOrders : Document :=
  ⟨[("Order", .object
      [("code", .scalar .string (some (.other "zip"))
          { minLength := some 5, maxLength := some 3, pattern := some "(" }),
        ("count", .scalar .integer (some .int32) { multipleOf := some .zero }),
        ("paid", .scalar .boolean (some (.other "flag")) {})] ["code"] {} .deny)], []⟩

theorem flaws_flawedOrders : flawedOrders.flaws =
    [⟨"Order", ["properties", "code"], .unknownFormat .string "zip"⟩,
      ⟨"Order", ["properties", "code"], .patternCompile "(" "error: unclosed group"⟩,
      ⟨"Order", ["properties", "count"], .invalidConstraint "multipleOf"
        "must be a positive number, found 0"⟩,
      ⟨"Order", ["properties", "paid"], .unknownFormat .boolean "flag"⟩] := by
  decide +kernel

/-- What is found on the lengths is found without the flaws as well, between two of them. -/
theorem orders_lose_their_flaws_alone : ∃ r r₀, build {} flawedOrders = .ok r ∧
    build {} flawedOrders.mended = .ok r₀ ∧ flawedOrders.flaws.length = 4 ∧
    r₀.findings = [⟨"Order", ["properties", "code"],
      .unsatisfiableBounds "minLength" "maxLength"⟩] ∧
    Interleaves r₀.findings flawedOrders.flaws r.findings := by
  obtain ⟨-, r₀, built₀, -, findings⟩ := build_of_mended {} flawedOrders _ rfl
  have found : (build {} flawedOrders.mended).map Registry.findings = .ok [⟨"Order",
      ["properties", "code"], .unsatisfiableBounds "minLength" "maxLength"⟩] := rfl
  rw [built₀] at found
  exact ⟨_, r₀, rfl, built₀, by rw [flaws_flawedOrders]; rfl, Except.ok.inj found, findings⟩

end Registry
end DataSchema
