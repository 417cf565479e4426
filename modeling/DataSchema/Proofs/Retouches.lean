import DataSchema.Proofs.Reading.Layouts
import DataSchema.Proofs.Reading.Likeness
import DataSchema.Proofs.RoundTrip
import Mathlib.Logic.Relation

/-!
Changes of a source that are not seen. Wherever a source document has a schema, its members may come
in another order and there may be more of them that are no keywords. However often a source is
changed so, the same is read from it but for the sources that nodes keep, and these are not
compiled.
-/
namespace DataSchema

open Relation

/-! ## Sources -/

namespace Json

/-- The member of a name is changed, and nothing else. -/
def ChangedUnder (name : String) (step : Json → Json → Prop) (v v' : Json) : Prop :=
  ∃ before part part' after, v = .object (before ++ (name, part) :: after) ∧
    v' = .object (before ++ (name, part') :: after) ∧ step part part'

/-- A source schema is changed in what is not read, once: the members of a schema object come in
another order, or one more comes last, whose name is no keyword. The object is the schema itself or
a schema in it. -/
inductive Retouched : Json → Json → Prop
  | reordered {members members' : Members} (order : members.Perm members') :
      Retouched (.object members) (.object members')
  | extended {members : Members} {name : String} {v : Json} (unread : keywordForm? name = none)
      (fresh : name ∉ members.map Prod.fst) (value : v.WellFormed) :
      Retouched (.object members) (.object (members ++ [(name, v)]))
  | single {keyword : String} {before after : Members} {v v' : Json}
      (holds : keyword ∈ Keywords.single) (inner : Retouched v v') :
      Retouched (.object (before ++ (keyword, v) :: after))
        (.object (before ++ (keyword, v') :: after))
  | several {keyword : String} {before after : Members} {first last : List Json} {v v' : Json}
      (holds : keyword ∈ Keywords.several) (inner : Retouched v v') :
      Retouched (.object (before ++ (keyword, .array (first ++ v :: last)) :: after))
        (.object (before ++ (keyword, .array (first ++ v' :: last)) :: after))
  | property {name : String} {before after first last : Members} {v v' : Json}
      (inner : Retouched v v') :
      Retouched (.object (before ++ ("properties", .object (first ++ (name, v) :: last)) :: after))
        (.object (before ++ ("properties", .object (first ++ (name, v') :: last)) :: after))

/-- The order of members does not matter where no name comes twice. -/
theorem member?_perm {members members' : Members} (order : members.Perm members')
    (names : (members.map Prod.fst).Nodup) (name : String) :
    member? members name = member? members' name := by
  have names' : (members'.map Prod.fst).Nodup := (order.map Prod.fst).nodup_iff.mp names
  refine Option.ext fun v => ⟨fun found => ?_, fun found => ?_⟩
  · exact member?_of_mem names' (order.mem_iff.mp (mem_of_member? found))
  · exact member?_of_mem names (order.mem_iff.mpr (mem_of_member? found))

section Replaced

variable {before after : Members} {name : String} {v v' : Json}

theorem names_replaced : (before ++ (name, v') :: after).map Prod.fst =
    (before ++ (name, v) :: after).map Prod.fst := by
  simp

theorem member?_replaced {other : String} (different : other ≠ name) :
    member? (before ++ (name, v') :: after) other =
      member? (before ++ (name, v) :: after) other := by
  simp [different.symm]

theorem WellFormed.of_replaced
    (wellFormed : (Json.object (before ++ (name, v) :: after)).WellFormed) : v.WellFormed := by
  cases wellFormed with
  | object names each => exact each (name, v) (by simp)

theorem WellFormed.replaced (wellFormed : (Json.object (before ++ (name, v) :: after)).WellFormed)
    (own : v'.WellFormed) : (Json.object (before ++ (name, v') :: after)).WellFormed := by
  simp only [wellFormed_object_iff, names_replaced (v := v), List.forall_mem_append,
    List.forall_mem_cons] at wellFormed ⊢
  exact ⟨wellFormed.1, wellFormed.2.1, own, wellFormed.2.2.2⟩

theorem WellFormed.replaced_item {first last : List Json}
    (wellFormed : (Json.array (first ++ v :: last)).WellFormed) (own : v'.WellFormed) :
    (Json.array (first ++ v' :: last)).WellFormed := by
  simp only [wellFormed_array_iff, List.forall_mem_append, List.forall_mem_cons] at wellFormed ⊢
  exact ⟨wellFormed.1, own, wellFormed.2.2⟩

/-- Keywords are like others of which one holds like schemas. -/
theorem like_of_replaced (holds : Keywords.HoldsLike name v v') :
    (⟨before ++ (name, v) :: after⟩ : Keywords).Like ⟨before ++ (name, v') :: after⟩ := by
  intro other _
  have same (found : Option Json) : Option.Rel (Keywords.HoldsLike other) found found := by
    cases found with
    | none => exact .none
    | some w => exact .some .same
  dsimp only
  by_cases different : other = name
  · subst different
    simp only [member?_append, member?_cons, beq_self_eq_true, if_true]
    cases member? before other with
    | none => exact .some holds
    | some w => exact .some .same
  · have others : member? (before ++ (name, v') :: after) other =
        member? (before ++ (name, v) :: after) other := member?_replaced different
    rw [others]
    exact same _

end Replaced

/-- A value that JSON has is one after it is retouched. -/
theorem Retouched.wellFormed {v v' : Json} (retouched : v.Retouched v')
    (wellFormed : v.WellFormed) : v'.WellFormed := by
  induction retouched with
  | reordered order =>
    rw [wellFormed_object_iff] at wellFormed ⊢
    exact ⟨(order.map Prod.fst).nodup_iff.mp wellFormed.1,
      fun member inside => wellFormed.2 member (order.mem_iff.mpr inside)⟩
  | extended _ fresh value =>
    rw [wellFormed_object_iff] at wellFormed ⊢
    refine ⟨?_, List.forall_mem_append.mpr ⟨wellFormed.2, List.forall_mem_singleton.mpr value⟩⟩
    rw [List.map_append]
    exact wellFormed.1.append (List.nodup_singleton _) (by simpa using fresh)
  | single _ _ ih => exact wellFormed.replaced (ih wellFormed.of_replaced)
  | several _ _ ih =>
    have items := wellFormed.of_replaced
    exact wellFormed.replaced (items.replaced_item (ih (items.items _ (by simp))))
  | property _ ih =>
    have declared := wellFormed.of_replaced
    exact wellFormed.replaced (declared.replaced (ih declared.of_replaced))

/-- A schema is read alike after it is retouched. -/
theorem Retouched.readsLike {v v' : Json} (retouched : v.Retouched v')
    (wellFormed : v.WellFormed) : v.ReadsLike v' := by
  have objects {members members' : Members} (same : (object members).Retouched (object members'))
      (wellFormed : (object members).WellFormed) (like : (⟨members⟩ : Keywords).Like ⟨members'⟩) :
      (object members).ReadsLike (object members') :=
    like.readsLike wellFormed.names (same.wellFormed wellFormed).names
  -- At the place of the change all keywords are the same, and above it one of them holds schemas of
  -- which one is read alike by the induction.
  induction retouched with
  | reordered order =>
    refine objects (.reordered order) wellFormed fun name _ => ?_
    dsimp only
    rw [member?_perm order wellFormed.names]
    cases member? _ name with
    | none => exact .none
    | some v => exact .some .same
  | @extended members other w unread fresh value =>
    refine objects (.extended unread fresh value) wellFormed fun name known => ?_
    have different : (other == name) = false := by
      refine beq_eq_false_iff_ne.mpr ?_
      rintro rfl
      rw [unread] at known
      cases known
    simp only [member?_append, member?_cons, different, member?_nil]
    cases member? members name with
    | none => exact .none
    | some v => exact .some .same
  | single holds inner ih =>
    exact objects (.single holds inner) wellFormed
      (like_of_replaced (.schema holds (ih wellFormed.of_replaced)))
  | several holds inner ih =>
    have own := ih (wellFormed.of_replaced.items _ (by simp))
    exact objects (.several holds inner) wellFormed
      (like_of_replaced (.branches holds (forall₂_replace .refl own _ _)))
  | property inner ih =>
    have own := ih wellFormed.of_replaced.of_replaced
    exact objects (.property inner) wellFormed
      (like_of_replaced (.properties (forall₂_replace .refl ⟨rfl, own⟩ _ _)))

end Json

/-! ## Compilation -/

namespace Node

theorem propertiesWithoutSources_eq (properties : List (String × Node)) :
    propertiesWithoutSources properties =
      properties.map fun property => (property.1, property.2.withoutSources) := by
  induction properties with
  | nil => rfl
  | cons property rest ih => rw [propertiesWithoutSources, List.map_cons, ih]

theorem isReference_withoutSources (node : Node) :
    node.withoutSources.isReference = node.isReference := by
  cases node <;> rfl

end Node

mutual

/-- Sources that nodes keep are not compiled. -/
theorem compileNode_withoutSources (site : Site) (node : Node) :
    compileNode site node.withoutSources = compileNode site node := by
  cases node with
  | array items count unique =>
    rw [Node.withoutSources, compileNode, compileNode, compileNode_withoutSources]
  | object properties required count additional =>
    rw [Node.withoutSources, compileNode, compileNode, compileProperties_withoutSources,
      compileAdditional_withoutSources]
  | union mode branches =>
    rw [Node.withoutSources, compileNode, compileNode, compileBranches_withoutSources]
  | intersection branches =>
    rw [Node.withoutSources, compileNode, compileNode, compileBranches_withoutSources]
  | negation inner =>
    rw [Node.withoutSources, compileNode, compileNode, compileNode_withoutSources]
  | _ => rfl

theorem compileBranches_withoutSources (site : Site) (index : Nat) (nodes : List Node) :
    compileBranches site index (Node.allWithoutSources nodes) =
      compileBranches site index nodes := by
  cases nodes with
  | nil => rfl
  | cons node rest =>
    rw [Node.allWithoutSources, compileBranches, compileBranches, compileNode_withoutSources,
      compileBranches_withoutSources]

theorem compileProperties_withoutSources (site : Site) (properties : List (String × Node)) :
    compileProperties site (Node.propertiesWithoutSources properties) =
      compileProperties site properties := by
  cases properties with
  | nil => rfl
  | cons property rest =>
    obtain ⟨name, node⟩ := property
    rw [Node.propertiesWithoutSources, compileProperties, compileProperties,
      compileNode_withoutSources, compileProperties_withoutSources]

theorem compileAdditional_withoutSources (site : Site) (count : CountRange)
    (additional : Additional Node) :
    compileAdditional site count (Node.additionalWithoutSources additional) =
      compileAdditional site count additional := by
  cases additional with
  | schema node =>
    rw [Node.additionalWithoutSources, compileAdditional, compileAdditional,
      compileNode_withoutSources]
  | _ => rfl

end

mutual

/-- They have no shape either. -/
theorem Shape.ofNode_withoutSources (node : Node) : ofNode node.withoutSources = ofNode node := by
  cases node with
  | array items count unique =>
    rw [Node.withoutSources, ofNode, ofNode, ofNode_withoutSources]
  | object properties required count additional =>
    rw [Node.withoutSources, ofNode, ofNode, fieldsOf_withoutSources, additionalOf_withoutSources]
  | union mode branches => rw [Node.withoutSources, ofNode, ofNode, ofNodes_withoutSources]
  | intersection branches => rw [Node.withoutSources, ofNode, ofNode, ofNodes_withoutSources]
  | _ => rfl

theorem Shape.ofNodes_withoutSources (nodes : List Node) :
    ofNodes (Node.allWithoutSources nodes) = ofNodes nodes := by
  cases nodes with
  | nil => rfl
  | cons node rest =>
    rw [Node.allWithoutSources, ofNodes, ofNodes, ofNode_withoutSources, ofNodes_withoutSources]

theorem Shape.fieldsOf_withoutSources (required : List String) (properties : List (String × Node)) :
    fieldsOf required (Node.propertiesWithoutSources properties) =
      fieldsOf required properties := by
  cases properties with
  | nil => rfl
  | cons property rest =>
    obtain ⟨name, node⟩ := property
    rw [Node.propertiesWithoutSources, fieldsOf, fieldsOf, ofNode_withoutSources,
      fieldsOf_withoutSources]

theorem Shape.additionalOf_withoutSources (count : CountRange) (additional : Additional Node) :
    additionalOf count (Node.additionalWithoutSources additional) =
      additionalOf count additional := by
  cases additional with
  | schema node =>
    rw [Node.additionalWithoutSources, additionalOf, additionalOf, ofNode_withoutSources]
  | _ => rfl

end

namespace Document

/-- The document without the sources that its nodes keep. -/
def withoutSources (d : Document) : Document :=
  ⟨Node.propertiesWithoutSources d.entries, d.findings⟩

theorem names_withoutSources (d : Document) : d.withoutSources.names = d.names :=
  Node.names_propertiesWithoutSources d.entries

end Document

section Entries

variable (entries : List (String × Node))

theorem compileEntries_withoutSources (names : List String) :
    compileEntries names (Node.propertiesWithoutSources entries) =
      compileEntries names entries := by
  induction entries with
  | nil => rfl
  | cons entry rest ih =>
    obtain ⟨name, node⟩ := entry
    rw [Node.propertiesWithoutSources, compileEntries, compileEntries,
      compileNode_withoutSources, ih]

theorem cycleFinding_withoutSources (links : Links) (group : List Nat) :
    cycleFinding (Node.propertiesWithoutSources entries) links group =
      cycleFinding entries links group := by
  cases group with
  | nil => rfl
  | cons start rest =>
    simp only [cycleFinding, Node.propertiesWithoutSources_eq, List.getElem?_map, Option.map_map,
      Option.any_map, Function.comp_def, Node.isReference_withoutSources]

theorem cycleFindings_withoutSources (links : Links) (groups : List (List Nat)) :
    cycleFindings (Node.propertiesWithoutSources entries) links groups =
      cycleFindings entries links groups := by
  induction groups with
  | nil => rfl
  | cons group rest ih =>
    rw [cycleFindings, cycleFindings, cycleFinding_withoutSources, ih]

end Entries

/-- A document is built as it is without the sources that its nodes keep. -/
theorem Registry.build_withoutSources (options : Options) (d : Document) :
    build options d.withoutSources = build options d := by
  have shapes : (d.withoutSources.entries.map fun entry => Shape.ofNode entry.2) =
      d.entries.map fun entry => Shape.ofNode entry.2 := by
    simp only [Document.withoutSources, Node.propertiesWithoutSources_eq, List.map_map,
      Function.comp_def, Shape.ofNode_withoutSources]
  unfold build
  rw [Document.names_withoutSources, shapes]
  simp only [Document.withoutSources, compileEntries_withoutSources, cycleFindings_withoutSources]

/-! ## Documents -/

namespace Document

/-- What is read of a source document but for the sources that nodes keep, if it is read. -/
def understood? (source : Json) : Option Document :=
  (ofJson source).toOption.map withoutSources

/-- One schema of a source document is retouched, where the document keeps its schemas. -/
inductive Retouched : Json → Json → Prop
  | component {name : String} {root root' : Members}
      (inner : (Json.object root).ChangedUnder "components"
        (Json.ChangedUnder "schemas" (Json.ChangedUnder name Json.Retouched)) (.object root')) :
      Retouched (.object root) (.object root')
  | bundled {key name : String} {root root' : Members} (among : key ∈ ["$defs", "definitions"])
      (loose : ∀ name ∈ ["openapi", "components"], name ∉ root.map Prod.fst)
      (inner : (Json.object root).ChangedUnder key (Json.ChangedUnder name Json.Retouched)
        (.object root')) :
      Retouched (.object root) (.object root')
  | bare {name : String} {root root' : Members}
      (plain : ∀ name ∈ layoutNames, name ∉ root.map Prod.fst)
      (inner : (Json.object root).ChangedUnder name Json.Retouched (.object root')) :
      Retouched (.object root) (.object root')

end Document

namespace Json

/-- One member of an object is changed by a step, and nothing else. -/
structure Changes (name : String) (step : Json → Json → Prop) (members members' : Members) :
    Prop where
  names : members'.map Prod.fst = members.map Prod.fst
  others : ∀ other, other ≠ name → member? members' other = member? members other
  own : ∃ part part', member? members name = some part ∧ member? members' name = some part' ∧
    part.WellFormed ∧ step part part'

namespace ChangedUnder

variable {name : String} {step : Json → Json → Prop} {v v' : Json}

theorem wellFormed (changed : v.ChangedUnder name step v') (own : v.WellFormed)
    (keeps : ∀ part part', step part part' → part.WellFormed → part'.WellFormed) :
    v'.WellFormed := by
  obtain ⟨before, part, part', after, rfl, rfl, inner⟩ := changed
  exact own.replaced (keeps part part' inner own.of_replaced)

variable (changed : v.ChangedUnder name step v') (wellFormed : v.WellFormed)
include changed wellFormed

theorem exists_changes : ∃ members members', v = .object members ∧ v' = .object members' ∧
    Changes name step members members' := by
  obtain ⟨before, part, part', after, rfl, rfl, own⟩ := changed
  refine ⟨_, _, rfl, rfl, names_replaced, fun other => member?_replaced, part, part', ?_, ?_,
    wellFormed.of_replaced, own⟩
  · exact member?_of_mem wellFormed.names (by simp)
  · refine member?_of_mem ?_ (by simp)
    rw [names_replaced (v := part)]
    exact wellFormed.names

/-- Schemas of which one is retouched are read alike. -/
theorem membersLike (retouches : step = Json.Retouched) : ∃ schemas schemas',
    v = .object schemas ∧ v' = .object schemas' ∧ List.Forall₂ MemberLike schemas schemas' := by
  subst retouches
  obtain ⟨before, part, part', after, rfl, rfl, own⟩ := changed
  exact ⟨_, _, rfl, rfl, forall₂_replace .refl ⟨rfl, own.readsLike wellFormed.of_replaced⟩ _ _⟩

end ChangedUnder

theorem Changes.hasMember {name : String} {step : Json → Json → Prop} {members members' : Members}
    (changes : Changes name step members members') (other : String) :
    hasMember members' other = hasMember members other := by
  rw [Bool.eq_iff_iff, hasMember_iff, hasMember_iff, changes.names]

end Json

namespace Document

/-- A source document stays a value that JSON has. -/
theorem Retouched.wellFormed {source source' : Json} (retouched : Retouched source source')
    (wellFormed : source.WellFormed) : source'.WellFormed := by
  cases retouched with
  | component inner =>
    exact inner.wellFormed wellFormed fun _ _ inner wellFormed =>
      inner.wellFormed wellFormed fun _ _ inner wellFormed =>
        inner.wellFormed wellFormed fun _ _ => Json.Retouched.wellFormed
  | bundled _ _ inner =>
    exact inner.wellFormed wellFormed fun _ _ inner wellFormed =>
      inner.wellFormed wellFormed fun _ _ => Json.Retouched.wellFormed
  | bare _ inner => exact inner.wellFormed wellFormed fun _ _ => Json.Retouched.wellFormed

/-- Both have no schemas, or both have schemas at one place that are read alike. -/
def SourcesLike (root root' : Members) : Prop :=
  (∃ e e', sources root = .error e ∧ sources root' = .error e') ∨
    ∃ place schemas schemas', sources root = .ok (place, schemas) ∧
      sources root' = .ok (place, schemas') ∧ List.Forall₂ MemberLike schemas schemas'

theorem entriesOf_parallel {place : List String} {schemas schemas' : Members}
    (each : List.Forall₂ MemberLike schemas schemas') :
    Parallel Node.propertiesWithoutSources (entriesOf place schemas)
      (entriesOf place schemas') := by
  induction each with
  | nil => exact .refl _
  | @cons member member' _ _ first _ ih =>
    obtain ⟨name, schema⟩ := member
    obtain ⟨name', schema'⟩ := member'
    obtain ⟨rfl, like⟩ := first
    rw [entriesOf, entriesOf]
    exact (like.parallel _).cons ih fun _ _ _ _ same sameToo => by
      rw [Node.propertiesWithoutSources, Node.propertiesWithoutSources, same, sameToo]

theorem SourcesLike.understood? {root root' : Members} (like : SourcesLike root root') :
    understood? (.object root) = understood? (.object root') := by
  simp only [Document.understood?, ofJson]
  rcases like with ⟨e, e', found, found'⟩ | ⟨place, schemas, schemas', found, found', each⟩
  · rw [found, found']
    rfl
  · rw [found, found']
    have parallel : Parallel Node.propertiesWithoutSources (entriesOf place schemas)
      (entriesOf place schemas') := entriesOf_parallel each
    simp only [bind, Except.bind]
    generalize entriesOf place schemas = result at parallel ⊢
    generalize entriesOf place schemas' = result' at parallel ⊢
    cases parallel with
    | ok findings same => simp [Except.toOption, withoutSources, same]
    | failed e e' => rfl

theorem names_of_membersLike {schemas schemas' : Members}
    (each : List.Forall₂ MemberLike schemas schemas') :
    schemas.map Prod.fst = schemas'.map Prod.fst :=
  map_eq_map_iff_forall₂.mpr (each.imp fun _ _ like => like.1)

/-- Adding absent schemas keeps them alike. -/
theorem membersLike_addAbsent {schemas schemas' more more' : Members}
    (each : List.Forall₂ MemberLike schemas schemas') (others : List.Forall₂ MemberLike more more')
    (names : (more.map Prod.fst).Nodup) :
    List.Forall₂ MemberLike (addAbsent schemas more) (addAbsent schemas' more') := by
  have known (name : String) : Json.hasMember schemas name = Json.hasMember schemas' name := by
    rw [Bool.eq_iff_iff, Json.hasMember_iff, Json.hasMember_iff, names_of_membersLike each]
  rw [addAbsent_eq_absorb names, addAbsent_eq_absorb (names_of_membersLike others ▸ names)]
  refine List.rel_append each (List.rel_filter ?_ others)
  intro member member' like
  simp only [known, like.1]

theorem membersLike_refl (schemas : Members) : List.Forall₂ MemberLike schemas schemas :=
  List.forall₂_same.mpr fun member _ => .refl member

/-- Schemas of components are found there. -/
theorem sources_of_components {root components schemas : Members}
    (found : Json.member? root "components" = some (.object components))
    (given : Json.member? components "schemas" = some (.object schemas)) :
    sources root = .ok (["components", "schemas"], schemas) := by
  have present : Json.hasMember root "components" = true := by rw [Json.hasMember, found]; rfl
  exact sources_eq_ok_iff.mpr (.components (by simp [present]) (by rw [found]; rfl)
    (by rw [given]; rfl))

/-- A bundle has the schemas of `$defs`, and those of `definitions` that are absent there. -/
theorem sources_of_bundle {root : Members} {key : String} (among : key ∈ ["$defs", "definitions"])
    (loose : ∀ name ∈ ["openapi", "components"], Json.hasMember root name = false)
    (present : Json.hasMember root key = true) :
    sources root = (membersOf (Json.member? root "$defs")).bind fun schemas =>
      (membersOf (Json.member? root "definitions")).bind fun more =>
        .ok (["$defs"], addAbsent schemas more) := by
  have versionless := loose "openapi" (by simp)
  have components := loose "components" (by simp)
  have bundle : (Json.hasMember root "$defs" || Json.hasMember root "definitions" ||
      Json.hasMember root "$schema") = true := by
    rcases List.mem_pair.mp among with rfl | rfl <;> simp [present]
  unfold sources
  dsimp only
  rw [versionless, components, Bool.or_false, if_neg Bool.false_ne_true, if_pos bundle]
  rfl

/-- The schemas of a document are read alike after one of them is retouched. -/
theorem Retouched.sourcesLike {root root' : Members}
    (retouched : Retouched (.object root) (.object root'))
    (wellFormed : (Json.object root).WellFormed) : SourcesLike root root' := by
  cases retouched with
  | component inner =>
    obtain ⟨_, _, same, same', changes⟩ := inner.exists_changes wellFormed
    cases same
    cases same'
    obtain ⟨part, part', found, found', own, inner⟩ := changes.own
    obtain ⟨components, components', rfl, rfl, changes'⟩ := inner.exists_changes own
    obtain ⟨part, part', given, given', own, inner⟩ := changes'.own
    obtain ⟨schemas, schemas', rfl, rfl, each⟩ := inner.membersLike own rfl
    exact .inr ⟨_, schemas, schemas', sources_of_components found given,
      sources_of_components found' given', each⟩
  | @bundled key _ _ _ among loose inner =>
    obtain ⟨_, _, same, same', changes⟩ := inner.exists_changes wellFormed
    cases same
    cases same'
    obtain ⟨part, part', found, found', own, inner⟩ := changes.own
    obtain ⟨schemas, schemas', rfl, rfl, each⟩ := inner.membersLike own rfl
    have absent (name : String) (among : name ∈ ["openapi", "components"]) :
        Json.hasMember root name = false :=
      Bool.eq_false_iff.mpr fun known => loose name among (Json.hasMember_iff.mp known)
    have present : Json.hasMember root key = true := by rw [Json.hasMember, found]; rfl
    have located := sources_of_bundle among absent present
    have located' := sources_of_bundle among
      (fun name among => (changes.hasMember name).trans (absent name among))
      ((changes.hasMember key).trans present)
    unfold SourcesLike
    rw [located, located']
    -- The other list of schemas is the same in both, or is none in both.
    rcases List.mem_pair.mp among with rfl | rfl
    · rw [found, found', changes.others "definitions" (by decide)]
      cases given : membersOf (Json.member? root "definitions") with
      | error e => exact .inl ⟨e, e, rfl, rfl⟩
      | ok more =>
        have names := (wellFormed_of_membersOf wellFormed given).names
        exact .inr ⟨_, _, _, rfl, rfl, membersLike_addAbsent each (membersLike_refl more) names⟩
    · rw [found, found', changes.others "$defs" (by decide)]
      cases given : membersOf (Json.member? root "$defs") with
      | error e => exact .inl ⟨e, e, rfl, rfl⟩
      | ok first =>
        have absent := membersLike_addAbsent (membersLike_refl first) each own.names
        exact .inr ⟨_, _, _, rfl, rfl, absent⟩
  | bare plain inner =>
    obtain ⟨_, _, same, same', each⟩ := inner.membersLike wellFormed rfl
    cases same
    cases same'
    have plain' : ∀ name ∈ layoutNames, name ∉ root'.map Prod.fst := by
      rwa [← names_of_membersLike each]
    exact .inr ⟨[], root, root', sources_of_plain plain, sources_of_plain plain', each⟩

/-- A source document is understood alike after one schema is retouched. -/
theorem Retouched.understood? {source source' : Json} (retouched : Retouched source source')
    (wellFormed : source.WellFormed) :
    Document.understood? source = Document.understood? source' := by
  cases retouched with
  | component inner => exact ((component inner).sourcesLike wellFormed).understood?
  | bundled among loose inner =>
    exact ((bundled among loose inner).sourcesLike wellFormed).understood?
  | bare plain inner => exact ((bare plain inner).sourcesLike wellFormed).understood?

/-- So it is after any number of schemas are, one after the other. -/
theorem understood?_of_retouches {source source' : Json}
    (retouches : ReflTransGen Retouched source source') (wellFormed : source.WellFormed) :
    source'.WellFormed ∧ understood? source = understood? source' := by
  induction retouches with
  | refl => exact ⟨wellFormed, rfl⟩
  | tail _ retouched ih =>
    exact ⟨retouched.wellFormed ih.1, ih.2.trans (retouched.understood? ih.1)⟩

theorem isSome_understood? (source : Json) :
    (understood? source).isSome = true ↔ ∃ d, ofJson source = .ok d := by
  unfold understood?
  cases ofJson source <;> simp [Except.toOption]

theorem understood?_of_ok {source : Json} {d : Document} (read : ofJson source = .ok d) :
    understood? source = some d.withoutSources := by
  rw [understood?, read]
  rfl

end Document

namespace Registry

/-- However often members of schemas in a source document are put in another order or members are
added that are no keywords: the document is read before exactly if it is read after, with the same
names and findings, and both documents are built to the same registry, or fail to be built alike. So
values have the same outcomes under all names and options. -/
theorem build_of_retouches (source source' : Json) (wellFormed : source.WellFormed)
    (retouches : ReflTransGen Document.Retouched source source') :
    ((∃ d, Document.ofJson source = .ok d) ↔ ∃ d', Document.ofJson source' = .ok d') ∧
    ∀ d d', Document.ofJson source = .ok d → Document.ofJson source' = .ok d' →
      d'.names = d.names ∧ d'.findings = d.findings ∧
      ∀ options, build options d' = build options d := by
  have same := (Document.understood?_of_retouches retouches wellFormed).2
  constructor
  · rw [← Document.isSome_understood?, ← Document.isSome_understood?, same]
  · intro d d' read read'
    rw [Document.understood?_of_ok read, Document.understood?_of_ok read'] at same
    have same : d.withoutSources = d'.withoutSources := Option.some.inj same
    have findings : d.withoutSources.findings = d'.withoutSources.findings := by rw [same]
    refine ⟨?_, findings.symm, fun options => ?_⟩
    · rw [← Document.names_withoutSources d', ← same, Document.names_withoutSources]
    · rw [← build_withoutSources options d', ← same, build_withoutSources]

/-- The schema of an unknown type with a note before it. -/
def notedMoney : Json :=
  .object [("S", .object [("note", .bool true), ("type", .string "money")])]

/-- The note is kept in the node of the schema, and is not built. -/
theorem noted_money_is_built_alike :
    Document.moneySource.WellFormed ∧
    ReflTransGen Document.Retouched Document.moneySource notedMoney ∧
    ∃ d', Document.ofJson notedMoney = .ok d' ∧ d'.names = ["S"] ∧ d'.findings = [] ∧
      ∀ options, build options d' = build options Document.moneyDocument := by
  have noted : Document.Retouched Document.moneySource
      (.object [("S", .object [("type", .string "money"), ("note", .bool true)])]) :=
    .bare (by decide) ⟨[], _, _, [], rfl, rfl, .extended rfl (by decide) .bool⟩
  have ordered : Document.Retouched
      (.object [("S", .object [("type", .string "money"), ("note", .bool true)])]) notedMoney :=
    .bare (by decide) ⟨[], _, _, [], rfl, rfl, .reordered (.swap _ _ _)⟩
  have retouches := (ReflTransGen.single noted).tail ordered
  obtain ⟨read, built⟩ := build_of_retouches _ _ Document.wellFormed_moneySource retouches
  obtain ⟨d', read'⟩ := read.mp ⟨_, Document.ofJson_moneySource⟩
  obtain ⟨names, findings, same⟩ := built _ d' Document.ofJson_moneySource read'
  exact ⟨Document.wellFormed_moneySource, retouches, d', read', names, findings, same⟩

end Registry

end DataSchema
