import DataSchema.Proofs.Json.Read
import DataSchema.Proofs.Meaning.Soundness
import DataSchema.Proofs.Reading.Precedence
import DataSchema.Proofs.RoundTrip
import DataSchema.Proofs.Targets
import Mathlib.Data.List.Find

/-!
Keywords that abbreviate. A schema that is nullable accepts null and what it accepts otherwise, and
a list of types accepts what one of the types does. Reading drops repeated types, leaves a schema
that accepts null only as it is, and keeps the whole source of an unknown type; none of this is seen
in what is accepted.
-/
namespace DataSchema

/-! ## Keywords that agree -/

namespace Keywords

/-- The keywords have the same members, but for what they say of null and of types. -/
def Agree (k k' : Keywords) : Prop :=
  ∀ name, name ≠ "nullable" → name ≠ "type" →
    Json.member? k'.members name = Json.member? k.members name

variable {k k' : Keywords} {name : String}

theorem Agree.symm (agree : k.Agree k') : k'.Agree k :=
  fun name other another => (agree name other another).symm

section Agree

variable (agree : k.Agree k') (notNull : name ≠ "nullable") (notType : name ≠ "type")
include agree notNull notType

theorem Agree.value? : k'.value? name = k.value? name := by
  simp only [Keywords.value?, agree name notNull notType]

theorem Agree.text? : k'.text? name = k.text? name := by
  simp only [Keywords.text?, agree.value? notNull notType]

theorem Agree.flag : k'.flag name = k.flag name := by
  simp only [Keywords.flag, agree.value? notNull notType]

theorem Agree.count? : k'.count? name = k.count? name := by
  simp only [Keywords.count?, agree.value? notNull notType]

theorem Agree.number? : k'.number? name = k.number? name := by
  simp only [Keywords.number?, agree.value? notNull notType]

theorem Agree.exclusive? : k'.exclusive? name = k.exclusive? name := by
  simp only [Keywords.exclusive?, agree.value? notNull notType]

theorem Agree.has : k'.has name = k.has name := has_congr (agree name notNull notType)

end Agree

theorem Agree.constraints (agree : k.Agree k') (kind : ScalarKind) :
    k'.constraints kind = k.constraints kind := by
  cases kind <;>
    simp [Keywords.constraints, agree.count?, agree.text?, agree.number?, agree.exclusive?]

theorem Agree.countRange (agree : k.Agree k') {min max : String}
    (least : min ≠ "nullable" ∧ min ≠ "type") (greatest : max ≠ "nullable" ∧ max ≠ "type") :
    k'.countRange min max = k.countRange min max := by
  rw [Keywords.countRange, Keywords.countRange, agree.count? least.1 least.2,
    agree.count? greatest.1 greatest.2]

theorem Agree.properties (agree : k.Agree k') : k'.properties = k.properties := by
  simp [Keywords.properties, agree.value?]

theorem Agree.required (agree : k.Agree k') : k'.required = k.required := by
  simp [Keywords.required, agree.value?, agree.properties]

/-- The same combining keyword comes first. -/
theorem Agree.find? (agree : k.Agree k') :
    combining.find? k'.has = combining.find? k.has := by
  refine List.find?_congr fun name among => agree.has ?_ ?_
  · rintro rfl
    exact absurd among (by decide)
  · rintro rfl
    exact absurd among (by decide)

/-- Keywords that agree on what they say of types have the same types. -/
theorem Agree.types? (agree : k.Agree k')
    (same : Json.member? k'.members "type" = Json.member? k.members "type") :
    k'.types? = k.types? := by
  have value : k'.value? "type" = k.value? "type" := by simp only [Keywords.value?, same]
  simp [Keywords.types?, value, agree.value?]

end Keywords

/-! ## Nodes of one meaning -/

namespace Node

variable {d : Document} {strip : Bool} {node node' : Node} {nodes nodes' : List Node}
  {value : Json}

/-- The nodes refer to the same names, and the same values satisfy them. -/
structure Equivalent (node node' : Node) : Prop where
  targets : node'.targets = node.targets
  satisfied : ∀ d strip value,
    Satisfies .rounded d strip node' value ↔ Satisfies .rounded d strip node value

theorem Equivalent.refl (node : Node) : node.Equivalent node := ⟨rfl, fun _ _ _ => Iff.rfl⟩

/-- The first node refers to names that the second refers to, and what satisfies it satisfies the
second. -/
structure Narrows (node node' : Node) : Prop where
  targets : ∀ name ∈ node.targets, name ∈ node'.targets
  satisfied : ∀ d strip value,
    Satisfies .rounded d strip node value → Satisfies .rounded d strip node' value

theorem Narrows.trans {node'' : Node} (first : node.Narrows node') (second : node'.Narrows node'') :
    node.Narrows node'' :=
  ⟨fun name refers => second.targets name (first.targets name refers),
    fun d strip value own => second.satisfied d strip value (first.satisfied d strip value own)⟩

theorem Equivalent.narrows (same : node.Equivalent node') : node'.Narrows node :=
  ⟨fun _ refers => same.targets ▸ refers, fun d strip value => (same.satisfied d strip value).mp⟩

/-- What is unknown accepts anything, whatever its source. -/
theorem equivalent_unknown (token token' : Option String) (raw raw' : Json) :
    (unknown token raw).Equivalent (unknown token' raw') :=
  ⟨rfl, fun _ _ _ => ⟨fun _ => .unknown, fun _ => .unknown⟩⟩

theorem satisfies_anyOf_iff {branches : List Node} :
    Satisfies .rounded d strip (.union .anyOf branches) value ↔
      ∃ branch ∈ branches, Satisfies .rounded d strip branch value := by
  constructor
  · intro satisfied
    cases satisfied with
    | anyOf member satisfied => exact ⟨_, member, satisfied⟩
  · rintro ⟨branch, member, satisfied⟩
    exact .anyOf member satisfied

/-- A scalar node of null is satisfied by null only, whatever its refinements. -/
theorem satisfies_null_iff {format : Option Format} {constraints : Constraints} :
    Satisfies .rounded d strip (.scalar .null format constraints) value ↔ value = .null := by
  constructor
  · intro satisfied
    cases satisfied with
    | scalar meets => cases value <;> first | rfl | exact meets.elim
  · rintro rfl
    exact .scalar trivial

/-- A node that lets null pass does so, and passes what it passed before. -/
theorem satisfies_orNull_iff :
    Satisfies .rounded d strip node.orNull value ↔
      value = .null ∨ Satisfies .rounded d strip node value := by
  unfold orNull
  split
  · next null =>
    unfold isNull at null
    split at null
    · rw [satisfies_null_iff, or_self]
    · cases null
  · rw [satisfies_anyOf_iff, plain]
    simp [satisfies_null_iff, or_comm]

/-- A node that may let null pass is satisfied by null if it does, and by what satisfied it. -/
theorem satisfies_nullable_iff {on : Bool} :
    Satisfies .rounded d strip (if on then node.orNull else node) value ↔
      (on = true ∧ value = .null) ∨ Satisfies .rounded d strip node value := by
  cases on with
  | true => simp [satisfies_orNull_iff]
  | false => simp

theorem targets_nullable {on : Bool} :
    (if on then node.orNull else node).targets = node.targets := by
  unfold orNull
  split
  · split
    · rfl
    · rw [targets_union]
      simp [plain, targets, mentions]
  · rfl

/-- Joined nodes are satisfied by what satisfies one of them. -/
theorem satisfies_joined_iff (given : nodes ≠ []) :
    Satisfies .rounded d strip (joined nodes) value ↔
      ∃ node ∈ nodes, Satisfies .rounded d strip node value := by
  match nodes with
  | [] => exact absurd rfl given
  | [node] => simp [joined]
  | first :: second :: rest => exact satisfies_anyOf_iff

theorem targets_joined : (joined nodes).targets = nodes.flatMap targets := by
  match nodes with
  | [] => rfl
  | [node] => simp [joined]
  | first :: second :: rest => exact targets_union _ _

theorem Narrows.nullable (narrows : node.Narrows node') (on : Bool) :
    (if on then node.orNull else node).Narrows (if on then node'.orNull else node') := by
  refine ⟨fun name => ?_, fun d strip value => ?_⟩
  · rw [targets_nullable, targets_nullable]
    exact narrows.targets name
  · rw [satisfies_nullable_iff, satisfies_nullable_iff]
    exact Or.imp_right (narrows.satisfied d strip value)

/-- Each of joined nodes narrows them. -/
theorem Narrows.joined (inside : node ∈ nodes) : node.Narrows (joined nodes) := by
  refine ⟨fun name refers => ?_, fun d strip value satisfied => ?_⟩
  · rw [targets_joined]
    exact List.mem_flatMap.mpr ⟨node, inside, refers⟩
  · rw [satisfies_joined_iff (List.ne_nil_of_mem inside)]
    exact ⟨node, inside, satisfied⟩

theorem Equivalent.joined (each : List.Forall₂ Equivalent nodes nodes') :
    (joined nodes).Equivalent (Node.joined nodes') := by
  constructor
  · rw [targets_joined, targets_joined]
    induction each with
    | nil => rfl
    | cons same _ ih => rw [List.flatMap_cons, List.flatMap_cons, same.targets, ih]
  · intro d strip value
    cases each with
    | nil => exact Iff.rfl
    | cons first rest =>
      have each := List.Forall₂.cons first rest
      rw [satisfies_joined_iff (by simp), satisfies_joined_iff (by simp)]
      constructor
      · rintro ⟨node', inside, satisfied⟩
        obtain ⟨node, member, same⟩ := forall₂_mem_right each inside
        exact ⟨node, member, (same.satisfied d strip value).mp satisfied⟩
      · rintro ⟨node, inside, satisfied⟩
        obtain ⟨node', member, same⟩ := forall₂_mem_right each.flip inside
        exact ⟨node', member, (same.satisfied d strip value).mpr satisfied⟩

end Node

/-! ## Reading by keywords that agree -/

section Agree

variable {R : Json → Node → List FindingKind → Prop} {k k' : Keywords} {node : Node}
  {kinds : List FindingKind} (agree : k.Agree k')
include agree

theorem ReadsOthers.of_agree {additional : Additional Node}
    (others : ReadsOthers R k additional kinds) : ReadsOthers R k' additional kinds := by
  have same : k'.value? "additionalProperties" = k.value? "additionalProperties" :=
    agree.value? (by decide) (by decide)
  cases others with
  | absent given => exact .absent (same.trans given)
  | allowed given => exact .allowed (same.trans given)
  | denied given => exact .denied (same.trans given)
  | schema given other inner => exact .schema (same.trans given) other inner

/-- Under one type, keywords that agree have nodes of one meaning: only what is unknown keeps the
source. -/
theorem ReadsType.of_agree {token : String} (reads : ReadsType R k token node kinds) :
    ∃ node', ReadsType R k' token node' kinds ∧ node.Equivalent node' := by
  cases reads with
  | @scalar kind format named =>
    have reads' := ReadsType.scalar (R := R) (k := k') named
    rw [agree.text? (by decide) (by decide), agree.constraints] at reads'
    exact ⟨_, reads', .refl _⟩
  | array named given inner =>
    have reads' := ReadsType.array (k := k') named
      ((agree.value? (by decide) (by decide)).trans given) inner
    rw [agree.countRange (by decide) (by decide), agree.flag (by decide) (by decide)] at reads'
    exact ⟨_, reads', .refl _⟩
  | object named each others declared =>
    have reads' := ReadsType.object (R := R) (k := k') named (by rwa [agree.properties])
      (others.of_agree agree) (by rwa [agree.required])
    rw [agree.required, agree.countRange (by decide) (by decide)] at reads'
    exact ⟨_, reads', .refl _⟩
  | other named => exact ⟨_, .other named, Node.equivalent_unknown _ _ _ _⟩

/-- Keywords that agree describe nodes of one meaning, if they have the same types or one of the
combining keywords hides these. -/
theorem Describes.of_agree (fits : ∀ member ∈ k.members, Fits member)
    (types : Keywords.combining.find? k.has = none → k'.types? = k.types?)
    (describes : Describes R k node kinds) :
    ∃ node', Describes R k' node' kinds ∧ node.Equivalent node' := by
  cases first : Keywords.combining.find? k.has with
  | some kept =>
    have among := List.mem_of_find?_eq_some first
    obtain ⟨form, decides⟩ := Keywords.exists_decides fits among (List.find?_some first)
    have own : Json.member? k'.members kept = Json.member? k.members kept := by
      refine agree kept ?_ ?_
      · rintro rfl
        exact absurd among (by decide)
      · rintro rfl
        exact absurd among (by decide)
    have same : k'.form = k.form :=
      ((decides.congr own).form_eq (agree.find?.trans first)).trans (decides.form_eq first).symm
    rw [← decides.form_eq first] at decides
    exact ⟨node, decides.describes_congr same describes, .refl node⟩
  | none =>
    have form := Keywords.form_of_undecided first
    have form' := Keywords.form_of_undecided (agree.find?.trans first)
    rw [types first, ← form] at form'
    cases describes with
    | typed typed each =>
      obtain ⟨nodes', each', same⟩ :=
        each.exists_counterparts fun token node own reads => reads.of_agree agree
      exact ⟨_, .typed (form'.trans typed) each', .joined same⟩
    | free free => exact ⟨_, .free (form'.trans free), Node.equivalent_unknown _ _ _ _⟩
    | reference other | listed other | choice other | conjunction other | negation other =>
      cases none : k.types? <;> simp [none, other] at form

end Agree

/-! ## Abbreviated sources -/

namespace Keywords

/-- A schema that lets null pass as well. -/
def letNull (members : Members) : Members := Json.put members "nullable" (.bool true)

/-- A schema that says nothing of null. -/
def forgetNull (members : Members) : Members := members.filter fun m => m.1 != "nullable"

/-- A schema with one type in place of others. -/
def retype (members : Members) (token : String) : Members :=
  Json.put members "type" (.string token)

variable {members : Members} {name token : String}

theorem member?_letNull (other : name ≠ "nullable") :
    Json.member? (letNull members) name = Json.member? members name := by
  rw [letNull, Json.member?_put, if_neg (by simpa using other.symm)]

theorem flag_letNull : (⟨letNull members⟩ : Keywords).flag "nullable" = true := by
  simp [flag, value?, letNull, Json.member?_put]

theorem member?_forgetNull (other : name ≠ "nullable") :
    Json.member? (forgetNull members) name = Json.member? members name := by
  rw [forgetNull, Json.member?_filter_name (fun name => name != "nullable"),
    if_pos (by simpa using other)]

theorem flag_forgetNull : (⟨forgetNull members⟩ : Keywords).flag "nullable" = false := by
  have absent : Json.member? (forgetNull members) "nullable" = none := by
    rw [forgetNull, Json.member?_filter_name (fun name => name != "nullable"), if_neg (by decide)]
  simp [flag, value?, absent]

theorem member?_retype (other : name ≠ "type") :
    Json.member? (retype members token) name = Json.member? members name := by
  rw [retype, Json.member?_put, if_neg (by simpa using other.symm)]

theorem types?_retype : (⟨retype members token⟩ : Keywords).types? = some [token] := by
  simp [types?, value?, retype, Json.member?_put]

theorem fits_put {value : Json} (fits : ∀ member ∈ members, Fits member)
    (own : Fits (name, value)) : ∀ member ∈ Json.put members name value, Fits member := by
  intro member inside
  rcases Json.mem_put inside with rfl | inside
  · exact own
  · exact fits member inside

theorem fits_letNull (fits : ∀ member ∈ members, Fits member) :
    ∀ member ∈ letNull members, Fits member :=
  fits_put fits rfl

theorem fits_retype (fits : ∀ member ∈ members, Fits member) :
    ∀ member ∈ retype members token, Fits member :=
  fits_put fits rfl

theorem fits_forgetNull (fits : ∀ member ∈ members, Fits member) :
    ∀ member ∈ forgetNull members, Fits member :=
  fun member inside => fits member (List.mem_of_mem_filter inside)

theorem agree_letNull : (⟨members⟩ : Keywords).Agree ⟨letNull members⟩ :=
  fun _ notNull _ => member?_letNull notNull

theorem agree_forgetNull : (⟨members⟩ : Keywords).Agree ⟨forgetNull members⟩ :=
  fun _ notNull _ => member?_forgetNull notNull

theorem agree_retype : (⟨members⟩ : Keywords).Agree ⟨retype members token⟩ :=
  fun _ _ notType => member?_retype notType

end Keywords

section Reads

open Keywords (letNull forgetNull retype)

variable {members : Members} {node own : Node} {kinds more : List FindingKind}

/-- A schema object is read as what its keywords describe, and null if they let it pass. -/
theorem Keywords.reads_of_describes (fits : ∀ member ∈ members, Fits member)
    (describes : Describes Json.Reads ⟨members⟩ own more) :
    ∃ kinds, (Json.object members).Reads
      (if (⟨members⟩ : Keywords).flag "nullable" then own.orNull else own) kinds :=
  ⟨_, Json.reads_object_iff.mpr
    ⟨keywordMismatch?_eq_none_iff.mpr fits, own, more, describes, rfl, rfl⟩⟩

/-- With and without null, a schema is read as nodes that differ in null only. -/
theorem Json.Reads.with_null (reads : (Json.object members).Reads node kinds) :
    ∃ nullable plain : Node,
      (∃ kinds, (Json.object (letNull members)).Reads nullable kinds) ∧
      (∃ kinds, (Json.object (forgetNull members)).Reads plain kinds) ∧
      nullable.targets = node.targets ∧ plain.targets = node.targets ∧
      ∀ d strip value, Satisfies .rounded d strip nullable value ↔
        value = .null ∨ Satisfies .rounded d strip plain value := by
  obtain ⟨fits, own, more, describes, rfl, -⟩ := Json.reads_object_iff.mp reads
  rw [keywordMismatch?_eq_none_iff] at fits
  obtain ⟨inner, described, same⟩ := describes.of_agree Keywords.agree_letNull fits
    fun _ => Keywords.agree_letNull.types? (Keywords.member?_letNull (by decide))
  obtain ⟨plain, described', same'⟩ := describes.of_agree Keywords.agree_forgetNull fits
    fun _ => Keywords.agree_forgetNull.types? (Keywords.member?_forgetNull (by decide))
  have readsNullable := Keywords.reads_of_describes (Keywords.fits_letNull fits) described
  have readsPlain := Keywords.reads_of_describes (Keywords.fits_forgetNull fits) described'
  refine ⟨_, _, readsNullable, readsPlain, ?_, ?_, fun d strip value => ?_⟩
  · rw [Node.targets_nullable, Node.targets_nullable, same.targets]
  · rw [Node.targets_nullable, Node.targets_nullable, same'.targets]
  · rw [Node.satisfies_nullable_iff, Node.satisfies_nullable_iff, same.satisfied, same'.satisfied,
      Keywords.flag_letNull, Keywords.flag_forgetNull]
    simp

/-- Under one of several types, keywords describe a node that refers to less and is satisfied by
less than what they describe under all, and what satisfies the latter does so for one of them. -/
theorem Describes.of_types {tokens : List String} (given : tokens ≠ [])
    (listed : Json.member? members "type" = some (.array (tokens.map .string)))
    (fits : ∀ member ∈ members, Fits member)
    (describes : Describes Json.Reads ⟨members⟩ own more) :
    (∀ token ∈ tokens, ∃ single more', Describes Json.Reads ⟨retype members token⟩ single more' ∧
      single.Narrows own) ∧
    ∀ d strip value, Satisfies .rounded d strip own value → ∃ token ∈ tokens, ∃ single more',
      Describes Json.Reads ⟨retype members token⟩ single more' ∧
        Satisfies .rounded d strip single value := by
  cases first : Keywords.combining.find? (⟨members⟩ : Keywords).has with
  | some kept =>
    -- The types are hidden, so each of them describes the same.
    have hidden (token : String) : ∃ single,
        Describes Json.Reads ⟨retype members token⟩ single more ∧ own.Equivalent single :=
      describes.of_agree Keywords.agree_retype fits fun none => by simp [first] at none
    constructor
    · intro token _
      obtain ⟨single, described, same⟩ := hidden token
      exact ⟨single, more, described, same.narrows⟩
    · intro d strip value satisfied
      obtain ⟨token, member⟩ := List.exists_mem_of_ne_nil tokens given
      obtain ⟨single, described, same⟩ := hidden token
      exact ⟨token, member, single, more, described, (same.satisfied d strip value).mpr satisfied⟩
  | none =>
    have types : (⟨members⟩ : Keywords).types? = some tokens.eraseDups := by
      simp [Keywords.types?, Keywords.value?, listed, Keywords.texts_map_string]
    have form := Keywords.form_of_undecided first
    rw [types] at form
    have alone {token : String} {single : Node} {own : List FindingKind}
        (reads : ReadsType Json.Reads ⟨retype members token⟩ token single own) :
        Describes Json.Reads ⟨retype members token⟩ single (own ++ []) := by
      have agree : (⟨members⟩ : Keywords).Agree ⟨retype members token⟩ := Keywords.agree_retype
      have form' := Keywords.form_of_undecided (agree.find?.trans first)
      rw [Keywords.types?_retype] at form'
      exact .typed form' (.cons reads .nil)
    cases describes with
    | @typed _ nodes _ typed each =>
      cases form.symm.trans typed
      constructor
      · intro token member
        obtain ⟨node, inside, own, reads⟩ :=
          forall₂_mem_right each.forall₂.flip (List.mem_eraseDups.mpr member)
        obtain ⟨single, reads', same⟩ := reads.of_agree Keywords.agree_retype
        exact ⟨single, _, alone reads', same.narrows.trans (.joined inside)⟩
      · intro d strip value satisfied
        obtain ⟨token, member⟩ := List.exists_mem_of_ne_nil tokens given
        obtain ⟨node, inside, -⟩ :=
          forall₂_mem_right each.forall₂.flip (List.mem_eraseDups.mpr member)
        rw [Node.satisfies_joined_iff (List.ne_nil_of_mem inside)] at satisfied
        obtain ⟨node, inside, satisfied⟩ := satisfied
        obtain ⟨token, member, own, -, reads⟩ := each.exists_of_mem inside
        obtain ⟨single, reads', same⟩ := reads.of_agree Keywords.agree_retype
        exact ⟨token, List.mem_eraseDups.mp member, single, _, alone reads',
          (same.satisfied d strip value).mpr satisfied⟩
    | reference other | listed other | choice other | conjunction other | negation other
    | free other => cases form.symm.trans other

/-- Under one of several types, a schema is read as a node that refers to less and is satisfied by
less than what it is read as, and what satisfies the latter does so for one of the types. -/
theorem Json.Reads.under_types {tokens : List String} (given : tokens ≠ [])
    (listed : Json.member? members "type" = some (.array (tokens.map .string)))
    (reads : (Json.object members).Reads node kinds) :
    (∀ token ∈ tokens, ∃ single kinds, (Json.object (retype members token)).Reads single kinds ∧
      single.Narrows node) ∧
    ∀ d strip value, Satisfies .rounded d strip node value → ∃ token ∈ tokens, ∃ single kinds,
      (Json.object (retype members token)).Reads single kinds ∧
        Satisfies .rounded d strip single value := by
  obtain ⟨fits, own, more, describes, rfl, -⟩ := Json.reads_object_iff.mp reads
  rw [keywordMismatch?_eq_none_iff] at fits
  obtain ⟨narrower, enough⟩ := describes.of_types given listed fits
  have flag (token : String) : (⟨retype members token⟩ : Keywords).flag "nullable" =
      (⟨members⟩ : Keywords).flag "nullable" := by
    have same : Json.member? (retype members token) "nullable" = Json.member? members "nullable" :=
      Keywords.member?_retype (by decide)
    simp only [Keywords.flag, Keywords.value?, same]
  have lift {token : String} {single : Node} {more' : List FindingKind}
      (described : Describes Json.Reads ⟨retype members token⟩ single more') :
      ∃ kinds, (Json.object (retype members token)).Reads
        (if (⟨members⟩ : Keywords).flag "nullable" then single.orNull else single) kinds :=
    flag token ▸ Keywords.reads_of_describes (Keywords.fits_retype fits) described
  constructor
  · intro token member
    obtain ⟨single, more', described, narrows⟩ := narrower token member
    obtain ⟨kinds, reads'⟩ := lift described
    exact ⟨_, kinds, reads', narrows.nullable _⟩
  · intro d strip value satisfied
    rw [Node.satisfies_nullable_iff] at satisfied
    rcases satisfied with null | satisfied
    · obtain ⟨token, member⟩ := List.exists_mem_of_ne_nil tokens given
      obtain ⟨single, more', described, -⟩ := narrower token member
      obtain ⟨kinds, reads'⟩ := lift described
      exact ⟨token, member, _, kinds, reads', Node.satisfies_nullable_iff.mpr (.inl null)⟩
    · obtain ⟨token, member, single, more', described, satisfied⟩ := enough d strip value satisfied
      obtain ⟨kinds, reads'⟩ := lift described
      exact ⟨token, member, _, kinds, reads', Node.satisfies_nullable_iff.mpr (.inr satisfied)⟩

end Reads

/-! ## Checks -/

/-- A schema is read, wherever it stands, as a node that has this check among the entries of the
document. -/
def Document.Understands (d : Document) (schema : Json) (check : Check) : Prop :=
  ∃ here node findings, Node.ofJson here schema = .ok (node, findings) ∧
    HasCheck d.names node check

namespace Document

variable {d : Document} {schema : Json} {check : Check} {node : Node} {kinds : List FindingKind}

theorem understands_iff : d.Understands schema check ↔
    ∃ node kinds, schema.Reads node kinds ∧ HasCheck d.names node check := by
  constructor
  · rintro ⟨here, node, findings, read, has⟩
    exact ⟨node, _, (gives_ofJson_iff here schema node _).mp ⟨findings, read, rfl⟩, has⟩
  · rintro ⟨node, kinds, ⟨findings, read, -⟩, has⟩
    exact ⟨_, node, findings, read, has⟩

/-- The check of a schema is one of the node that the schema is read as. -/
theorem Understands.hasCheck (understood : d.Understands schema check)
    (reads : schema.Reads node kinds) : HasCheck d.names node check := by
  obtain ⟨node', kinds', reads', has⟩ := understands_iff.mp understood
  rwa [(reads.unique reads').1]

/-- A schema is understood if it is read as a node that refers to entries only. -/
theorem exists_understands (reads : schema.Reads node kinds)
    (resolved : ∀ name ∈ node.targets, name ∈ d.names) : ∃ check, d.Understands schema check := by
  obtain ⟨check, has⟩ := exists_hasCheck_iff.mpr resolved
  exact ⟨check, understands_iff.mpr ⟨node, kinds, reads, has⟩⟩

/-- Each source schema of a document that builds is understood inside it, and its check is the one
in the slot of its entry. -/
theorem understands_source {root schemas : Members} {path : List String} {options : Options}
    {r : Registry} (found : sources root = .ok (path, schemas))
    (read : ofJson (.object root) = .ok d) (built : Registry.build options d = .ok r) {slot : Nat}
    {name : String} (place : schemas[slot]? = some (name, schema)) :
    d.Understands schema (r.checks.getD slot .any) := by
  obtain ⟨compiled, from'⟩ := Registry.builtFrom_of_build built
  have each := (ofJson_object_iff found).mp ⟨d.findings, read, rfl⟩
  obtain ⟨⟨name', node⟩, entry, kinds, -, reads⟩ := forall₂_getElem? each.forall₂ place
  exact understands_iff.mpr ⟨node, kinds, reads, from'.hasCheck entry⟩

end Document

namespace Registry

/-- The value passes the check, with so many levels left below. -/
def Accepts (r : Registry) (levels : Nat) (check : Check) (value : Json) (path : Path) : Prop :=
  ∃ form, Check.run r.setting levels check value path = .ok form

/-- The levels do not do for the value. -/
def Overruns (r : Registry) (levels : Nat) (check : Check) (value : Json) (path : Path) : Prop :=
  Check.Overrun (Check.run r.setting levels check value path)

variable {options : Options} {d : Document} {r : Registry} {check : Check} {node : Node}
  {value : Json} {levels : Nat} {path : Path}

/-- Unless the levels do not do, a check accepts what satisfies its node. -/
theorem accepts_iff_satisfies (built : build options d = .ok r) (has : HasCheck d.names node check)
    (within : ¬ r.Overruns levels check value path) :
    r.Accepts levels check value path ↔ Satisfies .rounded d r.setting.stripUnknown node value := by
  obtain ⟨compiled, from'⟩ := builtFrom_of_build built
  have slots (slot : Nat) (name : String) (node : Node)
      (place : d.entries[slot]? = some (name, node)) :
      HasCheck d.names node (r.setting.slots.getD slot .any) := from'.hasCheck place
  have faithful := Check.run_faithful slots levels node check value path has
  unfold Overruns at within
  unfold Accepts
  cases result : Check.run r.setting levels check value path with
  | ok form => simp [faithful.accepted form result]
  | error issues =>
    rw [result] at within
    have shallow : Check.anyDepthExceeded issues = false := by
      simpa [Check.overrun_error] using within
    have violated := faithful.rejected issues result shallow
    simpa using fun satisfied => not_violates_of_satisfies satisfied violated

open Keywords (letNull forgetNull retype)

/-- In a document that builds, a schema that lets null pass accepts null and what it accepts without
saying so, and a schema with a list of types accepts what it accepts under one of them, whatever the
types and the other keywords are. Wherever the schema is understood, so are the others. -/
theorem abbreviations_spelled_out (options : Options) (d : Document) (r : Registry)
    (built : build options d = .ok r) (members : Members) (check : Check)
    (understood : d.Understands (.object members) check) (levels : Nat) (value : Json)
    (path : Path) :
    ((∃ nullable, d.Understands (.object (letNull members)) nullable) ∧
      (∃ plain, d.Understands (.object (forgetNull members)) plain) ∧
      ∀ nullable plain, d.Understands (.object (letNull members)) nullable →
        d.Understands (.object (forgetNull members)) plain →
        ¬ r.Overruns levels nullable value path → ¬ r.Overruns levels plain value path →
        (r.Accepts levels nullable value path ↔
          value = .null ∨ r.Accepts levels plain value path)) ∧
    ∀ tokens : List String, tokens ≠ [] →
      Json.member? members "type" = some (.array (tokens.map .string)) →
      (∀ token ∈ tokens, ∃ single, d.Understands (.object (retype members token)) single) ∧
      ∀ single : String → Check,
        (∀ token ∈ tokens, d.Understands (.object (retype members token)) (single token)) →
        ¬ r.Overruns levels check value path →
        (∀ token ∈ tokens, ¬ r.Overruns levels (single token) value path) →
        (r.Accepts levels check value path ↔
          ∃ token ∈ tokens, r.Accepts levels (single token) value path) := by
  obtain ⟨node, kinds, reads, has⟩ := Document.understands_iff.mp understood
  have resolved := exists_hasCheck_iff.mp ⟨check, has⟩
  refine ⟨?_, fun tokens given listed => ?_⟩
  · obtain ⟨_, _, ⟨_, readsNullable⟩, ⟨_, readsPlain⟩, targets, targets', same⟩ := reads.with_null
    refine ⟨Document.exists_understands readsNullable (targets ▸ resolved),
      Document.exists_understands readsPlain (targets' ▸ resolved), ?_⟩
    intro nullable plain forNullable forPlain within within'
    rw [accepts_iff_satisfies built (forNullable.hasCheck readsNullable) within,
      accepts_iff_satisfies built (forPlain.hasCheck readsPlain) within', same]
  · obtain ⟨narrower, enough⟩ := reads.under_types given listed
    constructor
    · intro token member
      obtain ⟨own, more, reads', narrows⟩ := narrower token member
      exact Document.exists_understands reads' fun name refers =>
        resolved name (narrows.targets name refers)
    · intro single forToken within eachWithin
      rw [accepts_iff_satisfies built has within]
      constructor
      · intro satisfied
        obtain ⟨token, member, own, more, reads', satisfied⟩ := enough _ _ _ satisfied
        refine ⟨token, member, ?_⟩
        rwa [accepts_iff_satisfies built ((forToken token member).hasCheck reads')
          (eachWithin token member)]
      · rintro ⟨token, member, accepted⟩
        obtain ⟨own, more, reads', narrows⟩ := narrower token member
        rw [accepts_iff_satisfies built ((forToken token member).hasCheck reads')
          (eachWithin token member)] at accepted
        exact narrows.satisfied _ _ _ accepted

/-- Notes are texts. -/
def notes : Document := ⟨[("Note", .plain .string)], []⟩

/-- A short text, or a list of notes. The first of the types comes up again. -/
def remarkMembers : Members :=
  [("type", .array (["string", "array", "string"].map .string)), ("maxLength", .number (.int 3)),
    ("items", .object [("$ref", .string "Note")])]

/-- The checks of a remark: a short text, a list of notes, and either. -/
def shortText : Check := .string [.maxLength 3]
def noteList : Check := .array (.ref 0) []
def remark : Check := .union .anyOf [shortText, noteList]

/-- The remark is understood under all of its types, with null and without, and under each. -/
theorem remark_understood :
    notes.Understands (.object remarkMembers) remark ∧
    notes.Understands (.object (letNull remarkMembers)) (.union .anyOf [remark, .null]) ∧
    notes.Understands (.object (forgetNull remarkMembers)) remark ∧
    notes.Understands (.object (retype remarkMembers "string")) shortText ∧
    notes.Understands (.object (retype remarkMembers "array")) noteList := by
  have note : (Json.object [("$ref", .string "Note")]).Reads (.reference "Note") [] :=
    Json.reads_object_iff.mpr ⟨rfl, _, _, .reference rfl rfl, rfl, rfl⟩
  have text {k : Keywords} : ReadsType Json.Reads k "string" _ _ := .scalar rfl
  have list {k : Keywords} (given : k.value? "items" = some (.object [("$ref", .string "Note")])) :
      ReadsType Json.Reads k "array" _ _ := .array rfl given note
  have understood {members : Members} {own : Node} {more : List FindingKind} {check : Check}
      (describes : Describes Json.Reads ⟨members⟩ own more)
      (fits : keywordMismatch? members = none)
      (has : HasCheck notes.names
        (if (⟨members⟩ : Keywords).flag "nullable" then own.orNull else own) check) :
      notes.Understands (.object members) check :=
    Document.understands_iff.mpr
      ⟨_, _, Json.reads_object_iff.mpr ⟨fits, own, more, describes, rfl, rfl⟩, has⟩
  exact ⟨understood (.typed rfl (.cons text (.cons (list rfl) .nil))) rfl ⟨_, ⟨"", [], rfl⟩, rfl⟩,
    understood (.typed rfl (.cons text (.cons (list rfl) .nil))) rfl ⟨_, ⟨"", [], rfl⟩, rfl⟩,
    understood (.typed rfl (.cons text (.cons (list rfl) .nil))) rfl ⟨_, ⟨"", [], rfl⟩, rfl⟩,
    understood (.typed rfl (.cons text .nil)) rfl ⟨_, ⟨"", [], rfl⟩, rfl⟩,
    understood (.typed rfl (.cons (list rfl) .nil)) rfl ⟨_, ⟨"", [], rfl⟩, rfl⟩⟩

/-- A list of notes passes as one of the types does, and null passes where it is let pass. -/
theorem remark_passes :
    ∃ r, build {} notes = .ok r ∧ notes.Understands (.object remarkMembers) remark ∧
      r.Accepts 3 remark (.array [.string "net"]) [] ∧
      r.Accepts 3 (.union .anyOf [remark, .null]) .null [] := by
  obtain ⟨understood, nullable, plain, text, list⟩ := remark_understood
  refine ⟨_, rfl, understood, ?_, ?_⟩
  · have listed := abbreviations_spelled_out {} notes _ rfl _ _ understood 3
      (.array [.string "net"]) []
    have spelled := (listed.2 ["string", "array", "string"] (by decide) rfl).2
      (fun token => if token = "array" then noteList else shortText)
    refine (spelled ?_ ?_ ?_).mpr ⟨"array", by decide, _, rfl⟩
    · intro token member
      simp only [List.mem_cons, List.not_mem_nil, or_false] at member
      rcases member with rfl | rfl | rfl
      · exact text
      · exact list
      · exact text
    · exact Bool.false_ne_true
    · intro token member
      simp only [List.mem_cons, List.not_mem_nil, or_false] at member
      rcases member with rfl | rfl | rfl <;> exact Bool.false_ne_true
  · have spelled := (abbreviations_spelled_out {} notes _ rfl _ _ understood 3 .null []).1.2.2
      _ _ nullable plain
    exact (spelled Bool.false_ne_true Bool.false_ne_true).mpr (.inl rfl)

end Registry

end DataSchema
