import DataSchema.Schema.Document
import Mathlib.Data.List.Forall2

/-!
Reading as a relation. Whether a source schema is read as a node, and which kinds of findings are
made on the way, does not depend on where it stands. There is one rule for each form of keywords and
one for each type, stated over what the parts are read as.
-/
namespace DataSchema

/-! ## Results -/

/-- Reading gives this, with findings of these kinds. -/
def Gives {α : Type} (result : Except LoadError (α × List Finding)) (x : α)
    (kinds : List FindingKind) : Prop :=
  ∃ findings, result = .ok (x, findings) ∧ findings.map Finding.kind = kinds

section Results

variable {α β : Type} {x y : α} {z : β} {kinds : List FindingKind} {findings : List Finding}
  {result : Except LoadError (α × List Finding)}

@[simp] theorem gives_ok_iff : Gives (.ok (x, findings)) y kinds ↔
    x = y ∧ findings.map Finding.kind = kinds := by
  simp only [Gives, Except.ok.injEq, Prod.mk.injEq]
  constructor
  · rintro ⟨own, ⟨rfl, rfl⟩, same⟩
    exact ⟨rfl, same⟩
  · rintro ⟨rfl, same⟩
    exact ⟨findings, ⟨rfl, rfl⟩, same⟩

@[simp] theorem not_gives_error (e : LoadError) : ¬ Gives (.error e) x kinds := by
  simp [Gives]

@[simp] theorem not_gives_refuse (here : Locus) (cause : Cause) :
    ¬ Gives (here.refuse cause) x kinds :=
  not_gives_error _

theorem gives_noting_iff : Gives (noting findings result) x kinds ↔
    ∃ more, Gives result x more ∧ findings.map Finding.kind ++ more = kinds := by
  cases result with
  | error e => simp [noting]
  | ok r =>
    obtain ⟨own, more⟩ := r
    simp [noting, and_assoc]

theorem gives_map_iff {f : α → β} :
    Gives (result.map fun (a, findings) => (f a, findings)) z kinds ↔
      ∃ a, Gives result a kinds ∧ f a = z := by
  cases result with
  | error e => simp [Except.map]
  | ok r =>
    obtain ⟨own, more⟩ := r
    simp [Except.map, and_comm]

/-- Work that goes on with a result and puts its findings first. -/
theorem gives_bind_iff {next : α → Except LoadError (β × List Finding)} :
    Gives (result.bind fun (a, findings) => noting findings (next a)) z kinds ↔
      ∃ a first more, Gives result a first ∧ Gives (next a) z more ∧ first ++ more = kinds := by
  cases result with
  | error e => simp [Except.bind]
  | ok r =>
    obtain ⟨own, more⟩ := r
    simp [Except.bind, gives_noting_iff, and_assoc]

/-- Work that goes on with two results, of which the second does not depend on the first. -/
theorem gives_bind_bind_iff {γ : Type} {other : Except LoadError (β × List Finding)}
    {next : α → β → Except LoadError (γ × List Finding)} {c : γ} :
    Gives (result.bind fun (a, findings) => other.bind fun (b, more) =>
        noting (findings ++ more) (next a b)) c kinds ↔
      ∃ a b first second third, Gives result a first ∧ Gives other b second ∧
        Gives (next a b) c third ∧ first ++ second ++ third = kinds := by
  cases result with
  | error e => simp [Except.bind]
  | ok r =>
    obtain ⟨own, findings⟩ := r
    cases other with
    | error e => simp [Except.bind]
    | ok r =>
      obtain ⟨second, more⟩ := r
      simp [Except.bind, gives_noting_iff, and_assoc]

/-- What is made of a first item and the rest, one after the other. -/
theorem gives_cons_iff {f : α → β} {rest : Except LoadError (List β × List Finding)}
    {list : List β} :
    Gives (result.bind fun (a, findings) =>
        noting findings (rest.map fun (bs, more) => (f a :: bs, more))) list kinds ↔
      ∃ a bs first more, Gives result a first ∧ Gives rest bs more ∧ f a :: bs = list ∧
        first ++ more = kinds := by
  have steps := @gives_bind_iff _ _ list kinds result
    fun a => rest.map fun (bs, more) => (f a :: bs, more)
  refine steps.trans ?_
  simp only [gives_map_iff]
  constructor
  · rintro ⟨a, first, more, given, ⟨bs, others, made⟩, joined⟩
    exact ⟨a, bs, first, more, given, others, made, joined⟩
  · rintro ⟨a, bs, first, more, given, others, made, joined⟩
    exact ⟨a, first, more, given, ⟨bs, others, made⟩, joined⟩

theorem gives_settle_iff {here : Locus} {made : Except Cause Node} {node : Node} :
    Gives (here.settle made) node kinds ↔ made = .ok node ∧ kinds = [] := by
  cases made with
  | error cause => simp [Locus.settle]
  | ok own => simp [Locus.settle, eq_comm]

end Results

/-- Each of a list is read in turn, and findings are put together. -/
inductive Each {α β : Type} (R : α → β → List FindingKind → Prop) :
    List α → List β → List FindingKind → Prop
  | nil : Each R [] [] []
  | cons {a b as bs kinds more} (first : R a b kinds) (rest : Each R as bs more) :
      Each R (a :: as) (b :: bs) (kinds ++ more)

section Each

variable {α β : Type} {R : α → β → List FindingKind → Prop} {kinds : List FindingKind}
  {list : List β}

theorem each_nil_iff : Each R [] list kinds ↔ [] = list ∧ [] = kinds := by
  constructor
  · intro each
    cases each
    exact ⟨rfl, rfl⟩
  · rintro ⟨rfl, rfl⟩
    exact .nil

theorem each_cons_iff {a : α} {as : List α} : Each R (a :: as) list kinds ↔
    ∃ b bs first more, R a b first ∧ Each R as bs more ∧ b :: bs = list ∧
      first ++ more = kinds := by
  constructor
  · intro each
    cases each with
    | cons first rest => exact ⟨_, _, _, _, first, rest, rfl, rfl⟩
  · rintro ⟨b, bs, first, more, related, rest, rfl, rfl⟩
    exact .cons related rest

/-- What a list is read as comes from its items. -/
theorem Each.exists_of_mem {as : List α} (each : Each R as list kinds) {b : β}
    (member : b ∈ list) : ∃ a ∈ as, ∃ own, own ⊆ kinds ∧ R a b own := by
  induction each with
  | nil => cases member
  | cons first rest ih =>
    rcases List.mem_cons.mp member with rfl | later
    · exact ⟨_, by simp, _, List.subset_append_left _ _, first⟩
    · obtain ⟨a, inside, own, known, related⟩ := ih later
      refine ⟨a, by simp [inside], own, ?_, related⟩
      exact List.Subset.trans known (List.subset_append_right _ _)

theorem Each.imp_of_mem {S : α → β → List FindingKind → Prop} {as : List α}
    (each : Each R as list kinds) (step : ∀ a ∈ as, ∀ b own, R a b own → S a b own) :
    Each S as list kinds := by
  induction each with
  | nil => exact .nil
  | cons first rest ih =>
    exact .cons (step _ (by simp) _ _ first) (ih fun a inside => step a (by simp [inside]))

/-- If each reading of a list has a counterpart, so has that of the list. -/
theorem Each.exists_counterparts {γ : Type} {S : α → γ → List FindingKind → Prop}
    {T : β → γ → Prop} {as : List α} (each : Each R as list kinds)
    (step : ∀ a b own, R a b own → ∃ c, S a c own ∧ T b c) :
    ∃ cs, Each S as cs kinds ∧ List.Forall₂ T list cs := by
  induction each with
  | nil => exact ⟨[], .nil, .nil⟩
  | cons first rest ih =>
    obtain ⟨c, read, related⟩ := step _ _ _ first
    obtain ⟨cs, others, each⟩ := ih
    exact ⟨c :: cs, .cons read others, .cons related each⟩

/-- A list is read place by place. -/
theorem Each.forall₂ {as : List α} (each : Each R as list kinds) :
    List.Forall₂ (fun a b => ∃ own, R a b own) as list := by
  induction each with
  | nil => exact .nil
  | cons first rest ih => exact .cons ⟨_, first⟩ ih

theorem Each.length_eq {as : List α} (each : Each R as list kinds) : as.length = list.length := by
  induction each with
  | nil => rfl
  | cons first rest ih => rw [List.length_cons, List.length_cons, ih]

end Each

/-! ## Forms -/

/-- What the keywords of a schema make of it. -/
inductive Keywords.Form where
  | reference (target : String)
  | listed (values : List Json)
  | choice (mode : UnionMode) (branches : List Json)
  | conjunction (branches : List Json)
  | negation (inner : Json)
  | typed (tokens : List String)
  | free

/-- The first of the combining keywords decides, else the types do. -/
def Keywords.form (k : Keywords) : Keywords.Form :=
  match k.text? "$ref" with
  | some target => .reference target
  | none =>
    match k.value? "enum", Json.member? k.members "const" with
    | some (.array values), _ => .listed values
    | _, some value => .listed [value]
    | _, none =>
      match k.value? "oneOf", k.value? "anyOf", k.value? "allOf", k.value? "not" with
      | some (.array branches), _, _, _ => .choice .oneOf branches
      | _, some (.array branches), _, _ => .choice .anyOf branches
      | _, _, some (.array branches), _ => .conjunction branches
      | _, _, _, some inner => .negation inner
      | _, _, _, none =>
        match k.types? with
        | none => .free
        | some tokens => .typed tokens

/-- The keywords have the value that a form keeps. -/
def Keywords.Form.KeptBy (k : Keywords) : Keywords.Form → Prop
  | .reference target => k.text? "$ref" = some target
  | .listed values => k.value? "enum" = some (.array values) ∨
      ∃ value, Json.member? k.members "const" = some value ∧ values = [value]
  | .choice mode branches => k.value? mode.keyword = some (.array branches)
  | .conjunction branches => k.value? "allOf" = some (.array branches)
  | .negation inner => k.value? "not" = some inner
  | .typed tokens => k.types? = some tokens
  | .free => k.types? = none

/-- Several types are a disjunction of nodes, and a single one is none. -/
def Node.joined : List Node → Node
  | [] => .any
  | [node] => node
  | nodes => .union .anyOf nodes

namespace Node

variable (here : Locus) (k : Keywords)

theorem eq_of_enumOf {values : List Json} {node : Node} (made : enumOf values = .ok node) :
    node = .enum values := by
  unfold enumOf at made
  split at made
  · cases made
  · split at made
    · cases made
    · cases made
      rfl

/-- A disjunction has two branches or more. -/
theorem unionOf_eq_ok_iff {mode : UnionMode} {nodes : List Node} {node : Node} :
    unionOf mode nodes = .ok node ↔ 2 ≤ nodes.length ∧ .union mode nodes = node := by
  unfold unionOf branchesOf
  split
  · next few => simp [Except.map, Nat.not_le_of_lt few]
  · next many => simp [Except.map, Nat.le_of_not_lt many]

/-- A conjunction has two branches or more. -/
theorem intersectionOf_eq_ok_iff {nodes : List Node} {node : Node} :
    intersectionOf nodes = .ok node ↔ 2 ≤ nodes.length ∧ .intersection nodes = node := by
  unfold intersectionOf branchesOf
  split
  · next few => simp [Except.map, Nat.not_le_of_lt few]
  · next many => simp [Except.map, Nat.le_of_not_lt many]

/-- An object requires declared members only. -/
theorem objectOf_eq_ok_iff {properties : List (String × Node)} {required : List String}
    {count : CountRange} {additional : Additional Node} {node : Node} :
    objectOf properties required count additional = .ok node ↔
      (∀ name ∈ required, name ∈ properties.map Prod.fst) ∧
        .object properties required count additional = node := by
  have undeclared (name : String) : (!properties.any (·.1 == name)) = true ↔
      name ∉ properties.map Prod.fst := by
    simp only [Bool.not_eq_true', List.any_eq_false, beq_iff_eq, List.mem_map, not_exists, not_and]
  unfold objectOf
  cases found : required.find? fun name => !properties.any (·.1 == name) with
  | none =>
    rw [List.find?_eq_none] at found
    have declared (name : String) (inside : name ∈ required) : name ∈ properties.map Prod.fst :=
      not_not.mp (mt (undeclared name).mpr (found name inside))
    simp only [Except.ok.injEq]
    exact ⟨fun same => ⟨declared, same⟩, And.right⟩
  | some name =>
    have absent : name ∉ properties.map Prod.fst := by
      rw [← undeclared]
      exact @List.find?_some _ (fun name => !properties.any (·.1 == name)) _ _ found
    simp only [reduceCtorEq, false_iff]
    exact fun ⟨declared, _⟩ => absent (declared name (List.mem_of_find?_eq_some found))

/-- Two or more nodes make a disjunction, and others are themselves. -/
private theorem joined_eq (nodes : List Node) (findings : List Finding) :
    (match nodes with
      | [] => .ok (.any, findings)
      | [node] => .ok (node, findings)
      | _ => noting findings (here.settle (unionOf .anyOf nodes)) :
        Except LoadError (Node × List Finding)) = .ok (joined nodes, findings) := by
  match nodes with
  | [] => rfl
  | [node] => rfl
  | first :: second :: rest =>
    have made : unionOf .anyOf (first :: second :: rest) =
        .ok (.union .anyOf (first :: second :: rest)) := unionOf_eq_ok_iff.mpr ⟨by simp, rfl⟩
    simp only [made, joined, Locus.settle, noting, List.append_nil]

/-- The keywords of a schema are read by their form. -/
theorem ofKeywords_eq : ofKeywords here k =
    match k.form with
    | .reference target =>
      match Reference.name? target with
      | some name => .ok (.reference name, [])
      | none => here.refuse (.invalidReference target)
    | .listed values => here.settle (enumOf values)
    | .choice mode branches => (ofBranches (here.within mode.keyword) 0 branches).bind
        fun (nodes, findings) => noting findings (here.settle (unionOf mode nodes))
    | .conjunction branches => (ofBranches (here.within "allOf") 0 branches).bind
        fun (nodes, findings) => noting findings (here.settle (intersectionOf nodes))
    | .negation inner =>
      (ofJson (here.within "not") inner).map fun (node, findings) => (.negation node, findings)
    | .free => .ok (.unknown none (.object k.members), [])
    | .typed tokens => (ofTypes here k tokens).map
        fun (nodes, findings) => (joined nodes, findings) := by
  rw [ofKeywords, Keywords.form]
  cases k.text? "$ref" with
  | some target => rfl
  | none =>
    dsimp only
    split
    · simp_all
    · simp_all
    · split
      · simp_all
        rfl
      · simp_all
        rfl
      · simp_all
        rfl
      · simp_all
      · cases k.types? with
        | none => simp_all
        | some tokens =>
          simp_all only [imp_false]
          cases ofTypes here k tokens with
          | error e => rfl
          | ok result => exact joined_eq here result.1 result.2

end Node

namespace Keywords

variable {k : Keywords}

/-- The keyword that decides the form has the value that the form keeps. -/
theorem keeps_of_form {form : Form} (own : k.form = form) : form.KeptBy k := by
  subst own
  unfold Keywords.form
  split
  · assumption
  · split
    · exact .inl ‹_›
    · exact .inr ⟨_, ‹_›, rfl⟩
    · split
      · assumption
      · assumption
      · assumption
      · assumption
      · split <;> assumption

theorem value?_of_form_choice {mode : UnionMode} {branches : List Json}
    (form : k.form = .choice mode branches) : k.value? mode.keyword = some (.array branches) :=
  keeps_of_form form

theorem value?_of_form_conjunction {branches : List Json}
    (form : k.form = .conjunction branches) : k.value? "allOf" = some (.array branches) :=
  keeps_of_form form

theorem value?_of_form_negation {inner : Json}
    (form : k.form = .negation inner) : k.value? "not" = some inner :=
  keeps_of_form form

/-- The schema of a declared member is smaller than the schema of the object. -/
theorem sizeOf_property_lt {property : String × Json} (inside : property ∈ k.properties) :
    sizeOf property.2 < sizeOf k.members := by
  have whole := k.sizeOf_properties_le
  have inList := List.sizeOf_lt_of_mem inside
  have inPair : sizeOf property.2 < sizeOf property := by
    obtain ⟨name, schema⟩ := property
    simp only [Prod.mk.sizeOf_spec]
    omega
  omega

end Keywords

/-! ## Rules -/

section Rules

variable (R : Json → Node → List FindingKind → Prop) (k : Keywords)

/-- What the keywords say of members that are not declared. -/
inductive ReadsOthers : Additional Node → List FindingKind → Prop
  | absent (given : k.value? "additionalProperties" = none) : ReadsOthers .allow []
  | allowed (given : k.value? "additionalProperties" = some (.bool true)) : ReadsOthers .allow []
  | denied (given : k.value? "additionalProperties" = some (.bool false)) : ReadsOthers .deny []
  | schema {v node kinds} (given : k.value? "additionalProperties" = some v)
      (other : ∀ b, v ≠ .bool b) (inner : R v node kinds) : ReadsOthers (.schema node) kinds

/-- A declared member keeps its name. -/
def ReadsMember (member : String × Json) (property : String × Node) (kinds : List FindingKind) :
    Prop :=
  member.1 = property.1 ∧ R member.2 property.2 kinds

/-- The node of the keywords under a type. -/
inductive ReadsType (token : String) : Node → List FindingKind → Prop
  | scalar {kind format} (named : TypeName.ofToken token = .scalar kind format) :
      ReadsType token
        (.scalar kind (format <|> (k.text? "format").map Format.ofToken) (k.constraints kind)) []
  | array {items node kinds} (named : TypeName.ofToken token = .array)
      (given : k.value? "items" = some items) (inner : R items node kinds) :
      ReadsType token
        (.array node (k.countRange "minItems" "maxItems") (k.flag "uniqueItems")) kinds
  | object {properties kinds additional more} (named : TypeName.ofToken token = .object)
      (each : Each (ReadsMember R) k.properties properties kinds)
      (others : ReadsOthers R k additional more)
      (declared : ∀ name ∈ k.required, name ∈ properties.map Prod.fst) :
      ReadsType token
        (.object properties k.required (k.countRange "minProperties" "maxProperties") additional)
        (kinds ++ more)
  | other (named : TypeName.ofToken token = .other) :
      ReadsType token (.unknown (some token) (.object k.members)) []

/-- The node that keywords describe, by their form. -/
inductive Describes : Node → List FindingKind → Prop
  | reference {target name} (form : k.form = .reference target)
      (named : Reference.name? target = some name) : Describes (.reference name) []
  | listed {values node} (form : k.form = .listed values) (made : Node.enumOf values = .ok node) :
      Describes node []
  | choice {mode branches nodes kinds} (form : k.form = .choice mode branches)
      (each : Each R branches nodes kinds) (enough : 2 ≤ nodes.length) :
      Describes (.union mode nodes) kinds
  | conjunction {branches nodes kinds} (form : k.form = .conjunction branches)
      (each : Each R branches nodes kinds) (enough : 2 ≤ nodes.length) :
      Describes (.intersection nodes) kinds
  | negation {inner node kinds} (form : k.form = .negation inner) (part : R inner node kinds) :
      Describes (.negation node) kinds
  | typed {tokens nodes kinds} (form : k.form = .typed tokens)
      (each : Each (ReadsType R k) tokens nodes kinds) : Describes (Node.joined nodes) kinds
  | free (form : k.form = .free) : Describes (.unknown none (.object k.members)) []

end Rules

/-! ## Parts of a source -/

/-- Where keywords hold schemas: under a keyword, in a list under a keyword, or under the name of a
declared member. -/
inductive Keywords.Holds (k : Keywords) : Json → Prop
  | value {name : String} {v : Json} (given : k.value? name = some v) : Holds k v
  | item {name : String} {items : List Json} {v : Json}
      (given : k.value? name = some (.array items)) (inside : v ∈ items) : Holds k v
  | property {property : String × Json} (inside : property ∈ k.properties) : Holds k property.2

/-- What keywords hold is smaller than the schema of the keywords. -/
theorem Keywords.Holds.sizeOf_lt {k : Keywords} {part : Json} (held : k.Holds part) :
    sizeOf part < sizeOf k.members := by
  cases held with
  | value given => exact sizeOf_value?_lt given
  | item given inside => exact Nat.lt_trans (List.sizeOf_lt_of_mem inside) (sizeOf_items_lt given)
  | property inside => exact sizeOf_property_lt inside

section Parts

variable {R S : Json → Node → List FindingKind → Prop} {k : Keywords} {kinds : List FindingKind}
  (parts : ∀ part, k.Holds part → ∀ node own, R part node own → S part node own)
include parts

/-- Rules speak of parts of the source only, here and in what follows. -/
theorem ReadsOthers.imp {additional : Additional Node} (others : ReadsOthers R k additional kinds) :
    ReadsOthers S k additional kinds := by
  cases others with
  | absent given => exact .absent given
  | allowed given => exact .allowed given
  | denied given => exact .denied given
  | schema given other inner => exact .schema given other (parts _ (.value given) _ _ inner)

theorem ReadsType.imp {token : String} {node : Node} (reads : ReadsType R k token node kinds) :
    ReadsType S k token node kinds := by
  cases reads with
  | scalar named => exact .scalar named
  | array named given inner => exact .array named given (parts _ (.value given) _ _ inner)
  | object named each others declared =>
    refine .object named (each.imp_of_mem ?_) (others.imp parts) declared
    intro member inside property own related
    exact ⟨related.1, parts _ (.property inside) _ _ related.2⟩
  | other named => exact .other named

theorem Describes.imp {node : Node} (describes : Describes R k node kinds) :
    Describes S k node kinds := by
  have items {name : String} {branches : List Json}
      (given : k.value? name = some (.array branches)) {nodes : List Node}
      (each : Each R branches nodes kinds) : Each S branches nodes kinds :=
    each.imp_of_mem fun branch inside => parts branch (.item given inside)
  cases describes with
  | reference form named => exact .reference form named
  | listed form made => exact .listed form made
  | choice form each enough =>
    exact .choice form (items (Keywords.value?_of_form_choice form) each) enough
  | conjunction form each enough =>
    exact .conjunction form (items (Keywords.value?_of_form_conjunction form) each) enough
  | negation form part =>
    exact .negation form (parts _ (.value (Keywords.value?_of_form_negation form)) _ _ part)
  | typed form each => exact .typed form (each.imp_of_mem fun _ _ _ _ reads => reads.imp parts)
  | free form => exact .free form

end Parts

/-- Members that are read one after the other keep their names in their order. -/
theorem Each.names_eq {R : Json → Node → List FindingKind → Prop} {members : Members}
    {properties : List (String × Node)} {kinds : List FindingKind}
    (each : Each (ReadsMember R) members properties kinds) :
    properties.map Prod.fst = members.map Prod.fst := by
  induction each with
  | nil => rfl
  | cons first rest ih => rw [List.map_cons, List.map_cons, first.1, ih]

/-! ## Readers follow the rules -/

section Readers

variable {R : Json → Node → List FindingKind → Prop} {here : Locus} {k : Keywords}

/-- Branches are read in turn if the reader of each is right, wherever it stands. -/
theorem gives_ofBranches_iff {branches : List Json}
    (parts : ∀ branch ∈ branches, ∀ here node kinds,
      Gives (Node.ofJson here branch) node kinds ↔ R branch node kinds)
    (index : Nat) {nodes : List Node} {kinds : List FindingKind} :
    Gives (Node.ofBranches here index branches) nodes kinds ↔ Each R branches nodes kinds := by
  induction branches generalizing index nodes kinds with
  | nil => simp [Node.ofBranches, each_nil_iff, eq_comm]
  | cons branch rest ih =>
    have later := @ih fun other member => parts other (by simp [member])
    rw [Node.ofBranches, each_cons_iff]
    refine (gives_cons_iff (f := fun node => node)).trans ?_
    simp only [parts branch (by simp), later]

/-- Declared members are read in turn, each under its name. -/
theorem gives_ofProperties_iff {members : Members}
    (parts : ∀ member ∈ members, ∀ here node kinds,
      Gives (Node.ofJson here member.2) node kinds ↔ R member.2 node kinds)
    {properties : List (String × Node)} {kinds : List FindingKind} :
    Gives (Node.ofProperties here members) properties kinds ↔
      Each (ReadsMember R) members properties kinds := by
  induction members generalizing properties kinds with
  | nil => simp [Node.ofProperties, each_nil_iff, eq_comm]
  | cons member rest ih =>
    obtain ⟨name, schema⟩ := member
    have later := @ih fun other inside => parts other (by simp [inside])
    have first := parts (name, schema) (by simp)
    rw [Node.ofProperties, each_cons_iff]
    refine (gives_cons_iff (f := fun node => (name, node))).trans ?_
    simp only [first, later, ReadsMember]
    constructor
    · rintro ⟨node, others, own, more, given, each, rfl, rfl⟩
      exact ⟨(name, node), others, own, more, ⟨rfl, given⟩, each, rfl, rfl⟩
    · rintro ⟨⟨name', node⟩, others, own, more, ⟨same, given⟩, each, rfl, rfl⟩
      cases same
      exact ⟨node, others, own, more, given, each, rfl, rfl⟩

variable (parts : ∀ part, sizeOf part < sizeOf k.members → ∀ here node kinds,
  Gives (Node.ofJson here part) node kinds ↔ R part node kinds)
include parts

theorem gives_additionalOf_iff {additional : Additional Node} {kinds : List FindingKind} :
    Gives (Node.additionalOf here k) additional kinds ↔ ReadsOthers R k additional kinds := by
  rw [Node.additionalOf]
  split
  · next given =>
    rw [gives_ok_iff]
    constructor
    · rintro ⟨rfl, rfl⟩
      exact .absent given
    · intro reads
      cases reads <;> simp_all
  · next given =>
    rw [gives_ok_iff]
    constructor
    · rintro ⟨rfl, rfl⟩
      exact .allowed given
    · intro reads
      cases reads <;> simp_all
  · next given =>
    rw [gives_ok_iff]
    constructor
    · rintro ⟨rfl, rfl⟩
      exact .denied given
    · intro reads
      cases reads <;> simp_all
  · next schema yes no given =>
    rw [gives_map_iff]
    simp only [parts schema (Keywords.sizeOf_value?_lt given)]
    constructor
    · rintro ⟨node, inner, rfl⟩
      refine .schema given (fun b same => ?_) inner
      cases b
      · exact no same
      · exact yes same
    · intro reads
      cases reads with
      | schema given' other inner =>
        cases given.symm.trans given'
        exact ⟨_, inner, rfl⟩
      | _ => simp_all

theorem gives_ofType_iff {token : String} {node : Node} {kinds : List FindingKind} :
    Gives (Node.ofType here k token) node kinds ↔ ReadsType R k token node kinds := by
  rw [Node.ofType]
  cases named : TypeName.ofToken token with
  | scalar kind format =>
    simp only [gives_ok_iff, List.map_nil]
    constructor
    · rintro ⟨rfl, rfl⟩
      exact .scalar named
    · intro reads
      cases reads <;> simp_all
  | other =>
    simp only [gives_ok_iff, List.map_nil]
    constructor
    · rintro ⟨rfl, rfl⟩
      exact .other named
    · intro reads
      cases reads <;> simp_all
  | array =>
    dsimp only
    split
    · next absent =>
      simp only [not_gives_refuse, false_iff]
      intro reads
      cases reads <;> simp_all
    · next items given =>
      refine (gives_map_iff (f := fun node =>
        Node.array node (k.countRange "minItems" "maxItems") (k.flag "uniqueItems"))).trans ?_
      simp only [parts items (Keywords.sizeOf_value?_lt given)]
      constructor
      · rintro ⟨node, inner, rfl⟩
        exact .array named given inner
      · intro reads
        cases reads with
        | array _ given' inner =>
          cases given.symm.trans given'
          exact ⟨_, inner, rfl⟩
        | _ => simp_all
  | object =>
    have members := @gives_ofProperties_iff R (here.within "properties") k.properties
      fun member inside => parts member.2 (Keywords.sizeOf_property_lt inside)
    have others := @gives_additionalOf_iff R here k parts
    have steps := @gives_bind_bind_iff _ _ kinds
      (Node.ofProperties (here.within "properties") k.properties) _ (Node.additionalOf here k)
      (fun properties additional => here.settle (Node.objectOf properties k.required
        (k.countRange "minProperties" "maxProperties") additional)) node
    refine steps.trans ?_
    simp only [members, others, gives_settle_iff, Node.objectOf_eq_ok_iff]
    constructor
    · rintro ⟨properties, additional, first, second, third, each, rest, ⟨⟨declared, rfl⟩, rfl⟩, rfl⟩
      rw [List.append_nil]
      exact .object named each rest declared
    · intro reads
      cases reads with
      | object _ each rest declared =>
        exact ⟨_, _, _, _, [], each, rest, ⟨⟨declared, rfl⟩, rfl⟩, by simp⟩
      | _ => simp_all

theorem gives_ofTypes_iff {tokens : List String} {nodes : List Node} {kinds : List FindingKind} :
    Gives (Node.ofTypes here k tokens) nodes kinds ↔ Each (ReadsType R k) tokens nodes kinds := by
  induction tokens generalizing nodes kinds with
  | nil => simp [Node.ofTypes, each_nil_iff, eq_comm]
  | cons token rest ih =>
    rw [Node.ofTypes, each_cons_iff]
    refine (gives_cons_iff (f := fun node => node)).trans ?_
    simp only [gives_ofType_iff parts, ih]

/-- What keywords describe is what is read, if each smaller schema is read right. -/
theorem gives_ofKeywords_iff {node : Node} {kinds : List FindingKind} :
    Gives (Node.ofKeywords here k) node kinds ↔ Describes R k node kinds := by
  rw [Node.ofKeywords_eq]
  cases form : k.form with
  | reference target =>
    cases named : Reference.name? target with
    | none =>
      simp only [named, not_gives_refuse, false_iff]
      intro describes
      cases describes <;> simp_all
    | some name =>
      simp only [named, gives_ok_iff, List.map_nil]
      constructor
      · rintro ⟨rfl, rfl⟩
        exact .reference form named
      · intro describes
        cases describes <;> simp_all
  | listed values =>
    simp only [gives_settle_iff]
    constructor
    · rintro ⟨made, rfl⟩
      exact .listed form made
    · intro describes
      cases describes <;> simp_all
  | free =>
    simp only [gives_ok_iff, List.map_nil]
    constructor
    · rintro ⟨rfl, rfl⟩
      exact .free form
    · intro describes
      cases describes <;> simp_all
  | negation inner =>
    have smaller := Keywords.sizeOf_value?_lt (Keywords.value?_of_form_negation form)
    refine (gives_map_iff (f := Node.negation)).trans ?_
    simp only [parts inner smaller]
    constructor
    · rintro ⟨part, reads, rfl⟩
      exact .negation form reads
    · intro describes
      cases describes with
      | negation form' part =>
        cases form.symm.trans form'
        exact ⟨_, part, rfl⟩
      | _ => simp_all
  | choice mode branches =>
    have smaller := Keywords.sizeOf_items_lt (Keywords.value?_of_form_choice form)
    have each := @gives_ofBranches_iff R (here.within mode.keyword) branches
      (fun branch inside => parts branch (Nat.lt_trans (List.sizeOf_lt_of_mem inside) smaller)) 0
    have steps := @gives_bind_iff _ _ node kinds
      (Node.ofBranches (here.within mode.keyword) 0 branches)
      fun nodes => here.settle (Node.unionOf mode nodes)
    refine steps.trans ?_
    simp only [each, gives_settle_iff, Node.unionOf_eq_ok_iff]
    constructor
    · rintro ⟨nodes, first, more, reads, ⟨⟨enough, rfl⟩, rfl⟩, rfl⟩
      rw [List.append_nil]
      exact .choice form reads enough
    · intro describes
      cases describes with
      | choice form' reads enough =>
        cases form.symm.trans form'
        exact ⟨_, _, [], reads, ⟨⟨enough, rfl⟩, rfl⟩, List.append_nil _⟩
      | _ => simp_all
  | conjunction branches =>
    have smaller := Keywords.sizeOf_items_lt (Keywords.value?_of_form_conjunction form)
    have each := @gives_ofBranches_iff R (here.within "allOf") branches
      (fun branch inside => parts branch (Nat.lt_trans (List.sizeOf_lt_of_mem inside) smaller)) 0
    have steps := @gives_bind_iff _ _ node kinds (Node.ofBranches (here.within "allOf") 0 branches)
      fun nodes => here.settle (Node.intersectionOf nodes)
    refine steps.trans ?_
    simp only [each, gives_settle_iff, Node.intersectionOf_eq_ok_iff]
    constructor
    · rintro ⟨nodes, first, more, reads, ⟨⟨enough, rfl⟩, rfl⟩, rfl⟩
      rw [List.append_nil]
      exact .conjunction form reads enough
    · intro describes
      cases describes with
      | conjunction form' reads enough =>
        cases form.symm.trans form'
        exact ⟨_, _, [], reads, ⟨⟨enough, rfl⟩, rfl⟩, List.append_nil _⟩
      | _ => simp_all
  | typed tokens =>
    refine (gives_map_iff (f := Node.joined)).trans ?_
    simp only [gives_ofTypes_iff parts]
    constructor
    · rintro ⟨nodes, each, rfl⟩
      exact .typed form each
    · intro describes
      cases describes with
      | typed form' each =>
        cases form.symm.trans form'
        exact ⟨_, each, rfl⟩
      | _ => simp_all

end Readers

/-! ## Schemas -/

/-- The kinds of findings on keywords that others shadow. -/
def Keywords.shadowing (k : Keywords) : List FindingKind :=
  k.shadowed?.toList.map fun (kept, ignored) => .shadowedKeywords kept ignored

/-- A source schema is read as a node with findings of these kinds. -/
def Json.Reads (v : Json) (node : Node) (kinds : List FindingKind) : Prop :=
  Gives (Node.ofJson ⟨[], "", []⟩ v) node kinds

/-- A schema object is read by its keywords, which have to be of the right forms. -/
private theorem gives_ofJson_object_iff {R : Json → Node → List FindingKind → Prop} {here : Locus}
    {members : Members}
    (parts : ∀ part, sizeOf part < sizeOf members → ∀ here node kinds,
      Gives (Node.ofJson here part) node kinds ↔ R part node kinds)
    {node : Node} {kinds : List FindingKind} :
    Gives (Node.ofJson here (.object members)) node kinds ↔
      keywordMismatch? members = none ∧ ∃ own more, Describes R ⟨members⟩ own more ∧
        (if (⟨members⟩ : Keywords).flag "nullable" then own.orNull else own) = node ∧
        (⟨members⟩ : Keywords).shadowing ++ more = kinds := by
  rw [Node.ofJson]
  cases wrong : keywordMismatch? members with
  | some found => simp
  | none =>
    have described := @gives_ofKeywords_iff R here ⟨members⟩ parts
    refine (gives_map_iff (f := fun node =>
      if (⟨members⟩ : Keywords).flag "nullable" then Node.orNull node else node)).trans ?_
    simp only [gives_noting_iff, described, true_and, Keywords.shadowing, List.map_map]
    constructor
    · rintro ⟨own, ⟨more, describes, same⟩, made⟩
      exact ⟨own, more, describes, made, same⟩
    · rintro ⟨own, more, describes, made, same⟩
      exact ⟨own, ⟨more, describes, same⟩, made⟩

/-- What a schema is read as does not depend on where it stands. -/
theorem gives_ofJson_iff (here : Locus) (v : Json) (node : Node) (kinds : List FindingKind) :
    Gives (Node.ofJson here v) node kinds ↔ v.Reads node kinds := by
  unfold Json.Reads
  cases v with
  | object members =>
    have parts (part : Json) (smaller : sizeOf part < sizeOf members) (here : Locus) (node : Node)
        (kinds : List FindingKind) :
        Gives (Node.ofJson here part) node kinds ↔ part.Reads node kinds :=
      gives_ofJson_iff here part node kinds
    rw [gives_ofJson_object_iff parts, gives_ofJson_object_iff parts]
  | bool b => cases b <;> simp [Node.ofJson]
  | null => simp [Node.ofJson]
  | number n => simp [Node.ofJson]
  | string s => simp [Node.ofJson]
  | array items => simp [Node.ofJson]
termination_by sizeOf v
decreasing_by
  simp only [Json.object.sizeOf_spec]
  omega

namespace Json

variable {node : Node} {kinds : List FindingKind}

theorem reads_object_iff {members : Members} : (object members).Reads node kinds ↔
    keywordMismatch? members = none ∧ ∃ own more, Describes Reads ⟨members⟩ own more ∧
      (if (⟨members⟩ : Keywords).flag "nullable" then own.orNull else own) = node ∧
      (⟨members⟩ : Keywords).shadowing ++ more = kinds :=
  gives_ofJson_object_iff fun part _ here node kinds => gives_ofJson_iff here part node kinds

theorem reads_bool_iff {b : Bool} : (bool b).Reads node kinds ↔
    (if b then .any else .negation .any) = node ∧ [] = kinds := by
  cases b <;> simp [Reads, Node.ofJson]

/-- Only objects and truth values are schemas. -/
theorem Reads.object_or_bool {v : Json} (reads : v.Reads node kinds) :
    (∃ members, v = .object members) ∨ ∃ b, v = .bool b := by
  cases v with
  | object members => exact .inl ⟨members, rfl⟩
  | bool b => exact .inr ⟨b, rfl⟩
  | _ => simp [Reads, Node.ofJson] at reads

/-- A schema is read in one way. -/
theorem Reads.unique {v : Json} {other : Node} {more : List FindingKind}
    (reads : v.Reads node kinds) (reads' : v.Reads other more) : node = other ∧ kinds = more := by
  obtain ⟨findings, read, rfl⟩ := reads
  obtain ⟨findings', read', rfl⟩ := reads'
  cases read.symm.trans read'
  exact ⟨rfl, rfl⟩

/-- What holds of truth values, and of an object that is described by parts of which it holds, holds
of all that is read. -/
theorem Reads.induction {motive : Json → Node → List FindingKind → Prop}
    (bool : ∀ b, motive (.bool b) (if b then .any else .negation .any) [])
    (object : ∀ members own more, keywordMismatch? members = none →
      Describes (fun v node kinds => v.Reads node kinds ∧ motive v node kinds) ⟨members⟩ own more →
      motive (.object members)
        (if (⟨members⟩ : Keywords).flag "nullable" then own.orNull else own)
        ((⟨members⟩ : Keywords).shadowing ++ more))
    {v : Json} {node : Node} {kinds : List FindingKind} (reads : v.Reads node kinds) :
    motive v node kinds := by
  cases v with
  | object members =>
    have parts (part : Json) (held : (⟨members⟩ : Keywords).Holds part) (node : Node)
        (kinds : List FindingKind) (reads : part.Reads node kinds) :
        part.Reads node kinds ∧ motive part node kinds :=
      have smaller : sizeOf part < sizeOf members := held.sizeOf_lt
      ⟨reads, induction bool object reads⟩
    obtain ⟨fits, own, more, describes, rfl, rfl⟩ := reads_object_iff.mp reads
    exact object members own more fits (describes.imp parts)
  | bool b =>
    obtain ⟨rfl, rfl⟩ := reads_bool_iff.mp reads
    exact bool b
  | _ => simp [Reads, Node.ofJson] at reads
termination_by sizeOf v
decreasing_by
  subst_vars
  simp only [Json.object.sizeOf_spec]
  omega

end Json

/-! ## Documents -/

/-- The entries of a document are read in turn. -/
theorem gives_entriesOf_iff {root : List String} {schemas : Members}
    {entries : List (String × Node)} {kinds : List FindingKind} :
    Gives (Document.entriesOf root schemas) entries kinds ↔
      Each (ReadsMember Json.Reads) schemas entries kinds := by
  induction schemas generalizing entries kinds with
  | nil => simp [Document.entriesOf, each_nil_iff, eq_comm]
  | cons member rest ih =>
    obtain ⟨name, schema⟩ := member
    rw [Document.entriesOf, each_cons_iff]
    refine (gives_cons_iff (f := fun node => (name, node))).trans ?_
    simp only [gives_ofJson_iff, ih, ReadsMember]
    constructor
    · rintro ⟨node, others, own, more, given, each, rfl, rfl⟩
      exact ⟨(name, node), others, own, more, ⟨rfl, given⟩, each, rfl, rfl⟩
    · rintro ⟨⟨name', node⟩, others, own, more, ⟨same, given⟩, each, rfl, rfl⟩
      cases same
      exact ⟨node, others, own, more, given, each, rfl, rfl⟩

end DataSchema
