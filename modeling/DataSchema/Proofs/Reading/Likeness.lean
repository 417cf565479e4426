import DataSchema.Proofs.Places
import DataSchema.Proofs.Reading.Precedence
import DataSchema.Proofs.Related
import Mathlib.Data.List.Find

/-!
Schemas that are read alike. Keywords are looked up by their names, so schema objects that have the
same keywords with like values are read alike, wherever they stand: if one of them is read, so is
the other, with the same findings, and the two nodes differ in the sources that they keep only.
-/
namespace DataSchema

/-! ## Nodes without their sources -/

namespace Node

mutual

/-- The node without the sources that are kept in it of what is unknown. -/
def withoutSources : Node → Node
  | .scalar kind format constraints => .scalar kind format constraints
  | .enum values => .enum values
  | .array items count unique => .array items.withoutSources count unique
  | .object properties required count additional =>
    .object (propertiesWithoutSources properties) required count
      (additionalWithoutSources additional)
  | .union mode branches => .union mode (allWithoutSources branches)
  | .intersection branches => .intersection (allWithoutSources branches)
  | .negation inner => .negation inner.withoutSources
  | .reference name => .reference name
  | .unknown token _ => .unknown token .null

def allWithoutSources : List Node → List Node
  | [] => []
  | node :: rest => node.withoutSources :: allWithoutSources rest

def propertiesWithoutSources : List (String × Node) → List (String × Node)
  | [] => []
  | (name, node) :: rest => (name, node.withoutSources) :: propertiesWithoutSources rest

def additionalWithoutSources : Additional Node → Additional Node
  | .allow => .allow
  | .deny => .deny
  | .schema node => .schema node.withoutSources

end

theorem length_allWithoutSources (nodes : List Node) :
    (allWithoutSources nodes).length = nodes.length := by
  induction nodes with
  | nil => rfl
  | cons node rest ih => rw [allWithoutSources, List.length_cons, List.length_cons, ih]

theorem names_propertiesWithoutSources (properties : List (String × Node)) :
    (propertiesWithoutSources properties).map Prod.fst = properties.map Prod.fst := by
  induction properties with
  | nil => rfl
  | cons property rest ih => rw [propertiesWithoutSources, List.map_cons, List.map_cons, ih]

theorem isNull_withoutSources (node : Node) : node.withoutSources.isNull = node.isNull := by
  cases node <;> rfl

theorem withoutSources_orNull (node : Node) :
    node.orNull.withoutSources = node.withoutSources.orNull := by
  unfold orNull
  rw [isNull_withoutSources]
  split <;> rfl

theorem withoutSources_joined {nodes nodes' : List Node}
    (same : allWithoutSources nodes = allWithoutSources nodes') :
    (joined nodes).withoutSources = (joined nodes').withoutSources := by
  match nodes, nodes' with
  | [], [] => rfl
  | [], _ :: _ => cases same
  | _ :: _, [] => cases same
  | [node], [node'] => exact (List.cons.inj same).1
  | [_], _ :: _ :: _ => cases (List.cons.inj same).2
  | _ :: _ :: _, [_] => cases (List.cons.inj same).2
  | _ :: _ :: _, _ :: _ :: _ => exact congrArg (union .anyOf) same

end Node

/-! ## Results -/

/-- Both works fail, or both succeed with the same findings and with results of one image. -/
inductive Parallel {α β : Type} (image : α → β) :
    Except LoadError (α × List Finding) → Except LoadError (α × List Finding) → Prop
  | ok {x y : α} (findings : List Finding) (same : image x = image y) :
      Parallel image (.ok (x, findings)) (.ok (y, findings))
  | failed (e e' : LoadError) : Parallel image (.error e) (.error e')

namespace Parallel

variable {α β γ δ : Type} {image : α → β} {image' : γ → δ}
  {result result' : Except LoadError (α × List Finding)}

theorem refl (result : Except LoadError (α × List Finding)) : Parallel image result result := by
  cases result with
  | ok outcome => exact .ok outcome.2 rfl
  | error e => exact .failed e e

theorem symm (parallel : Parallel image result result') : Parallel image result' result := by
  cases parallel with
  | ok findings same => exact .ok findings same.symm
  | failed e e' => exact .failed e' e

theorem noting (parallel : Parallel image result result') (findings : List Finding) :
    Parallel image (noting findings result) (noting findings result') := by
  cases parallel with
  | ok more same => exact .ok (findings ++ more) same
  | failed e e' => exact .failed e e'

theorem bind {next next' : α × List Finding → Except LoadError (γ × List Finding)}
    (parallel : Parallel image result result')
    (rest : ∀ x y findings, image x = image y →
      Parallel image' (next (x, findings)) (next' (y, findings))) :
    Parallel image' (result.bind next) (result'.bind next') := by
  cases parallel with
  | ok findings same => exact rest _ _ findings same
  | failed e e' => exact .failed e e'

/-- Work that leaves the findings as they are. -/
theorem map (parallel : Parallel image result result') (f f' : α → γ)
    (keeps : ∀ x y, image x = image y → image' (f x) = image' (f' y)) :
    Parallel image' (result.map fun (x, findings) => (f x, findings))
      (result'.map fun (x, findings) => (f' x, findings)) := by
  cases parallel with
  | ok findings same => exact .ok findings (keeps _ _ same)
  | failed e e' => exact .failed e e'

/-- What is made of a first item and the rest, one after the other. -/
theorem cons {ε : Type} {images : List γ → ε} {f f' : α → γ}
    {rest rest' : Except LoadError (List γ × List Finding)}
    (parallel : Parallel image result result') (others : Parallel images rest rest')
    (keeps : ∀ x y xs ys, image x = image y → images xs = images ys →
      images (f x :: xs) = images (f' y :: ys)) :
    Parallel images
      (result.bind fun (x, findings) =>
        DataSchema.noting findings (rest.map fun (xs, more) => (f x :: xs, more)))
      (result'.bind fun (x, findings) =>
        DataSchema.noting findings (rest'.map fun (xs, more) => (f' x :: xs, more))) :=
  parallel.bind fun x y _ same =>
    (others.map _ _ fun xs ys sameToo => keeps x y xs ys same sameToo).noting _

end Parallel

namespace Node

variable {nodes nodes' : List Node} {properties properties' : List (String × Node)}

/-- Branches of one image are enough alike, or too few. -/
theorem settle_branchesOf {here : Locus} {combinator : String} {join : List Node → Node}
    (joins : ∀ nodes nodes', allWithoutSources nodes = allWithoutSources nodes' →
      (join nodes).withoutSources = (join nodes').withoutSources)
    (same : allWithoutSources nodes = allWithoutSources nodes') :
    Parallel withoutSources (here.settle ((branchesOf combinator nodes).map join))
      (here.settle ((branchesOf combinator nodes').map join)) := by
  have length : nodes.length = nodes'.length := by
    rw [← length_allWithoutSources, same, length_allWithoutSources]
  unfold branchesOf
  rw [length]
  split
  · exact .failed _ _
  · exact .ok [] (joins _ _ same)

/-- Members of one image are declared alike. -/
theorem settle_objectOf {here : Locus} {required : List String} {count : CountRange}
    {additional additional' : Additional Node}
    (same : propertiesWithoutSources properties = propertiesWithoutSources properties')
    (others : additionalWithoutSources additional = additionalWithoutSources additional') :
    Parallel withoutSources (here.settle (objectOf properties required count additional))
      (here.settle (objectOf properties' required count additional')) := by
  have names : properties.map Prod.fst = properties'.map Prod.fst := by
    rw [← names_propertiesWithoutSources, same, names_propertiesWithoutSources]
  have declares (name : String) :
      (properties.any (·.1 == name)) = properties'.any (·.1 == name) := by
    have all := congrArg (List.any · (· == name)) names
    simpa [List.any_map, Function.comp_def] using all
  unfold objectOf
  simp only [declares]
  split
  · exact .failed _ _
  · refine .ok [] ?_
    rw [withoutSources, withoutSources, same, others]

end Node

/-! ## Keywords -/

/-- The values are read alike, wherever they stand, and are objects unless they are the same. -/
structure Json.ReadsLike (v v' : Json) : Prop where
  parallel : ∀ here, Parallel Node.withoutSources (Node.ofJson here v) (Node.ofJson here v')
  asks : Keywords.asksForItself v = Keywords.asksForItself v'
  objects : v = v' ∨ v.kind = .object ∧ v'.kind = .object

namespace Json.ReadsLike

variable {v v' : Json}

theorem refl (v : Json) : v.ReadsLike v := ⟨fun _ => .refl _, rfl, .inl rfl⟩

theorem symm (like : v.ReadsLike v') : v'.ReadsLike v :=
  ⟨fun here => (like.parallel here).symm, like.asks.symm, like.objects.imp Eq.symm And.symm⟩

end Json.ReadsLike

/-- Members of one name whose schemas are read alike. -/
def MemberLike (member member' : String × Json) : Prop :=
  member.1 = member'.1 ∧ member.2.ReadsLike member'.2

theorem MemberLike.refl (member : String × Json) : MemberLike member member := ⟨rfl, .refl _⟩

namespace Keywords

/-- Keywords whose values are schemas. -/
def single : List String := ["items", "not", "additionalProperties"]

/-- Keywords whose values are lists of schemas. -/
def several : List String := ["oneOf", "anyOf", "allOf"]

/-- The values of a keyword are the same, or hold schemas that are read alike. -/
inductive HoldsLike : String → Json → Json → Prop
  | same {name : String} {v : Json} : HoldsLike name v v
  | schema {name : String} {v v' : Json} (holds : name ∈ single) (like : v.ReadsLike v') :
      HoldsLike name v v'
  | branches {name : String} {branches branches' : List Json} (holds : name ∈ several)
      (each : List.Forall₂ Json.ReadsLike branches branches') :
      HoldsLike name (.array branches) (.array branches')
  | properties {properties properties' : Members}
      (each : List.Forall₂ MemberLike properties properties') :
      HoldsLike "properties" (.object properties) (.object properties')

/-- The same keywords are there, with values that hold the same or like schemas. -/
def Like (k k' : Keywords) : Prop :=
  ∀ name, (keywordForm? name).isSome = true →
    Option.Rel (HoldsLike name) (Json.member? k.members name) (Json.member? k'.members name)

namespace HoldsLike

variable {name : String} {v v' : Json}

theorem symm (like : HoldsLike name v v') : HoldsLike name v' v := by
  cases like with
  | same => exact .same
  | schema holds like => exact .schema holds like.symm
  | branches holds each => exact .branches holds (each.flip.imp fun _ _ like => like.symm)
  | properties each =>
    exact .properties (each.flip.imp fun _ _ like => ⟨like.1.symm, like.2.symm⟩)

/-- Other keywords hold no schemas. -/
theorem eq_of_plain (like : HoldsLike name v v')
    (plain : name ∉ "properties" :: (single ++ several)) : v = v' := by
  simp only [List.mem_cons, List.mem_append, not_or] at plain
  cases like with
  | same => rfl
  | schema holds _ => exact absurd holds plain.2.1
  | branches holds _ => exact absurd holds plain.2.2
  | properties _ => exact absurd rfl plain.1

theorem readsLike (like : HoldsLike name v v') (holds : name ∈ single) : v.ReadsLike v' := by
  cases like with
  | same => exact .refl v
  | schema _ like => exact like
  | branches holds' _ =>
    have disjoint : ∀ name ∈ single, name ∉ several := by decide
    exact absurd holds' (disjoint _ holds)
  | properties _ => exact absurd holds (by decide)

theorem exists_branches {branches : List Json} (like : HoldsLike name (.array branches) v')
    (holds : name ∈ several) :
    ∃ branches', v' = .array branches' ∧ List.Forall₂ Json.ReadsLike branches branches' := by
  cases like with
  | same => exact ⟨branches, rfl, List.forall₂_same.mpr fun v _ => .refl v⟩
  | schema holds' _ =>
    have disjoint : ∀ name ∈ several, name ∉ single := by decide
    exact absurd holds' (disjoint _ holds)
  | branches _ each => exact ⟨_, rfl, each⟩

/-- Null is like null only. -/
theorem eq_null_iff (like : HoldsLike name v v') : v = .null ↔ v' = .null := by
  cases like with
  | same => rfl
  | schema _ like =>
    rcases like.objects with rfl | ⟨object, object'⟩
    · rfl
    · constructor <;> rintro rfl
      · cases object
      · cases object'
  | branches _ _ => simp
  | properties _ => simp

/-- Like values are of one form. -/
theorem fits (like : HoldsLike name v v') (fits : Fits (name, v)) : Fits (name, v') := by
  cases like with
  | same => exact fits
  | schema holds _ =>
    have free : ∀ name ∈ single, keywordForm? name = some .any := by decide
    rw [Fits, free _ holds]
    rfl
  | branches holds _ =>
    have listed : ∀ name ∈ several, keywordForm? name = some .schemas := by decide
    rw [Fits, listed _ holds]
    rfl
  | properties _ => rfl

end HoldsLike

/-- A keyword has the value of its member unless that is null. -/
theorem value?_of_member? {k : Keywords} {name : String} {v : Json}
    (found : Json.member? k.members name = some v) (some : v ≠ .null) :
    k.value? name = Option.some v := by
  rw [value?, found]
  cases v <;> first | rfl | exact absurd rfl some

namespace Like

variable {k k' : Keywords} {name : String} (like : k.Like k')
include like

theorem symm : k'.Like k := fun name known => by
  have rel := like name known
  generalize Json.member? k.members name = found at rel ⊢
  generalize Json.member? k'.members name = found' at rel ⊢
  cases rel with
  | none => exact .none
  | some holds => exact .some holds.symm

/-- Like keywords have values of the right forms alike, if no name comes twice. -/
theorem fits (names : (k'.members.map Prod.fst).Nodup) (fits : ∀ member ∈ k.members, Fits member) :
    ∀ member ∈ k'.members, Fits member := by
  rintro ⟨name, v'⟩ inside
  cases form : keywordForm? name with
  | none => rw [Fits, form, Option.bind_none]
  | some own =>
    have known : (keywordForm? name).isSome = true := by rw [form]; rfl
    -- Each member is the one that its name looks up, so a like one is among the others.
    obtain ⟨v, found, holds⟩ :=
      exists_of_rel (Json.member?_of_mem names inside ▸ like.symm name known)
    exact holds.symm.fits (fits _ (Json.mem_of_member? found))

section Known

variable (known : (keywordForm? name).isSome = true)
include known

theorem value? : Option.Rel (HoldsLike name) (k.value? name) (k'.value? name) := by
  have rel := like name known
  cases found : Json.member? k.members name with
  | none =>
    have found' := eq_none_of_rel (found ▸ rel)
    rw [Keywords.value?, Keywords.value?, found, found']
    exact .none
  | some v =>
    obtain ⟨v', found', holds⟩ := exists_of_rel (found ▸ rel)
    by_cases null : v = .null
    · have null' := holds.eq_null_iff.mp null
      rw [Keywords.value?, Keywords.value?, found, found', null, null']
      exact .none
    · rw [value?_of_member? found null,
        value?_of_member? found' (mt holds.eq_null_iff.mpr null)]
      exact .some holds

theorem isSome_value? : (k'.value? name).isSome = (k.value? name).isSome := by
  have rel := like.value? known
  generalize k.value? name = v at rel ⊢
  generalize k'.value? name = v' at rel ⊢
  cases rel <;> rfl

theorem has : k'.has name = k.has name := by
  unfold Keywords.has Json.hasMember
  rw [like.isSome_value? known]
  split
  · have rel := like name known
    generalize Json.member? k.members name = v at rel ⊢
    generalize Json.member? k'.members name = v' at rel ⊢
    cases rel <;> rfl
  · rfl

variable (plain : name ∉ "properties" :: (single ++ several))
include plain

/-- Keywords that hold no schemas have the same values. -/
theorem member?_eq : Json.member? k'.members name = Json.member? k.members name := by
  have rel := like name known
  generalize Json.member? k.members name = v at rel ⊢
  generalize Json.member? k'.members name = v' at rel ⊢
  cases rel with
  | none => rfl
  | some holds => rw [holds.eq_of_plain plain]

theorem value?_eq : k'.value? name = k.value? name := by
  simp only [Keywords.value?, like.member?_eq known plain]

end Known

theorem shadowing : k'.shadowing = k.shadowing := by
  have present : structural.filter k'.has = structural.filter k.has := by
    refine List.filter_congr fun name among => like.has ?_
    have known : ∀ name ∈ structural, (keywordForm? name).isSome = true := by decide
    exact known name among
  rw [Keywords.shadowing, Keywords.shadowing, shadowed?, shadowed?, present]

theorem find? : combining.find? k'.has = combining.find? k.has := by
  refine List.find?_congr fun name among => like.has ?_
  have known : ∀ name ∈ combining, (keywordForm? name).isSome = true := by decide
  exact known name among

theorem flag (known : (keywordForm? name).isSome = true)
    (plain : name ∉ "properties" :: (single ++ several)) : k'.flag name = k.flag name := by
  rw [Keywords.flag, Keywords.flag, like.value?_eq known plain]

theorem text? (known : (keywordForm? name).isSome = true)
    (plain : name ∉ "properties" :: (single ++ several)) : k'.text? name = k.text? name := by
  rw [Keywords.text?, Keywords.text?, like.value?_eq known plain]

theorem constraints (kind : ScalarKind) : k'.constraints kind = k.constraints kind := by
  cases kind <;> simp (disch := decide) only [Keywords.constraints, Keywords.count?, Keywords.text?,
    Keywords.number?, Keywords.exclusive?, like.value?_eq]

theorem countRange {min max : String} (least : keywordForm? min = some .count)
    (greatest : keywordForm? max = some .count) : k'.countRange min max = k.countRange min max := by
  have plain : ∀ name ∈ "properties" :: (single ++ several), keywordForm? name ≠ some .count := by
    decide
  rw [Keywords.countRange, Keywords.countRange, Keywords.count?, Keywords.count?, Keywords.count?,
    Keywords.count?, like.value?_eq (by rw [least]; rfl) fun among => plain _ among least,
    like.value?_eq (by rw [greatest]; rfl) fun among => plain _ among greatest]

theorem types? : k'.types? = k.types? := by
  simp (disch := decide) only [Keywords.types?, like.value?_eq, like.isSome_value?]

theorem properties : List.Forall₂ MemberLike k.properties k'.properties := by
  have rel : Option.Rel (HoldsLike "properties") (k.value? "properties")
    (k'.value? "properties") := like.value? (by decide)
  unfold Keywords.properties
  generalize k.value? "properties" = v at rel ⊢
  generalize k'.value? "properties" = v' at rel ⊢
  have same (members : Members) : List.Forall₂ MemberLike members members :=
    List.forall₂_same.mpr fun member _ => .refl member
  cases rel with
  | none => exact .nil
  | some holds =>
    -- The name is a variable here, so that the cases can tell keywords of other names.
    generalize named : "properties" = name at holds
    cases holds with
    | same => exact same _
    | schema holds _ => exact absurd holds (by rw [← named]; decide)
    | branches holds _ => exact .nil
    | properties each => exact each

theorem required : k'.required = k.required := by
  have asking : (k'.properties.filter fun member => asksForItself member.2).map (·.1) =
      (k.properties.filter fun member => asksForItself member.2).map (·.1) := by
    have each := like.properties
    generalize k.properties = properties at each ⊢
    generalize k'.properties = properties' at each ⊢
    induction each with
    | nil => rfl
    | @cons member member' _ _ own _ ih =>
      obtain ⟨named, own⟩ := own
      rw [List.filter_cons, List.filter_cons, own.asks]
      split
      · rw [List.map_cons, List.map_cons, ih, named]
      · exact ih
  simp (disch := decide) only [Keywords.required, like.value?_eq, asking]

end Like

/-- Forms of keywords that hold the same or like schemas. -/
inductive Form.Like : Form → Form → Prop
  | same (form : Form) : Like form form
  | choice (mode : UnionMode) {branches branches' : List Json}
      (each : List.Forall₂ Json.ReadsLike branches branches') :
      Like (.choice mode branches) (.choice mode branches')
  | conjunction {branches branches' : List Json}
      (each : List.Forall₂ Json.ReadsLike branches branches') :
      Like (.conjunction branches) (.conjunction branches')
  | negation {v v' : Json} (like : v.ReadsLike v') : Like (.negation v) (.negation v')

section Forms

variable {k k' : Keywords} {kept : String} {form : Form} (like : k.Like k')
include like

theorem Like.exists_branches {branches : List Json} (holds : kept ∈ several)
    (given : k.value? kept = some (.array branches)) :
    ∃ branches', k'.value? kept = some (.array branches') ∧
      List.Forall₂ Json.ReadsLike branches branches' := by
  have known : ∀ name ∈ several, (keywordForm? name).isSome = true := by decide
  obtain ⟨v', given', own⟩ := exists_of_rel (given ▸ like.value? (known _ holds))
  obtain ⟨branches', rfl, each⟩ := own.exists_branches holds
  exact ⟨branches', given', each⟩

/-- A keyword that decides one form decides a like one among like keywords. -/
theorem Decides.exists_like (decides : Decides k kept form) :
    ∃ form', Decides k' kept form' ∧ form.Like form' := by
  cases decides with
  | reference given =>
    exact ⟨_, .reference ((like.value?_eq (by decide) (by decide)).trans given), .same _⟩
  | listed given =>
    exact ⟨_, .listed ((like.value?_eq (by decide) (by decide)).trans given), .same _⟩
  | constant given =>
    exact ⟨_, .constant ((like.member?_eq (by decide) (by decide)).trans given), .same _⟩
  | @choice mode _ given =>
    obtain ⟨branches', given', each⟩ := like.exists_branches (by cases mode <;> decide) given
    exact ⟨_, .choice given', .choice mode each⟩
  | conjunction given =>
    obtain ⟨branches', given', each⟩ := like.exists_branches (by decide) given
    exact ⟨_, .conjunction given', .conjunction each⟩
  | negation given =>
    have rel : Option.Rel (HoldsLike "not") (k.value? "not") (k'.value? "not") :=
      like.value? (by decide)
    obtain ⟨v', given', own⟩ := exists_of_rel (given ▸ rel)
    exact ⟨_, .negation given', .negation (own.readsLike (by decide))⟩

/-- Like keywords have like forms. -/
theorem Like.forms (fits : ∀ member ∈ k.members, Fits member) : k.form.Like k'.form := by
  cases first : combining.find? k.has with
  | some kept =>
    -- Keywords are present alike, so the same one decides.
    have first' := like.find?.trans first
    obtain ⟨form, decides⟩ :=
      exists_decides fits (List.mem_of_find?_eq_some first) (List.find?_some first)
    obtain ⟨form', decides', alike⟩ := decides.exists_like like
    rwa [decides.form_eq first, decides'.form_eq first']
  | none =>
    rw [form_of_undecided first, form_of_undecided (like.find?.trans first), like.types?]
    exact .same _

end Forms

end Keywords

/-! ## Readers -/

namespace Node

variable {here : Locus}

theorem ofBranches_parallel {branches branches' : List Json} {index : Nat}
    (each : List.Forall₂ Json.ReadsLike branches branches') :
    Parallel allWithoutSources (ofBranches here index branches)
      (ofBranches here index branches') := by
  induction each generalizing index with
  | nil => exact .refl _
  | cons first _ ih =>
    rw [ofBranches, ofBranches]
    exact (first.parallel _).cons ih fun _ _ _ _ same sameToo => by
      rw [allWithoutSources, allWithoutSources, same, sameToo]

theorem ofProperties_parallel {properties properties' : Members}
    (each : List.Forall₂ MemberLike properties properties') :
    Parallel propertiesWithoutSources (ofProperties here properties)
      (ofProperties here properties') := by
  induction each with
  | nil => exact .refl _
  | @cons member member' _ _ first _ ih =>
    obtain ⟨name, schema⟩ := member
    obtain ⟨name', schema'⟩ := member'
    obtain ⟨rfl, like⟩ := first
    rw [ofProperties, ofProperties]
    exact (like.parallel _).cons ih fun _ _ _ _ same sameToo => by
      rw [propertiesWithoutSources, propertiesWithoutSources, same, sameToo]

/-- What the keywords say of members that are not declared is told by one value. -/
theorem additionalOf_eq (k : Keywords) : additionalOf here k =
    match k.value? "additionalProperties" with
    | none => .ok (.allow, [])
    | some (.bool true) => .ok (.allow, [])
    | some (.bool false) => .ok (.deny, [])
    | some schema => (ofJson (here.within "additionalProperties") schema).map
        fun (node, findings) => (.schema node, findings) := by
  rw [additionalOf]
  split <;> simp_all

section Like

variable {k k' : Keywords} (like : k.Like k')
include like

theorem additionalOf_parallel :
    Parallel additionalWithoutSources (additionalOf here k) (additionalOf here k') := by
  have rel : Option.Rel (Keywords.HoldsLike "additionalProperties")
    (k.value? "additionalProperties") (k'.value? "additionalProperties") :=
    like.value? (by decide)
  rw [additionalOf_eq, additionalOf_eq]
  generalize k.value? "additionalProperties" = v at rel ⊢
  generalize k'.value? "additionalProperties" = v' at rel ⊢
  cases rel with
  | none => exact .refl _
  | @some v v' holds =>
    have own := holds.readsLike (by decide)
    rcases own.objects with rfl | ⟨object, object'⟩
    · exact .refl _
    · cases v <;> cases object
      cases v' <;> cases object'
      exact (own.parallel _).map _ _ fun _ _ same => by
        rw [additionalWithoutSources, additionalWithoutSources, same]

theorem ofType_parallel (token : String) :
    Parallel withoutSources (ofType here k token) (ofType here k' token) := by
  rw [ofType, ofType]
  cases TypeName.ofToken token with
  | scalar kind format =>
    dsimp only
    rw [like.constraints, like.text? (by decide) (by decide)]
    exact .refl _
  | array =>
    have rel : Option.Rel (Keywords.HoldsLike "items") (k.value? "items") (k'.value? "items") :=
      like.value? (by decide)
    dsimp only
    rw [like.countRange rfl rfl, like.flag (by decide) (by decide)]
    let made (node : Node) : Node :=
      .array node (k.countRange "minItems" "maxItems") (k.flag "uniqueItems")
    generalize k.value? "items" = v at rel ⊢
    generalize k'.value? "items" = v' at rel ⊢
    cases rel with
    | none => exact .failed _ _
    | some holds =>
      have own := holds.readsLike (by decide)
      exact (own.parallel _).map made made fun _ _ same => by
        rw [withoutSources, withoutSources, same]
  | object =>
    dsimp only
    rw [like.countRange rfl rfl, like.required]
    exact (ofProperties_parallel like.properties).bind fun _ _ _ same =>
      (additionalOf_parallel like).bind fun _ _ _ sameToo =>
        (settle_objectOf same sameToo).noting _
  | other => exact .ok [] rfl

theorem ofTypes_parallel (tokens : List String) :
    Parallel allWithoutSources (ofTypes here k tokens) (ofTypes here k' tokens) := by
  induction tokens with
  | nil =>
    rw [ofTypes, ofTypes]
    exact .refl _
  | cons token rest ih =>
    rw [ofTypes, ofTypes]
    exact (ofType_parallel like token).cons ih fun _ _ _ _ same sameToo => by
      rw [allWithoutSources, allWithoutSources, same, sameToo]

theorem ofKeywords_parallel (fits : ∀ member ∈ k.members, Fits member) :
    Parallel withoutSources (ofKeywords here k) (ofKeywords here k') := by
  have forms := like.forms fits
  rw [ofKeywords_eq, ofKeywords_eq]
  generalize k.form = form at forms ⊢
  generalize k'.form = form' at forms ⊢
  cases forms with
  | same =>
    cases form with
    | free => exact .ok [] rfl
    | typed tokens =>
      exact (ofTypes_parallel like tokens).map _ _ fun _ _ => withoutSources_joined
    | _ => exact .refl _
  | choice mode each =>
    exact (ofBranches_parallel each).bind fun _ _ _ same =>
      (settle_branchesOf (fun _ _ => congrArg (union mode)) same).noting _
  | conjunction each =>
    exact (ofBranches_parallel each).bind fun _ _ _ same =>
      (settle_branchesOf (fun _ _ => congrArg intersection) same).noting _
  | negation own =>
    exact (own.parallel _).map _ _ fun _ _ same => by rw [withoutSources, withoutSources, same]

end Like

end Node

/-- Objects with like keywords are read alike. -/
theorem Keywords.Like.readsLike {members members' : Members}
    (like : (⟨members⟩ : Keywords).Like ⟨members'⟩) (names : (members.map Prod.fst).Nodup)
    (names' : (members'.map Prod.fst).Nodup) :
    (Json.object members).ReadsLike (.object members') := by
  refine ⟨fun here => ?_, ?_, .inr ⟨rfl, rfl⟩⟩
  · cases wrong : keywordMismatch? members with
    | none =>
      have fits := keywordMismatch?_eq_none_iff.mp wrong
      have right' : keywordMismatch? members' = none :=
        keywordMismatch?_eq_none_iff.mpr (like.fits names' fits)
      rw [Node.ofJson_object wrong, Node.ofJson_object right', Keywords.ownFindings,
        Keywords.ownFindings, like.shadowing, like.flag (by decide) (by decide)]
      let nullable (node : Node) : Node :=
        if (⟨members⟩ : Keywords).flag "nullable" then node.orNull else node
      refine ((Node.ofKeywords_parallel like fits).noting _).map nullable nullable
        fun node node' same => ?_
      unfold nullable
      split
      · rw [Node.withoutSources_orNull, Node.withoutSources_orNull, same]
      · exact same
    | some found =>
      -- The first misfit may be another one here, but there is one.
      cases wrong' : keywordMismatch? members' with
      | none =>
        have fits := like.symm.fits names (keywordMismatch?_eq_none_iff.mp wrong')
        rw [keywordMismatch?_eq_none_iff.mpr fits] at wrong
        cases wrong
      | some found' =>
        rw [Node.ofJson, Node.ofJson, wrong, wrong']
        exact .failed _ _
  · have same : Json.member? members' "required" = Json.member? members "required" :=
      like.member?_eq (by decide) (by decide)
    simp only [Keywords.asksForItself]
    rw [same]

end DataSchema
