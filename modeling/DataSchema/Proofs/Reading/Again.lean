import DataSchema.Proofs.Reading.Written
import DataSchema.Proofs.Respelling.Basic

/-!
Reading what was written. Every node that has been read is written as a schema that is read again,
as a respelling of it and with no finding that was not there before. It comes back unchanged, and
without findings, exactly if each source fragment that it keeps stands alone.
-/
namespace DataSchema

/-! ## Fragments -/

/-- A source that is itself all that it describes: it does not let null pass as well, and it has one
type at most. -/
def Json.standsAlone : Json → Bool
  | .object members =>
    !(⟨members⟩ : Keywords).flag "nullable" && ((⟨members⟩ : Keywords).types?.getD []).length ≤ 1
  | _ => true

/-- A node keeps the source of each unknown node in it. -/
inductive Node.Keeps (raw : Json) : Node → Prop
  | unknown {token} : Node.Keeps raw (.unknown token raw)
  | items {items count unique} (inner : Node.Keeps raw items) :
      Node.Keeps raw (.array items count unique)
  | property {properties required count additional property} (member : property ∈ properties)
      (inner : Node.Keeps raw property.2) :
      Node.Keeps raw (.object properties required count additional)
  | others {properties required count node} (inner : Node.Keeps raw node) :
      Node.Keeps raw (.object properties required count (.schema node))
  | branch {mode branches branch} (member : branch ∈ branches) (inner : Node.Keeps raw branch) :
      Node.Keeps raw (.union mode branches)
  | conjunct {branches branch} (member : branch ∈ branches) (inner : Node.Keeps raw branch) :
      Node.Keeps raw (.intersection branches)
  | negated {inner} (part : Node.Keeps raw inner) : Node.Keeps raw (.negation inner)

/-- Each source that the node keeps stands alone. -/
def Node.StandsAlone (node : Node) : Prop := ∀ raw, node.Keeps raw → raw.standsAlone = true

namespace Node

@[simp] theorem standsAlone_scalar (kind : ScalarKind) (format : Option Format)
    (constraints : Constraints) : (scalar kind format constraints).StandsAlone := by
  rintro raw ⟨⟩

@[simp] theorem standsAlone_enum (values : List Json) : (enum values).StandsAlone := by
  rintro raw ⟨⟩

@[simp] theorem standsAlone_reference (name : String) : (reference name).StandsAlone := by
  rintro raw ⟨⟩

@[simp] theorem standsAlone_unknown {token : Option String} {raw : Json} :
    (unknown token raw).StandsAlone ↔ raw.standsAlone = true := by
  constructor
  · exact fun alone => alone raw .unknown
  · rintro alone _ ⟨⟩
    exact alone

@[simp] theorem standsAlone_array {items : Node} {count : CountRange} {unique : Bool} :
    (array items count unique).StandsAlone ↔ items.StandsAlone := by
  constructor
  · exact fun alone raw keeps => alone raw (.items keeps)
  · rintro alone raw ⟨⟩
    exact alone raw ‹_›

@[simp] theorem standsAlone_negation {inner : Node} :
    (negation inner).StandsAlone ↔ inner.StandsAlone := by
  constructor
  · exact fun alone raw keeps => alone raw (.negated keeps)
  · rintro alone raw ⟨⟩
    exact alone raw ‹_›

@[simp] theorem standsAlone_union {mode : UnionMode} {branches : List Node} :
    (union mode branches).StandsAlone ↔ ∀ branch ∈ branches, branch.StandsAlone := by
  constructor
  · exact fun alone branch member raw keeps => alone raw (.branch member keeps)
  · intro alone raw keeps
    cases keeps with
    | branch member inner => exact alone _ member raw inner

@[simp] theorem standsAlone_intersection {branches : List Node} :
    (intersection branches).StandsAlone ↔ ∀ branch ∈ branches, branch.StandsAlone := by
  constructor
  · exact fun alone branch member raw keeps => alone raw (.conjunct member keeps)
  · intro alone raw keeps
    cases keeps with
    | conjunct member inner => exact alone _ member raw inner

@[simp] theorem standsAlone_object {properties : List (String × Node)} {required : List String}
    {count : CountRange} {additional : Additional Node} :
    (object properties required count additional).StandsAlone ↔
      (∀ property ∈ properties, property.2.StandsAlone) ∧
        ∀ node, additional = .schema node → node.StandsAlone := by
  constructor
  · intro alone
    refine ⟨fun property member raw keeps => alone raw (.property member keeps), ?_⟩
    rintro node rfl raw keeps
    exact alone raw (.others keeps)
  · rintro ⟨declared, others⟩ raw keeps
    cases keeps with
    | property member inner => exact declared _ member raw inner
    | others inner => exact others _ rfl raw inner

end Node

theorem Node.membersToJson_eq (properties : List (String × Node)) :
    membersToJson properties = properties.map fun property => (property.1, property.2.toJson) := by
  induction properties with
  | nil => rw [membersToJson, List.map_nil]
  | cons property rest ih => rw [membersToJson, ih, List.map_cons]

/-! ## What comes back -/

/-- Findings of the second reading are among those before. Exactly what stands alone is unchanged,
and then there are none. -/
structure Repeats (kinds again : List FindingKind) (unchanged alone : Prop) : Prop where
  known : again ⊆ kinds
  unchanged_iff : unchanged ↔ alone
  silent : alone → again = []

/-- A node is written as an object, and read as a respelling of itself from there. -/
structure Rereads (wholes : List Node) (kinds : List FindingKind) (node : Node) : Prop where
  isObject : ∃ members, node.toJson = .object members
  reads : ∃ node' again, node.toJson.Reads node' again ∧ Respelled wholes node node' ∧
    Repeats kinds again (node' = node) node.StandsAlone

namespace Rereads

variable {wholes : List Node} {kinds : List FindingKind} {node : Node}

theorem mono {more : List Node} {others : List FindingKind} (h : Rereads wholes kinds node)
    (subset : wholes ⊆ more) (known : kinds ⊆ others) : Rereads more others node := by
  obtain ⟨node', again, reads, respelled, repeats⟩ := h.reads
  exact ⟨h.isObject, node', again, reads, respelled.mono subset,
    fun _ inside => known (repeats.known inside), repeats.unchanged_iff, repeats.silent⟩

/-- A node whose sources stand alone is read as itself, without findings. -/
theorem reads_same (h : Rereads wholes kinds node) (alone : node.StandsAlone) :
    node.toJson.Reads node [] := by
  obtain ⟨node', again, reads, -, repeats⟩ := h.reads
  rwa [repeats.unchanged_iff.mpr alone, repeats.silent alone] at reads

/-- Written nodes are read one after the other. -/
theorem each {nodes : List Node} (parts : ∀ node ∈ nodes, Rereads wholes kinds node) :
    ∃ nodes' again, Each Json.Reads (Node.allToJson nodes) nodes' again ∧
      List.Forall₂ (Respelled wholes) nodes nodes' ∧
      Repeats kinds again (nodes' = nodes) (∀ node ∈ nodes, node.StandsAlone) := by
  induction nodes with
  | nil => exact ⟨[], [], .nil, .nil, by simp, by simp, by simp⟩
  | cons node rest ih =>
    obtain ⟨node', again, reads, respelled, repeats⟩ := (parts node (by simp)).reads
    obtain ⟨nodes', more, each, others, repeat'⟩ :=
      ih fun other member => parts other (by simp [member])
    refine ⟨node' :: nodes', again ++ more, .cons reads each, .cons respelled others, ?_, ?_, ?_⟩
    · exact List.append_subset.mpr ⟨repeats.known, repeat'.known⟩
    · rw [List.cons.injEq, List.forall_mem_cons, repeats.unchanged_iff, repeat'.unchanged_iff]
    · intro alone
      obtain ⟨first, rest⟩ := List.forall_mem_cons.mp alone
      rw [repeats.silent first, repeat'.silent rest, List.append_nil]

/-- So are those of declared members, each under its name. -/
theorem eachMember {properties : List (String × Node)}
    (parts : ∀ property ∈ properties, Rereads [] kinds property.2) :
    ∃ properties' again, Each (ReadsMember Json.Reads) (Node.membersToJson properties) properties'
        again ∧
      properties.map Prod.fst = properties'.map Prod.fst ∧
      List.Forall₂ (Respelled []) (properties.map Prod.snd) (properties'.map Prod.snd) ∧
      Repeats kinds again (properties' = properties)
        (∀ property ∈ properties, property.2.StandsAlone) := by
  induction properties with
  | nil => exact ⟨[], [], .nil, rfl, .nil, by simp, by simp, by simp⟩
  | cons property rest ih =>
    obtain ⟨name, node⟩ := property
    obtain ⟨node', again, reads, respelled, repeats⟩ := (parts (name, node) (by simp)).reads
    obtain ⟨properties', more, each, names, others, repeat'⟩ :=
      ih fun other member => parts other (by simp [member])
    refine ⟨(name, node') :: properties', again ++ more, .cons ⟨rfl, reads⟩ each, ?_,
      .cons respelled others, ?_, ?_, ?_⟩
    · simp only [List.map_cons, names]
    · exact List.append_subset.mpr ⟨repeats.known, repeat'.known⟩
    · rw [List.cons.injEq, List.forall_mem_cons, Prod.mk.injEq, ← repeats.unchanged_iff,
        repeat'.unchanged_iff]
      simp
    · intro alone
      obtain ⟨first, rest⟩ := List.forall_mem_cons.mp alone
      rw [repeats.silent first, repeat'.silent rest, List.append_nil]

end Rereads

/-! ## Written schemas -/

section Written

variable {members : Members} {node : Node} {kinds : List FindingKind}
  (fits : ∀ member ∈ members, Fits member) (plain : Json.member? members "nullable" = none)
include fits plain

/-- Keywords that shadow nothing and say nothing of null are read as they describe. -/
theorem reads_of_describes (quiet : (⟨members⟩ : Keywords).shadowing = [])
    (describes : Describes Json.Reads ⟨members⟩ node kinds) :
    (Json.object members).Reads node kinds := by
  have flag : (⟨members⟩ : Keywords).flag "nullable" = false := by
    simp [Keywords.flag, Keywords.value?, plain]
  rw [Json.reads_object_iff]
  exact ⟨keywordMismatch?_eq_none_iff.mpr fits, node, kinds, describes, by simp [flag],
    by rw [quiet, List.nil_append]⟩

/-- A single type without combining keywords decides. -/
theorem reads_of_type {token : String}
    (type : Json.member? members "type" = some (.string token))
    (free : ∀ name ∈ Keywords.combining, Json.member? members name = none)
    (reads : ReadsType Json.Reads ⟨members⟩ token node kinds) :
    (Json.object members).Reads node kinds := by
  have quiet : (⟨members⟩ : Keywords).shadowing = [] := by
    refine Keywords.shadowing_of_no_combining fun name inside => ?_
    simp [Keywords.has, Keywords.value?, Json.hasMember, free name inside]
  have form : (⟨members⟩ : Keywords).form = .typed [token] := Keywords.form_of_type free type
  have each : Each (ReadsType Json.Reads ⟨members⟩) [token] [node] (kinds ++ []) :=
    .cons reads .nil
  rw [List.append_nil] at each
  exact reads_of_describes fits plain quiet (.typed form each)

end Written

/-- A single keyword is read as it describes. -/
theorem reads_of_single {name : String} {value : Json} {node : Node} {kinds : List FindingKind}
    (fits : Fits (name, value)) (plain : (name == "nullable") = false)
    (describes : Describes Json.Reads ⟨[(name, value)]⟩ node kinds) :
    (Json.object [(name, value)]).Reads node kinds :=
  reads_of_describes (by simpa using fits) (by simp [plain])
    (Keywords.shadowing_singleton name value) describes

namespace Rereads

variable {wholes : List Node} {kinds : List FindingKind}

/-- A node that keeps no source is read as itself. -/
theorem of_same {node : Node} {members : Members} (written : node.toJson = .object members)
    (reads : (Json.object members).Reads node []) (respelled : Respelled wholes node node)
    (alone : node.StandsAlone) : Rereads wholes kinds node :=
  ⟨⟨members, written⟩, node, [], written ▸ reads, respelled,
    List.nil_subset _, ⟨fun _ => alone, fun _ => rfl⟩, fun _ => rfl⟩

theorem scalar {kind : ScalarKind} {format : Option Format} {constraints : Constraints}
    (suits : constraints.Suits kind) (canonical : ∀ f ∈ format, Format.ofToken f.token = f) :
    Rereads wholes kinds (.scalar kind format constraints) := by
  refine of_same rfl ?_ .scalar (by simp)
  have text : (⟨("type", .string kind.name) :: whenPresent "format" format
      (fun f => .string f.token) ++ constraints.members⟩ : Keywords).text? "format" =
      format.map Format.token := by
    apply Keywords.text?_of_written
    cases format <;> simp [Constraints.members]
  have same : (none <|> (format.map Format.token).map Format.ofToken) = format := by
    cases format with
    | none => rfl
    | some f => simpa using canonical f rfl
  have reads := ReadsType.scalar (R := Json.Reads) (k := ⟨("type", .string kind.name) ::
    whenPresent "format" format (fun f => .string f.token) ++ constraints.members⟩)
    (TypeName.ofToken_name kind)
  rw [text, same, Keywords.constraints_of_written suits] at reads
  refine reads_of_type ?_ (by simp [Constraints.members]) (by simp) ?_ reads
  · simp only [List.forall_mem_append, List.forall_mem_cons, forall_mem_whenPresent,
      List.cons_append]
    exact ⟨rfl, fun f _ => rfl, constraints.fits_members⟩
  · simp [Keywords.combining, Constraints.members]

theorem enum {values : List Json} (made : Node.enumOf values = .ok (.enum values)) :
    Rereads wholes kinds (.enum values) := by
  have written : (Node.enum values).toJson = .object [("enum", .array values)] := by
    simp [Node.toJson]
  refine of_same written (reads_of_single rfl rfl (.listed ?_ made)) .enum (by simp)
  simp [Keywords.form, Keywords.text?, Keywords.value?]

theorem reference {name : String} (named : name ≠ "") :
    Rereads wholes kinds (.reference name) := by
  have written : (Node.reference name).toJson =
      .object [("$ref", .string (Reference.text name))] := by simp [Node.toJson]
  refine of_same written (reads_of_single rfl rfl (.reference ?_ (Reference.name?_text named)))
    .reference (by simp)
  simp [Keywords.form, Keywords.text?, Keywords.value?]

theorem negation {inner : Node} (part : Rereads [] kinds inner) :
    Rereads wholes kinds (.negation inner) := by
  obtain ⟨members, written⟩ := part.isObject
  obtain ⟨inner', again, reads, respelled, repeats⟩ := part.reads
  have form : (⟨[("not", inner.toJson)]⟩ : Keywords).form = .negation inner.toJson := by
    simp [Keywords.form, Keywords.text?, Keywords.value?, written]
  refine ⟨⟨[("not", inner.toJson)], by simp [Node.toJson]⟩, .negation inner', again, ?_,
    .negation respelled, repeats.known, ?_, ?_⟩
  · rw [Node.toJson]
    exact reads_of_single rfl rfl (.negation form reads)
  · simpa using repeats.unchanged_iff
  · simpa using repeats.silent

theorem intersection {branches : List Node}
    (parts : ∀ branch ∈ branches, Rereads [] kinds branch) (enough : 2 ≤ branches.length) :
    Rereads wholes kinds (.intersection branches) := by
  obtain ⟨branches', again, each, respelled, repeats⟩ := Rereads.each parts
  have form : (⟨[("allOf", .array (Node.allToJson branches))]⟩ : Keywords).form =
      .conjunction (Node.allToJson branches) := by
    simp [Keywords.form, Keywords.text?, Keywords.value?]
  refine ⟨⟨[("allOf", .array (Node.allToJson branches))], by simp [Node.toJson]⟩,
    .intersection branches', again, ?_, .intersection respelled, repeats.known, ?_, ?_⟩
  · rw [Node.toJson]
    exact reads_of_single rfl rfl (.conjunction form each (respelled.length_eq ▸ enough))
  · simpa using repeats.unchanged_iff
  · simpa using repeats.silent

/-- What branches may have become: in a disjunction, the whole of it. -/
def branchWholes (mode : UnionMode) (branches : List Node) : List Node :=
  match mode with
  | .anyOf => Node.wholes branches
  | .oneOf => []

theorem union {mode : UnionMode} {branches : List Node}
    (parts : ∀ branch ∈ branches, Rereads (branchWholes mode branches) kinds branch)
    (enough : 2 ≤ branches.length) : Rereads wholes kinds (.union mode branches) := by
  obtain ⟨branches', again, each, respelled, repeats⟩ := Rereads.each parts
  have form : (⟨[(mode.keyword, .array (Node.allToJson branches))]⟩ : Keywords).form =
      .choice mode (Node.allToJson branches) := by
    cases mode <;> simp [Keywords.form, Keywords.text?, Keywords.value?, UnionMode.keyword]
  have fits : Fits (mode.keyword, .array (Node.allToJson branches)) := by cases mode <;> rfl
  have plain : (mode.keyword == "nullable") = false := by cases mode <;> rfl
  refine ⟨⟨[(mode.keyword, .array (Node.allToJson branches))], by simp [Node.toJson]⟩,
    .union mode branches', again, ?_, ?_, repeats.known, ?_, ?_⟩
  · rw [Node.toJson]
    exact reads_of_single fits plain (.choice form each (respelled.length_eq ▸ enough))
  · cases mode with
    | anyOf => exact .anyOf_forall₂ respelled
    | oneOf => exact .oneOf respelled
  · simpa using repeats.unchanged_iff
  · simpa using repeats.silent

/-- Null may pass as well. -/
theorem orNull {node : Node} (part : Rereads (Node.wholes [node, .plain .null]) kinds node) :
    Rereads wholes kinds node.orNull := by
  have null {wholes : List Node} : Rereads wholes kinds (.plain .null) := scalar .null (by simp)
  unfold Node.orNull
  split
  · next isNull =>
    cases node with
    | scalar kind format constraints =>
      obtain ⟨node', again, reads, respelled, repeats⟩ := part.reads
      cases respelled
      exact ⟨part.isObject, _, again, reads, .scalar, repeats⟩
    | _ => simp [Node.isNull] at isNull
  · refine union (fun branch member => ?_) (by simp)
    rcases List.mem_pair.mp member with rfl | rfl
    · exact part
    · exact null

theorem array {items : Node} {count : CountRange} {unique : Bool}
    (inner : Rereads [] kinds items) : Rereads wholes kinds (.array items count unique) := by
  obtain ⟨members, written⟩ := inner.isObject
  obtain ⟨items', again, reads, respelled, repeats⟩ := inner.reads
  let k : Keywords := ⟨[("type", .string "array"), ("items", items.toJson)]
    ++ count.members "minItems" "maxItems" ++ whenTrue "uniqueItems" unique⟩
  have given : k.value? "items" = some items.toJson := by
    simp [k, Keywords.value?, written]
  have range : k.countRange "minItems" "maxItems" = count := by
    have least : k.count? "minItems" = count.min :=
      Keywords.count?_of_written (by simp [k, CountRange.members])
    have greatest : k.count? "maxItems" = count.max :=
      Keywords.count?_of_written (by simp [k, CountRange.members])
    rw [Keywords.countRange, least, greatest]
  have flag : k.flag "uniqueItems" = unique :=
    Keywords.flag_of_written (by simp [k, CountRange.members])
  have fits : ∀ member ∈ k.members, Fits member := by
    simp only [k, List.forall_mem_append, List.forall_mem_cons, forall_mem_whenTrue]
    exact ⟨⟨⟨rfl, rfl, by simp⟩, count.fits_members rfl rfl⟩, fun _ => rfl⟩
  have typed : ReadsType Json.Reads k "array"
      (.array items' (k.countRange "minItems" "maxItems") (k.flag "uniqueItems")) again :=
    .array rfl given reads
  rw [range, flag] at typed
  refine ⟨⟨k.members, by simp [Node.toJson, k]⟩, .array items' count unique, again, ?_,
    .array respelled, repeats.known, ?_, ?_⟩
  · rw [Node.toJson]
    refine reads_of_type fits ?_ ?_ ?_ typed
    · simp [CountRange.members]
    · simp
    · simp [Keywords.combining, CountRange.members]
  · simpa using repeats.unchanged_iff
  · simpa using repeats.silent

/-- Only an unknown node is written as a member that asks for itself. -/
theorem unknown_of_asksForItself {node : Node}
    (asks : Keywords.asksForItself node.toJson = true) :
    ∃ token raw, node = .unknown token raw := by
  cases node with
  | unknown token raw => exact ⟨token, raw, rfl⟩
  | union mode branches =>
    cases mode <;> simp [Node.toJson, Keywords.asksForItself, UnionMode.keyword] at asks
  | scalar kind format constraints =>
    simp [Node.toJson, Keywords.asksForItself, Constraints.members] at asks
  | object properties required count additional =>
    cases required <;> cases additional <;>
      simp [Node.toJson, Keywords.asksForItself, CountRange.members, Node.additionalToJson] at asks
  | _ => simp [Node.toJson, Keywords.asksForItself, CountRange.members] at asks

/-- What is said of other members is read as it is written. -/
theorem others {additional : Additional Node} (given : ∀ node, additional = .schema node →
      Rereads [] kinds node) {k : Keywords}
    (written : Json.member? k.members "additionalProperties" =
      Json.member? (Node.additionalToJson additional) "additionalProperties") :
    ∃ additional' again, ReadsOthers Json.Reads k additional' again ∧
      Additional.Rel (Respelled []) additional additional' ∧
      Repeats kinds again (additional' = additional)
        (∀ node, additional = .schema node → node.StandsAlone) := by
  cases additional with
  | allow =>
    have absent : k.value? "additionalProperties" = none := by
      simp [Keywords.value?, written, Node.additionalToJson]
    exact ⟨.allow, [], .absent absent, .allow, by simp, by simp, by simp⟩
  | deny =>
    have denied : k.value? "additionalProperties" = some (.bool false) := by
      simp [Keywords.value?, written, Node.additionalToJson]
    exact ⟨.deny, [], .denied denied, .deny, by simp, by simp, by simp⟩
  | schema node =>
    obtain ⟨members, object⟩ := (given node rfl).isObject
    obtain ⟨node', again, reads, respelled, repeats⟩ := (given node rfl).reads
    have schema : k.value? "additionalProperties" = some node.toJson := by
      simp [Keywords.value?, written, Node.additionalToJson, object]
    have other (b : Bool) : node.toJson ≠ .bool b := by simp [object]
    refine ⟨.schema node', again, .schema schema other reads, .schema respelled, repeats.known,
      ?_, ?_⟩
    · simpa using repeats.unchanged_iff
    · simpa using repeats.silent

theorem object {properties : List (String × Node)} {required : List String} {count : CountRange}
    {additional : Additional Node} (parts : ∀ property ∈ properties, Rereads [] kinds property.2)
    (given : ∀ node, additional = .schema node → Rereads [] kinds node)
    (declared : ∀ name ∈ required, name ∈ properties.map Prod.fst) (distinct : required.Nodup)
    (asking : ∀ property ∈ properties, Keywords.asksForItself property.2.toJson = true →
      property.1 ∈ required) :
    Rereads wholes kinds (.object properties required count additional) := by
  obtain ⟨properties', again, each, names, respelled, repeats⟩ := eachMember parts
  let k : Keywords := ⟨[("type", .string "object"),
      ("properties", .object (Node.membersToJson properties))]
    ++ (if required.isEmpty then [] else [("required", .array (required.map .string))])
    ++ count.members "minProperties" "maxProperties" ++ Node.additionalToJson additional⟩
  obtain ⟨additional', more, others, otherwise, repeat'⟩ := others (k := k) given (by
    cases required <;> simp [k, CountRange.members])
  have members : k.properties = Node.membersToJson properties := by
    simp [k, Keywords.properties, Keywords.value?]
  have required_eq : k.required = required := by
    refine Keywords.required_of_written distinct ?_ ?_
    · cases required <;>
        cases additional <;> simp [k, CountRange.members, Node.additionalToJson]
    · rw [members, Node.membersToJson_eq]
      intro member inside asks
      obtain ⟨property, known, rfl⟩ := List.mem_map.mp inside
      exact asking property known asks
  have range : k.countRange "minProperties" "maxProperties" = count := by
    have least : k.count? "minProperties" = count.min := by
      apply Keywords.count?_of_written
      cases required <;> cases additional <;>
        simp [k, CountRange.members, Node.additionalToJson]
    have greatest : k.count? "maxProperties" = count.max := by
      apply Keywords.count?_of_written
      cases required <;> cases additional <;>
        simp [k, CountRange.members, Node.additionalToJson]
    rw [Keywords.countRange, least, greatest]
  have texts : Fits ("required", .array (required.map .string)) := by
    have all : (required.map Json.string).all KeywordForm.isText = true := by
      simp [KeywordForm.isText]
    change KeywordForm.mismatch? .required (.array (required.map .string)) = none
    simp [KeywordForm.mismatch?, KeywordForm.isTexts, KeywordForm.orNull, KeywordForm.expecting,
      all]
  have any (v : Json) : Fits ("additionalProperties", v) := rfl
  have fits : ∀ member ∈ k.members, Fits member := by
    simp only [k, List.forall_mem_append, List.forall_mem_cons]
    refine ⟨⟨⟨⟨rfl, rfl, by simp⟩, ?_⟩, count.fits_members rfl rfl⟩, ?_⟩
    · cases required.isEmpty <;> simp [texts]
    · cases additional <;> simp [Node.additionalToJson, any]
  have typed : ReadsType Json.Reads k "object" (.object properties' k.required
      (k.countRange "minProperties" "maxProperties") additional') (again ++ more) := by
    refine .object rfl (members ▸ each) others ?_
    rw [required_eq, ← names]
    exact declared
  rw [required_eq, range] at typed
  refine ⟨⟨k.members, by simp [Node.toJson, k]⟩, .object properties' required count additional',
    again ++ more, ?_, .object names respelled otherwise, ?_, ?_, ?_⟩
  · rw [Node.toJson]
    refine reads_of_type fits ?_ ?_ ?_ typed
    · cases required <;> cases additional <;> simp [CountRange.members, Node.additionalToJson]
    · cases required <;> cases additional <;> simp
    · cases required <;> cases additional <;>
        simp [Keywords.combining, CountRange.members, Node.additionalToJson]
  · exact List.append_subset.mpr ⟨repeats.known, repeat'.known⟩
  · simp [repeats.unchanged_iff, repeat'.unchanged_iff]
  · intro alone
    obtain ⟨first, second⟩ := Node.standsAlone_object.mp alone
    rw [repeats.silent first, repeat'.silent second, List.append_nil]

theorem any : Rereads wholes kinds .any := by
  refine of_same rfl ?_ .unknown (by simp [Node.any, Json.standsAlone, Keywords.flag,
    Keywords.value?, Keywords.types?])
  exact reads_of_describes (by simp) rfl rfl (.free rfl)

/-- A source that does not stand alone is read as the whole that it describes. -/
theorem of_whole {members : Members} {token : Option String} {whole : Node}
    (reads : (Json.object members).Reads whole kinds) (member : whole ∈ wholes)
    (other : whole ≠ .unknown token (.object members))
    (part : (Json.object members).standsAlone = false) :
    Rereads wholes kinds (.unknown token (.object members)) :=
  ⟨⟨members, rfl⟩, whole, kinds, reads, .whole member, List.Subset.refl _,
    by simp [other, part], by simp [part]⟩

end Rereads

end DataSchema
