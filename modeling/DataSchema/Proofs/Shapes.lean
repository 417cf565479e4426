import DataSchema.Proofs.Meaning.Soundness

/-!
Shapes tell no lies. Whatever an entry accepts is a value of the shape of the entry, if a shape is
read as the type that a program would declare for it. Shapes are made from nodes and not from
checks, so both are compared with the meaning of nodes.
-/
namespace DataSchema

/-- The values of shapes, where a name stands for the shape that the registry has for it. -/
inductive Registry.Inhabits (r : Registry) : Shape → Json → Prop
  | any {value} : Inhabits r .any value
  | null : Inhabits r .null .null
  | bool {value} : Inhabits r .bool (.bool value)
  | integer {format} {n : Number} (integral : n.isIntegral = true) :
      Inhabits r (.integer format) (.number n)
  | number {format n} : Inhabits r (.number format) (.number n)
  | string {format value} : Inhabits r (.string format) (.string value)
  | enum {values value} {allowed : Json} (listed : allowed ∈ values)
      (equal : allowed.deepEqual value = true) : Inhabits r (.enum values) value
  | list {item items} (each : ∀ value ∈ items, Inhabits r item value) :
      Inhabits r (.list item) (.array items)
  | object {fields additional} {members : Members}
      (required : ∀ name shape, (name, shape, true) ∈ fields → name ∈ members.map Prod.fst)
      (present : ∀ m ∈ members, ∀ shape required, fields.lookup m.1 = some (shape, required) →
        Inhabits r shape m.2)
      (closed : additional = none → ∀ m ∈ members, (fields.lookup m.1).isSome = true)
      (others : ∀ m ∈ members, fields.lookup m.1 = none → ∀ shape, additional = some shape →
        Inhabits r shape m.2) : Inhabits r (.object fields additional) (.object members)
  | named {name shape value} (entry : r.shape? name = some shape)
      (inside : Inhabits r shape value) : Inhabits r (.named name) value
  | nullable_null {inner} : Inhabits r (.nullable inner) .null
  | nullable {inner value} (inside : Inhabits r inner value) : Inhabits r (.nullable inner) value
  | oneOf {variants variant value} (member : variant ∈ variants)
      (inside : Inhabits r variant value) : Inhabits r (.oneOf variants) value
  | anyOf {variants variant value} (member : variant ∈ variants)
      (inside : Inhabits r variant value) : Inhabits r (.anyOf variants) value
  | allOf {parts value} (each : ∀ part ∈ parts, Inhabits r part value) :
      Inhabits r (.allOf parts) value

namespace Shape

/-! ## Shapes of nodes -/

theorem ofNodes_eq_map (nodes : List Node) : ofNodes nodes = nodes.map ofNode := by
  induction nodes with
  | nil => rfl
  | cons node rest ih => rw [ofNodes, ih, List.map_cons]

/-- The field of a name has the shape of the schema that is declared for the name. -/
theorem lookup_fieldsOf (required : List String) (properties : List (String × Node))
    (name : String) :
    (fieldsOf required properties).lookup name =
      (properties.lookup name).map fun node => (ofNode node, required.contains name) := by
  induction properties with
  | nil => rfl
  | cons property rest ih =>
    obtain ⟨key, node⟩ := property
    rw [fieldsOf, List.lookup_cons, List.lookup_cons, ih]
    by_cases same : name = key
    · simp [same]
    · simp [beq_false_of_ne same]

/-- Fields that are marked as required are required. -/
theorem mem_required_of_mem_fieldsOf {required : List String} {properties : List (String × Node)}
    {name : String} {shape : Shape} (field : (name, shape, true) ∈ fieldsOf required properties) :
    name ∈ required := by
  induction properties with
  | nil => cases field
  | cons property rest ih =>
    rw [fieldsOf, List.mem_cons] at field
    rcases field with first | later
    · simp only [Prod.mk.injEq] at first
      obtain ⟨rfl, -, wanted⟩ := first
      exact List.contains_iff_mem.mp wanted.symm
    · exact ih later

/-- There is no shape for other members exactly where there may be none. -/
theorem additionalOf_eq_none_iff {count : CountRange} {additional : Additional Node} :
    additionalOf count additional = none ↔ additional.isClosed count = true := by
  cases additional with
  | allow => cases bound : count.max <;> simp [additionalOf, Additional.isClosed, bound]
  | deny => simp [additionalOf, Additional.isClosed]
  | schema node => simp [additionalOf, Additional.isClosed]

end Shape

namespace Registry

variable {r : Registry} {value : Json}

/-! ## Values of shapes -/

/-- A value of a variant is one of the union, whether null and another variant are taken together
or not. -/
theorem Inhabits.ofVariants (mode : UnionMode) {variants : List Shape} {variant : Shape}
    (member : variant ∈ variants) (inside : r.Inhabits variant value) :
    r.Inhabits (Shape.ofVariants mode variants) value := by
  have plain : r.Inhabits (Shape.ofMode mode variants) value := by
    cases mode with
    | anyOf => exact .anyOf member inside
    | oneOf => exact .oneOf member inside
  have orNull {inner other : Shape} (null : other.isNull = true)
      (either : variant = other ∨ variant = inner) : r.Inhabits (.nullable inner) value := by
    rcases either with rfl | rfl
    · cases variant <;> cases null
      cases inside
      exact .nullable_null
    · exact .nullable inside
  unfold Shape.ofVariants
  split
  · next a b =>
    have either : variant = a ∨ variant = b := List.mem_pair.mp member
    split
    · next nulls => exact orNull (Bool.and_eq_true_iff.mp nulls).1 either
    · split
      · next nulls => exact orNull (Bool.and_eq_true_iff.mp nulls).1 either.symm
      · exact plain
  · exact plain

theorem inhabits_of_scalarMeets {limits : Limits} {kind : ScalarKind} {format : Option Format}
    {c : Constraints} (meets : ScalarMeets limits kind format c value) :
    r.Inhabits (Shape.ofNode (.scalar kind format c)) value := by
  cases kind with
  | string =>
    cases value with
    | string s => exact .string
    | _ => exact meets.elim
  | number =>
    cases value with
    | number n => exact .number
    | _ => exact meets.elim
  | integer =>
    cases value with
    | number n => exact .integer meets.1
    | _ => exact meets.elim
  | boolean =>
    cases value with
    | bool b => exact .bool
    | _ => exact meets.elim
  | null =>
    cases value with
    | null => exact .null
    | _ => exact meets.elim

/-- An object whose members have the shapes of their schemas has the shape of its schema: the shape
is closed just where the schema is. -/
theorem inhabits_of_objectMeets {strip : Bool} {properties : List (String × Node)}
    {required : List String} {count : CountRange} {additional : Additional Node}
    {members : Members} (meets : ObjectMeets strip properties required count additional members)
    (each : ∀ m ∈ members, ∀ node, memberNode? properties additional m.1 = some node →
      r.Inhabits (Shape.ofNode node) m.2) :
    r.Inhabits (Shape.ofNode (.object properties required count additional)) (.object members) := by
  refine .object (fun name shape field => ?_) (fun m inside shape wanted field => ?_)
    (fun none m inside => ?_) (fun m inside free shape others => ?_)
  · exact meets.required name (Shape.mem_required_of_mem_fieldsOf field)
  · rw [Shape.lookup_fieldsOf, Option.map_eq_some_iff] at field
    obtain ⟨node, declared, same⟩ := field
    cases same
    exact each m inside node (by simp [memberNode?, declared])
  · have closed := Shape.additionalOf_eq_none_iff.mp none
    have known := meets.known closed m inside
    rw [Shape.lookup_fieldsOf, Option.isSome_map]
    cases declared : properties.lookup m.1 with
    | some node => rfl
    | none =>
      cases additional with
      | schema node => cases closed
      | _ => simp [memberNode?, declared] at known
  · rw [Shape.lookup_fieldsOf, Option.map_eq_none_iff] at free
    cases additional with
    | deny => cases others
    | allow =>
      simp only [Shape.additionalOf, Option.ite_none_left_eq_some, Option.some.injEq] at others
      exact others.2 ▸ .any
    | schema node =>
      cases others
      exact each m inside node (by simp [memberNode?, free])

/-- A value that satisfies a node is of the shape of the node. The induction is on the verdict, for
it goes down in node and value at once. -/
theorem inhabits_of_judged {limits : Limits} {d : Document} {strip verdict : Bool} {node : Node}
    (shapes : ∀ name node, d.node? name = some node → r.shape? name = some (Shape.ofNode node))
    (judged : Judged limits d strip verdict node value) (satisfied : verdict = true) :
    r.Inhabits (Shape.ofNode node) value := by
  induction judged with
  | scalar meets => exact inhabits_of_scalarMeets meets
  | enum listed equal => exact .enum listed equal
  | unknown => exact .any
  | array meets each ih => exact .list fun item inside => ih item inside rfl
  | object meets each ih =>
    exact inhabits_of_objectMeets meets fun m inside node schema => ih m inside node schema rfl
  | anyOf member _ ih =>
    rw [Shape.ofNode, Shape.ofNodes_eq_map]
    exact .ofVariants _ (List.mem_map_of_mem member) (ih rfl)
  | oneOf split _ _ ih =>
    rw [Shape.ofNode, Shape.ofNodes_eq_map]
    exact .ofVariants _ (List.mem_map_of_mem (by simp [split])) (ih rfl)
  | allOf each ih =>
    rw [Shape.ofNode, Shape.ofNodes_eq_map]
    refine .allOf fun part member => ?_
    obtain ⟨branch, inside, rfl⟩ := List.mem_map.mp member
    exact ih branch inside rfl
  | negation _ => exact .any
  | reference entry _ ih => exact .named (shapes _ _ entry) (ih satisfied)
  | _ => cases satisfied

/-- The shape of a name is that of the node which the name looks up. -/
theorem shape?_of_node? {options : Options} {d : Document} (built : build options d = .ok r)
    {name : String} {node : Node} (entry : d.node? name = some node) :
    r.shape? name = some (Shape.ofNode node) := by
  obtain ⟨compiled, -, built⟩ := steps_of_ok built
  obtain ⟨cyclic, -, built⟩ := steps_of_ok built
  cases built
  obtain ⟨slot, found, place⟩ := Document.slot_iff_node?.mp entry
  simp [shape?, slot?, found, place]

/-- Every value that an entry of a document that builds accepts is one of the shape of the entry. -/
theorem inhabits_of_accepted (options : Options) (d : Document) (r : Registry)
    (built : build options d = .ok r) (name : String) (value form : Json)
    (accepted : r.validate? name value = some (.accepted form)) :
    ∃ shape, r.shape? name = some shape ∧ r.Inhabits shape value := by
  obtain ⟨compiled, from'⟩ := builtFrom_of_build built
  obtain ⟨slot, found, accepts⟩ := validate?_eq_accepted_iff.mp accepted
  rw [slot?, from'.names] at found
  obtain ⟨node, entry, place⟩ := Document.node?_of_slot found
  have satisfied := (from'.run_faithful place _ value []).accepted form accepts
  exact ⟨_, shape?_of_node? built entry,
    inhabits_of_judged (fun _ _ => shape?_of_node? built) satisfied rfl⟩

/-- Parts, by how many there are and of which others they are made. One may have a spare, and a mark
on anything else. -/
def assemblies : Document :=
  ⟨[("Part", .object [("count", .plain .integer), ("of", .array (.reference "Part") {} false),
      ("spare", .union .anyOf [.plain .null, .reference "Part"])] ["count"] {}
      (.schema (.enum [.string "new", .string "old"])))], []⟩

/-- A part that is made of another one, which has no spare. -/
def assembly : Json :=
  .object [("paint", .string "old"), ("count", .number (.int 2)),
    ("of", .array [.object [("count", .number (.int 1)), ("spare", .null)]])]

/-- The shape of parts names itself, in a list and beside null. -/
theorem assembly_has_the_shape_of_parts :
    ∃ r, build {} assemblies = .ok r ∧
      ∃ form, r.validate? "Part" assembly = some (.accepted form) ∧
      ∃ shape, r.shape? "Part" = some shape ∧ shape = .object
        [("count", .integer none, true), ("of", .list (.named "Part"), false),
          ("spare", .nullable (.named "Part"), false)]
        (some (.enum [.string "new", .string "old"])) ∧ r.Inhabits shape assembly := by
  obtain ⟨shape, found, inside⟩ := inhabits_of_accepted {} assemblies _ rfl "Part" assembly _ rfl
  exact ⟨_, rfl, _, rfl, shape, found, (Option.some.inj found).symm, inside⟩

end Registry
end DataSchema
