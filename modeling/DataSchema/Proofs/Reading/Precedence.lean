import DataSchema.Proofs.Reading.Findings
import DataSchema.Proofs.Reading.Written

/-!
Precedence of keywords. The first of the combining keywords that is present makes the node alone,
whatever the keywords after it hold, and the finding on the schema lists those that it shadows.
-/
namespace DataSchema

namespace Keywords

variable {k k' : Keywords} {kept name : String} {form : Form}

/-! ## The keyword that decides -/

theorem nodup_structural : structural.Nodup := by decide

theorem nodup_combining : combining.Nodup := by decide

/-- No keyword before the first one that is present is present. -/
theorem absent_of_lt (first : combining.find? k.has = some kept)
    (earlier : combining.idxOf name < combining.idxOf kept) : k.has name = false := by
  obtain ⟨-, place, inside, rfl, before⟩ := List.find?_eq_some_iff_getElem.mp first
  rw [nodup_combining.idxOf_getElem] at earlier
  have absent := before _ earlier
  rw [List.getElem_idxOf] at absent
  simpa using absent

/-- Whether a keyword is present is told by its own member. -/
theorem has_congr (same : Json.member? k'.members name = Json.member? k.members name) :
    k'.has name = k.has name := by
  simp only [has, value?, Json.hasMember, same]

theorem value?_of_absent (absent : k.has name = false) : k.value? name = none := by
  unfold has at absent
  split at absent
  · have missing : Json.member? k.members name = none := by
      simp_all [Json.hasMember]
    rw [value?, missing]
  · simpa using absent

theorem member?_of_absent (absent : k.has "const" = false) :
    Json.member? k.members "const" = none := by
  simpa [has, Json.hasMember] using absent

/-- What a combining keyword makes of a schema if it decides. -/
inductive Decides (k : Keywords) : String → Form → Prop
  | reference {target} (given : k.value? "$ref" = some (.string target)) :
      Decides k "$ref" (.reference target)
  | listed {values} (given : k.value? "enum" = some (.array values)) :
      Decides k "enum" (.listed values)
  | constant {value} (given : Json.member? k.members "const" = some value) :
      Decides k "const" (.listed [value])
  | choice {mode branches} (given : k.value? mode.keyword = some (.array branches)) :
      Decides k mode.keyword (.choice mode branches)
  | conjunction {branches} (given : k.value? "allOf" = some (.array branches)) :
      Decides k "allOf" (.conjunction branches)
  | negation {inner} (given : k.value? "not" = some inner) : Decides k "not" (.negation inner)

/-- A combining keyword that is present decides something if its value is of the right form. -/
theorem exists_decides (fits : ∀ member ∈ k.members, Fits member) (among : kept ∈ combining)
    (present : k.has kept = true) : ∃ form, Decides k kept form := by
  have schemas {name : String} (asks : keywordForm? name = some .schemas)
      (given : (k.value? name).isSome = true) : ∃ items, k.value? name = some (.array items) := by
    by_contra none
    rw [value?_eq_none_of_schemas fits asks fun items same => none ⟨items, same⟩] at given
    cases given
  simp only [combining, List.mem_cons, List.not_mem_nil, or_false] at among
  rcases among with rfl | rfl | rfl | rfl | rfl | rfl | rfl
  · cases text : k.text? "$ref" with
    | none => simp [has, value?_eq_none_of_text? fits rfl text] at present
    | some target =>
      unfold text? at text
      split at text
      · next given =>
        cases text
        exact ⟨_, .reference given⟩
      · cases text
  · obtain ⟨values, given⟩ := schemas rfl (by simpa [has] using present)
    exact ⟨_, .listed given⟩
  · obtain ⟨value, given⟩ := Option.isSome_iff_exists.mp present
    exact ⟨_, .constant given⟩
  · obtain ⟨branches, given⟩ := schemas rfl (by simpa [has] using present)
    exact ⟨_, @Decides.choice k .oneOf branches given⟩
  · obtain ⟨branches, given⟩ := schemas rfl (by simpa [has] using present)
    exact ⟨_, @Decides.choice k .anyOf branches given⟩
  · obtain ⟨branches, given⟩ := schemas rfl (by simpa [has] using present)
    exact ⟨_, .conjunction given⟩
  · obtain ⟨inner, given⟩ := Option.isSome_iff_exists.mp (by simpa [has] using present)
    exact ⟨_, .negation given⟩

/-- The first combining keyword that is present makes the form. -/
theorem Decides.form_eq (decides : Decides k kept form)
    (first : combining.find? k.has = some kept) : k.form = form := by
  have absent (name : String) (earlier : combining.idxOf name < combining.idxOf kept) :
      k.value? name = none := value?_of_absent (absent_of_lt first earlier)
  have noConst (earlier : combining.idxOf "const" < combining.idxOf kept) :
      Json.member? k.members "const" = none := member?_of_absent (absent_of_lt first earlier)
  cases decides with
  | reference given => simp [Keywords.form, text?, given]
  | listed given => simp [Keywords.form, text?, absent "$ref" (by decide), given]
  | constant given =>
    simp [Keywords.form, text?, absent "$ref" (by decide), absent "enum" (by decide), given]
  | @choice mode branches given =>
    have ref : k.value? "$ref" = none := absent _ (by cases mode <;> decide)
    have enum : k.value? "enum" = none := absent _ (by cases mode <;> decide)
    have const := noConst (by cases mode <;> decide)
    cases mode with
    | oneOf =>
      have given : k.value? "oneOf" = some (.array branches) := given
      simp [Keywords.form, text?, ref, enum, const, given]
    | anyOf =>
      have given : k.value? "anyOf" = some (.array branches) := given
      simp [Keywords.form, text?, ref, enum, const, absent "oneOf" (by decide), given]
  | conjunction given =>
    simp [Keywords.form, text?, absent "$ref" (by decide), absent "enum" (by decide),
      noConst (by decide), absent "oneOf" (by decide), absent "anyOf" (by decide), given]
  | negation given =>
    simp [Keywords.form, text?, absent "$ref" (by decide), absent "enum" (by decide),
      noConst (by decide), absent "oneOf" (by decide), absent "anyOf" (by decide),
      absent "allOf" (by decide), given]

/-- Without combining keywords the types make the form. -/
theorem form_of_undecided (undecided : combining.find? k.has = none) :
    k.form = match k.types? with
      | none => .free
      | some tokens => .typed tokens := by
  have absent (name : String) (among : name ∈ combining) : k.has name = false := by
    simpa using List.find?_eq_none.mp undecided name among
  have ref := value?_of_absent (absent "$ref" (by decide))
  have enum := value?_of_absent (absent "enum" (by decide))
  have const := member?_of_absent (absent "const" (by decide))
  have one := value?_of_absent (absent "oneOf" (by decide))
  have any := value?_of_absent (absent "anyOf" (by decide))
  have all := value?_of_absent (absent "allOf" (by decide))
  have not := value?_of_absent (absent "not" (by decide))
  cases types : k.types? <;>
    simp only [form, Keywords.text?, ref, enum, const, one, any, all, not, types]

theorem Decides.congr (decides : Decides k kept form)
    (same : Json.member? k'.members kept = Json.member? k.members kept) :
    Decides k' kept form := by
  have value : k'.value? kept = k.value? kept := by simp only [value?, same]
  cases decides with
  | reference given => exact .reference (value.trans given)
  | listed given => exact .listed (value.trans given)
  | constant given => exact .constant (same.trans given)
  | choice given => exact .choice (value.trans given)
  | conjunction given => exact .conjunction (value.trans given)
  | negation given => exact .negation (value.trans given)

/-- Keywords that agree on the one that decides describe the same. -/
theorem Decides.describes_congr {R : Json → Node → List FindingKind → Prop} {node : Node}
    {kinds : List FindingKind} (decides : Decides k kept k.form) (same : k'.form = k.form)
    (describes : Describes R k node kinds) : Describes R k' node kinds := by
  cases describes with
  | reference form named => exact .reference (same.trans form) named
  | listed form made => exact .listed (same.trans form) made
  | choice form each enough => exact .choice (same.trans form) each enough
  | conjunction form each enough => exact .conjunction (same.trans form) each enough
  | negation form part => exact .negation (same.trans form) part
  | typed form each =>
    rw [form] at decides
    cases decides
  | free form =>
    rw [form] at decides
    cases decides

/-! ## What is left out -/

/-- The keyword that decides, with what the schema says of null. -/
def onlyKept (kept : String) (members : Members) : Members :=
  members.filter fun m => m.1 == kept || m.1 == "nullable"

theorem member?_onlyKept (kept : String) (members : Members) (name : String) :
    Json.member? (onlyKept kept members) name =
      if name == kept || name == "nullable" then Json.member? members name else none :=
  Json.member?_filter_name (fun name => name == kept || name == "nullable") members name

/-- The keyword that decides does so without the others. -/
theorem find?_onlyKept {members : Members}
    (first : combining.find? (⟨members⟩ : Keywords).has = some kept) :
    combining.find? (⟨onlyKept kept members⟩ : Keywords).has = some kept := by
  obtain ⟨present, place, inside, own, before⟩ := List.find?_eq_some_iff_getElem.mp first
  refine List.find?_eq_some_iff_getElem.mpr ⟨?_, place, inside, own, fun earlier less => ?_⟩
  · rw [← present]
    exact has_congr (by simp [member?_onlyKept])
  · have absent := before earlier less
    by_cases left : (combining[earlier] == kept || combining[earlier] == "nullable") = true
    · rwa [has_congr (k := ⟨members⟩) (by simp only [member?_onlyKept, if_pos left])]
    · have missing : Json.member? (onlyKept kept members) combining[earlier] = none := by
        rw [member?_onlyKept, if_neg left]
      simp [has, Json.hasMember, value?, missing]

/-- What is read does not change if all keywords but the one that decides are left out. -/
theorem reads_onlyKept {members : Members} {node : Node} {kinds : List FindingKind}
    (first : combining.find? (⟨members⟩ : Keywords).has = some kept)
    (reads : (Json.object members).Reads node kinds) :
    ∃ kinds', (Json.object (onlyKept kept members)).Reads node kinds' := by
  obtain ⟨fits, own, more, describes, made, -⟩ := Json.reads_object_iff.mp reads
  rw [keywordMismatch?_eq_none_iff] at fits
  obtain ⟨form, decides⟩ := exists_decides (k := ⟨members⟩) fits
    (List.mem_of_find?_eq_some first) (List.find?_some first)
  have decides' : Decides ⟨onlyKept kept members⟩ kept form :=
    decides.congr (by simp [member?_onlyKept])
  have sameForm : (⟨onlyKept kept members⟩ : Keywords).form = (⟨members⟩ : Keywords).form :=
    (decides'.form_eq (find?_onlyKept first)).trans (decides.form_eq first).symm
  have describes' : Describes Json.Reads ⟨onlyKept kept members⟩ own more := by
    rw [← decides.form_eq first] at decides
    exact decides.describes_congr sameForm describes
  have sameFlag : (⟨onlyKept kept members⟩ : Keywords).flag "nullable" =
      (⟨members⟩ : Keywords).flag "nullable" := by
    simp [flag, value?, member?_onlyKept]
  have fits' : ∀ member ∈ onlyKept kept members, Fits member :=
    fun member inside => fits member (List.mem_of_mem_filter inside)
  exact ⟨_, Json.reads_object_iff.mpr
    ⟨keywordMismatch?_eq_none_iff.mpr fits', own, more, describes', by rw [sameFlag, made], rfl⟩⟩

/-- The keywords that a deciding one shadows, in the order of precedence. A type beside an
enumeration or a constant is no conflict. -/
def ignoredBeside (k : Keywords) (kept : String) : List String :=
  structural.filter fun name =>
    k.has name && name != kept && !(name == "type" && (kept == "enum" || kept == "const"))

/-- The finding on a schema with a deciding keyword lists what is shadowed, if anything is. -/
theorem shadowing_eq (first : combining.find? k.has = some kept) :
    k.shadowing = if k.ignoredBeside kept = [] then []
      else [.shadowedKeywords kept (k.ignoredBeside kept)] := by
  obtain ⟨present, before, after, split, absent⟩ := List.find?_eq_some_iff_append.mp first
  let more := after ++ ["items", "properties", "type"]
  have whole : structural = before ++ kept :: more := by
    rw [structural, split, List.append_assoc, List.cons_append]
  have none : before.filter k.has = [] := by
    rw [List.filter_eq_nil_iff]
    exact fun name inside => by simpa using absent name inside
  have chosen : structural.filter k.has = kept :: more.filter k.has := by
    rw [whole, List.filter_append, none, List.filter_cons_of_pos present, List.nil_append]
  have ignored : k.ignoredBeside kept = (more.filter k.has).filter fun name =>
      !(name == "type" && (kept == "enum" || kept == "const")) := by
    have distinct : kept ∉ more := by
      have nodup := nodup_structural
      rw [whole, List.nodup_append] at nodup
      exact (List.nodup_cons.mp nodup.2.1).1
    rw [ignoredBeside, whole, List.filter_append, List.filter_cons_of_neg (by simp),
      List.filter_filter]
    have noneBefore : before.filter (fun name => k.has name && name != kept &&
        !(name == "type" && (kept == "enum" || kept == "const"))) = [] := by
      rw [List.filter_eq_nil_iff]
      intro name inside
      have missing := absent name inside
      simp_all
    rw [noneBefore, List.nil_append]
    refine List.filter_congr fun name inside => ?_
    have other : (name != kept) = true := by
      rw [bne_iff_ne]
      rintro rfl
      exact distinct inside
    rw [other, Bool.and_true, Bool.and_comm]
  have combines : combining.contains kept = true := by simp [split]
  rw [shadowing, shadowed?, chosen]
  dsimp only
  rw [combines, Bool.true_and, ← ignored]
  cases k.ignoredBeside kept <;> rfl

end Keywords

/-- A schema in which some combining keyword is present is read as the first of them is without the
others, anywhere, except for what it says of null. What is found at its own place is one finding on
all other such keywords, or nothing where there are none. -/
theorem Node.ofJson_first_decides (here : Locus) (members : Members) (kept : String) (node : Node)
    (findings : List Finding)
    (first : Keywords.combining.find? (⟨members⟩ : Keywords).has = some kept)
    (read : ofJson here (.object members) = .ok (node, findings)) :
    (∀ elsewhere : Locus, ∃ found,
      ofJson elsewhere (.object (Keywords.onlyKept kept members)) = .ok (node, found)) ∧
    (findings.filter fun f => f.location == here.pointer) =
      if (⟨members⟩ : Keywords).ignoredBeside kept = [] then []
      else [⟨here.entry, here.pointer,
        .shadowedKeywords kept ((⟨members⟩ : Keywords).ignoredBeside kept)⟩] := by
  constructor
  · intro elsewhere
    have reads := (gives_ofJson_iff here _ node _).mp ⟨findings, read, rfl⟩
    obtain ⟨kinds, reads'⟩ := Keywords.reads_onlyKept first reads
    obtain ⟨found, read', -⟩ := (gives_ofJson_iff elsewhere _ node kinds).mpr reads'
    exact ⟨found, read'⟩
  · obtain ⟨-, own, more, described, -, joined⟩ := ofJson_object_eq_ok_iff.mp read
    have below := ofKeywords_finds (fun part _ here => ofJson_finds here part) own more described
    have elsewhere : (more.filter fun f => f.location == here.pointer) = [] := by
      rw [List.filter_eq_nil_iff]
      exact fun f member => by simpa using (below f member).location_ne
    have here' (kinds : List FindingKind) :
        ((kinds.map here.finding).filter fun f => f.location == here.pointer) =
          kinds.map here.finding := by
      rw [List.filter_eq_self]
      intro f member
      obtain ⟨kind, -, rfl⟩ := List.mem_map.mp member
      exact beq_self_eq_true _
    rw [← joined, List.filter_append, elsewhere, List.append_nil, Keywords.ownFindings, here',
      Keywords.shadowing_eq first]
    split <;> rfl

/-- A constant that is null beside a choice and a type. -/
def crowdedMembers : Members :=
  [("type", .string "string"), ("oneOf", .array [.bool true, .string "unread"]), ("const", .null),
    ("nullable", .bool true)]

/-- Of the three only the constant is read, and the choice is reported. -/
theorem crowded_is_constant :
    Keywords.combining.find? (⟨crowdedMembers⟩ : Keywords).has = some "const" ∧
    Node.ofJson ⟨[], "S", []⟩ (.object crowdedMembers) =
      .ok (.union .anyOf [.enum [.null], .plain .null],
        [⟨"S", [], .shadowedKeywords "const" ["oneOf"]⟩]) ∧
    ∃ found, Node.ofJson ⟨["$defs"], "T", ["items"]⟩
        (.object [("const", .null), ("nullable", .bool true)]) =
      .ok (.union .anyOf [.enum [.null], .plain .null], found) := by
  have first : Keywords.combining.find? (⟨crowdedMembers⟩ : Keywords).has = some "const" := by
    decide
  have read : Node.ofJson ⟨[], "S", []⟩ (.object crowdedMembers) =
      .ok (.union .anyOf [.enum [.null], .plain .null],
        [⟨"S", [], .shadowedKeywords "const" ["oneOf"]⟩]) := by
    rw [Node.ofJson_object_eq_ok_iff]
    refine ⟨rfl, .enum [.null], [], ?_, rfl, rfl⟩
    rw [Node.ofKeywords_eq]
    rfl
  exact ⟨first, read, (Node.ofJson_first_decides _ _ _ _ _ first read).1 _⟩

end DataSchema
