import DataSchema.Proofs.Compilation
import DataSchema.Proofs.DeepEqual.Repeats
import DataSchema.Proofs.Json.WellFormed
import DataSchema.Proofs.Reading.Relation

/-!
What reading reports: that keywords are shadowed, while it goes on, and why a schema is refused,
when it ends. A report stands at a schema or at a part of it, where the segments lead, and is right
about the value that is there. What is found in the parts of a schema stands below it.
-/
namespace DataSchema

/-! ## Reports -/

/-- What a finding tells of the value that it stands at. Reading finds nothing else. -/
def FindingKind.TrueOf (part : Json) : FindingKind → Prop
  | .shadowedKeywords kept ignored => ∃ members, part = .object members ∧
      ∀ name ∈ kept :: ignored, (⟨members⟩ : Keywords).has name = true
  | _ => False

/-- What a refusal tells of the value that it stands at. Reading refuses for nothing else. -/
def Cause.TrueOf (part : Json) : Cause → Prop
  | .notAnObject found => part.kind = found ∧ found ≠ .object ∧ found ≠ .boolean
  | .missingItems => ∃ members, part = .object members ∧
      (Json.member? members "items" = none ∨ Json.member? members "items" = some .null)
  | .emptyEnum => ∃ members, part = .object members ∧
      Json.member? members "enum" = some (.array [])
  | .duplicateEnumValue value => ∃ members values first second, part = .object members ∧
      Json.member? members "enum" = some (.array values) ∧
      Json.RepeatAt values first second ∧ values[second]? = some value
  | .tooFewBranches combinator found => ∃ members branches, part = .object members ∧
      Json.member? members combinator = some (.array branches) ∧ branches.length = found
  | .unknownRequiredProperty property => ∃ members names, part = .object members ∧
      Json.member? members "required" = some (.array names) ∧ .string property ∈ names ∧
      ∀ declared, Json.member? members "properties" = some (.object declared) →
        property ∉ declared.map Prod.fst
  | .invalidReference reference => ∃ members, part = .object members ∧
      Json.member? members "$ref" = some (.string reference)
  | .unresolvedReference _ => False
  | .unguardedCycle _ => False

/-- A finding, or the refusal of a schema of the document. -/
inductive Report where
  | finding (f : Finding)
  | refusal (entry : String) (pointer : List String) (cause : Cause)

def Report.schema : Report → String
  | .finding f => f.schema
  | .refusal entry _ _ => entry

def Report.location : Report → List String
  | .finding f => f.location
  | .refusal _ pointer _ => pointer

def Report.TrueOf (part : Json) : Report → Prop
  | .finding f => f.kind.TrueOf part
  | .refusal _ _ cause => cause.TrueOf part

@[simp] theorem Report.location_finding (f : Finding) : (finding f).location = f.location := rfl

/-- Only refusals of schemas are reports on schemas. -/
def LoadError.report? : LoadError → Option Report
  | .schema ⟨some entry, pointer, cause⟩ => some (.refusal entry pointer cause)
  | _ => none

/-- Work that succeeds reports its findings, and work that is refused reports that. -/
def reports {α : Type} : Except LoadError (α × List Finding) → List Report
  | .ok (_, findings) => findings.map .finding
  | .error e => e.report?.toList

/-- All that is reported by work is of this sort. -/
def Finds {α : Type} (P : Report → Prop) (result : Except LoadError (α × List Finding)) : Prop :=
  ∀ r ∈ reports result, P r

namespace Finds

variable {α β : Type} {P Q : Report → Prop} {result : Except LoadError (α × List Finding)}
  {findings : List Finding}

theorem nothing (x : α) : Finds P (.ok (x, [])) := List.forall_mem_nil _

theorem refuse {here : Locus} {cause : Cause} (right : P (.refusal here.entry here.pointer cause)) :
    Finds P (here.refuse cause : Except LoadError (α × List Finding)) := by
  intro r member
  have only : r ∈ [.refusal here.entry here.pointer cause] := member
  obtain rfl := List.mem_singleton.mp only
  exact right

theorem settle {here : Locus} {made : Except Cause Node}
    (right : ∀ cause, made = .error cause → P (.refusal here.entry here.pointer cause)) :
    Finds P (here.settle made) := by
  cases made with
  | ok node => exact nothing node
  | error cause => exact refuse (right cause rfl)

theorem imp (finds : Finds P result) (step : ∀ r, P r → Q r) : Finds Q result :=
  fun r member => step r (finds r member)

theorem of_ok {x : α} (finds : Finds P (.ok (x, findings))) : ∀ f ∈ findings, P (.finding f) :=
  fun _ member => finds _ (List.mem_map_of_mem member)

theorem noting (own : ∀ f ∈ findings, P (.finding f)) (rest : Finds P result) :
    Finds P (noting findings result) := by
  cases result with
  | error e => exact rest
  | ok outcome =>
    intro r member
    obtain ⟨f, inside, rfl⟩ := List.mem_map.mp member
    rcases List.mem_append.mp inside with first | later
    · exact own f first
    · exact rest.of_ok f later

/-- Work goes on from what has been found. -/
theorem bind {next : α × List Finding → Except LoadError (β × List Finding)}
    (first : Finds P result)
    (rest : ∀ x findings, result = .ok (x, findings) → (∀ f ∈ findings, P (.finding f)) →
      Finds P (next (x, findings))) : Finds P (result.bind next) := by
  cases result with
  | error e => exact first
  | ok outcome => exact rest _ _ rfl first.of_ok

/-- Work that leaves the findings as they are. -/
theorem map {f : α × List Finding → β × List Finding} (first : Finds P result)
    (keeps : ∀ outcome, (f outcome).2 = outcome.2) : Finds P (result.map f) := by
  cases result with
  | error e => exact first
  | ok outcome =>
    intro r member
    have inside : r ∈ (f outcome).2.map .finding := member
    rw [keeps] at inside
    exact first r inside

end Finds

/-! ## Places -/

/-- A segment leads from a value to a part of it. -/
inductive Json.PartAt : Json → String → Json → Prop
  | member {members : Members} {name : String} {part : Json} (inside : (name, part) ∈ members) :
      PartAt (.object members) name part
  | item {items : List Json} {place : Nat} {part : Json} (there : items[place]? = some part) :
      PartAt (.array items) (toString place) part

/-- The report stands at a value that is here, or at a part of it, and is right about that. -/
inductive Locus.Reaches : Locus → Json → Report → Prop
  | own {here : Locus} {v : Json} {r : Report} (schema : r.schema = here.entry)
      (location : r.location = here.pointer) (right : r.TrueOf v) : Reaches here v r
  | deeper {here : Locus} {v : Json} {segment : String} {part : Json} {r : Report}
      (step : v.PartAt segment part) (there : Reaches (here.within segment) part r) :
      Reaches here v r

/-- The report stands at a part of a value that is here. -/
def Locus.Above (here : Locus) (v : Json) (r : Report) : Prop :=
  ∃ segment part, v.PartAt segment part ∧ (here.within segment).Reaches part r

/-- The report stands at a part of a value that is here, or is the refusal of the value. -/
def Locus.Takes (here : Locus) (v : Json) (r : Report) : Prop :=
  here.Above v r ∨ ∃ cause, r = .refusal here.entry here.pointer cause ∧ cause.TrueOf v

namespace Locus

variable {here : Locus} {v : Json} {r : Report}

theorem Above.reaches (above : here.Above v r) : here.Reaches v r := by
  obtain ⟨segment, part, step, there⟩ := above
  exact .deeper step there

theorem Takes.reaches (takes : here.Takes v r) : here.Reaches v r := by
  rcases takes with above | ⟨cause, rfl, right⟩
  · exact above.reaches
  · exact .own rfl rfl right

theorem takes_refusal {cause : Cause} (right : cause.TrueOf v) :
    here.Takes v (.refusal here.entry here.pointer cause) :=
  .inr ⟨cause, rfl, right⟩

theorem Reaches.location_eq (reaches : here.Reaches v r) :
    ∃ rest, r.location = here.pointer ++ rest := by
  induction reaches with
  | own _ location _ => exact ⟨[], by rw [location, List.append_nil]⟩
  | @deeper _ _ segment _ _ _ _ ih =>
    obtain ⟨rest, location⟩ := ih
    exact ⟨segment :: rest, by simp [location, within]⟩

theorem Reaches.exists_right (reaches : here.Reaches v r) : ∃ part, r.TrueOf part := by
  induction reaches with
  | own _ _ right => exact ⟨_, right⟩
  | deeper _ _ ih => exact ih

/-- What stands below does not stand here. -/
theorem Above.location_ne (above : here.Above v r) : r.location ≠ here.pointer := by
  obtain ⟨segment, part, -, there⟩ := above
  obtain ⟨rest, location⟩ := there.location_eq
  simp [location, within]

end Locus

theorem Finds.takes {α : Type} {here : Locus} {v : Json}
    {result : Except LoadError (α × List Finding)} (finds : Finds (here.Above v) result) :
    Finds (here.Takes v) result :=
  finds.imp fun _ => Or.inl

/-! ## Keywords -/

namespace Keywords

variable {k : Keywords} {name : String}

theorem partAt_of_value? {part : Json} (given : k.value? name = some part) :
    (Json.object k.members).PartAt name part :=
  .member (Json.mem_of_member? (member?_of_value? given))

theorem absent_or_null (absent : k.value? name = none) :
    Json.member? k.members name = none ∨ Json.member? k.members name = some .null := by
  unfold value? at absent
  split at absent
  · next null => exact .inr null
  · exact .inl absent

/-- A list of values is given by an enumeration, or is a constant. -/
theorem value?_of_form_listed {values : List Json} (form : k.form = .listed values) :
    k.value? "enum" = some (.array values) ∨ ∃ value, values = [value] := by
  rcases keeps_of_form form with given | ⟨value, -, single⟩
  · exact .inl given
  · exact .inr ⟨value, single⟩

theorem member?_of_form_reference {target : String} (form : k.form = .reference target) :
    Json.member? k.members "$ref" = some (.string target) := by
  have kept : k.text? "$ref" = some target := keeps_of_form form
  unfold text? at kept
  split at kept
  · next value =>
    cases kept
    exact member?_of_value? value
  · cases kept

/-- A name that is required is listed, or is that of a declared member. -/
theorem listed_of_mem_required (required : name ∈ k.required)
    (undeclared : name ∉ k.properties.map Prod.fst) :
    ∃ names, Json.member? k.members "required" = some (.array names) ∧ .string name ∈ names := by
  rw [Keywords.required, List.mem_eraseDups, List.mem_append] at required
  rcases required with listed | asking
  · split at listed
    · next names given =>
      refine ⟨names, member?_of_value? given, ?_⟩
      obtain ⟨text, inside, own⟩ := List.mem_filterMap.mp listed
      cases text <;> cases own
      exact inside
    · cases listed
  · obtain ⟨member, inside, rfl⟩ := List.mem_map.mp asking
    exact absurd (List.mem_map_of_mem (List.mem_of_mem_filter inside)) undeclared

end Keywords

/-! ## Refusals -/

section Refusals

variable {k : Keywords} {cause : Cause}

theorem Node.right_of_enumOf {values : List Json} (form : k.form = .listed values)
    (refused : enumOf values = .error cause) : cause.TrueOf (.object k.members) := by
  unfold enumOf at refused
  split at refused
  · next empty =>
    obtain rfl := List.isEmpty_iff.mp empty
    cases refused
    rcases Keywords.value?_of_form_listed form with given | ⟨value, single⟩
    · exact ⟨_, rfl, Keywords.member?_of_value? given⟩
    · cases single
  · split at refused
    · next value found =>
      cases refused
      obtain ⟨first, second, twice, there⟩ := Json.repeated?_eq_some_iff.mp found
      rcases Keywords.value?_of_form_listed form with given | ⟨value, rfl⟩
      · exact ⟨_, _, first, second, rfl, Keywords.member?_of_value? given, twice.repeats, there⟩
      · have bound := twice.repeats.lt_length
        have order := twice.repeats.1
        rw [List.length_singleton] at bound
        omega
    · cases refused

theorem Node.right_of_branchesOf {combinator : String} {branches : List Json} {nodes : List Node}
    {join : List Node → Node} (given : k.value? combinator = some (.array branches))
    (same : branches.length = nodes.length)
    (refused : (branchesOf combinator nodes).map join = .error cause) :
    cause.TrueOf (.object k.members) := by
  unfold branchesOf at refused
  split at refused
  · cases refused
    exact ⟨_, branches, rfl, Keywords.member?_of_value? given, same⟩
  · cases refused

theorem Node.right_of_objectOf {properties : List (String × Node)} {count : CountRange}
    {additional : Additional Node} (names : properties.map Prod.fst = k.properties.map Prod.fst)
    (refused : objectOf properties k.required count additional = .error cause) :
    cause.TrueOf (.object k.members) := by
  unfold objectOf at refused
  split at refused
  · next name found =>
    cases refused
    have missing : (!properties.any (·.1 == name)) = true :=
      @List.find?_some _ (fun name => !properties.any (·.1 == name)) _ _ found
    rw [Bool.not_eq_true', List.any_eq_false] at missing
    have undeclared : name ∉ k.properties.map Prod.fst := by
      rw [← names]
      intro inside
      obtain ⟨property, among, same⟩ := List.mem_map.mp inside
      exact missing property among (beq_iff_eq.mpr same)
    obtain ⟨listed, given, inside⟩ :=
      Keywords.listed_of_mem_required (List.mem_of_find?_eq_some found) undeclared
    refine ⟨_, listed, rfl, given, inside, fun declared there => ?_⟩
    have value : k.value? "properties" = some (.object declared) := by
      rw [Keywords.value?, there]
    rwa [Keywords.properties, value] at undeclared
  · cases refused

end Refusals

/-! ## Readers -/

namespace Node

variable {here : Locus} {k : Keywords}

/-- Branches from one of a list on are read at their places in the list. -/
theorem ofBranches_finds {all branches : List Json} {index : Nat}
    (later : all.drop index = branches)
    (parts : ∀ branch ∈ branches, ∀ here : Locus,
      Finds (here.Reaches branch) (ofJson here branch)) :
    Finds (here.Above (.array all)) (ofBranches here index branches) := by
  induction branches generalizing index with
  | nil =>
    rw [ofBranches]
    exact .nothing []
  | cons branch rest ih =>
    rw [ofBranches]
    have there : all[index]? = some branch := by rw [← List.head?_drop, later]; rfl
    have others : all.drop (index + 1) = rest := by rw [← List.tail_drop, later]; rfl
    have first : Finds (here.Above (.array all)) (ofJson (here.within (toString index)) branch) :=
      (parts branch (by simp) _).imp fun r reaches => ⟨_, _, .item there, reaches⟩
    have more := ih others fun other member => parts other (by simp [member])
    exact first.bind fun node findings _ own => .noting own (more.map fun _ => rfl)

theorem ofProperties_finds {all properties : Members} (among : properties ⊆ all)
    (parts : ∀ property ∈ properties, ∀ here : Locus,
      Finds (here.Reaches property.2) (ofJson here property.2)) :
    Finds (here.Above (.object all)) (ofProperties here properties) := by
  induction properties with
  | nil =>
    rw [ofProperties]
    exact .nothing []
  | cons property rest ih =>
    rw [ofProperties]
    obtain ⟨inside, others⟩ := List.cons_subset.mp among
    have first : Finds (here.Above (.object all)) (ofJson (here.within property.1) property.2) :=
      (parts property (by simp) _).imp fun r reaches => ⟨_, _, .member inside, reaches⟩
    have more := ih others fun other member => parts other (by simp [member])
    exact first.bind fun node findings _ own => .noting own (more.map fun _ => rfl)

theorem length_of_ofBranches {index : Nat} {branches : List Json} {nodes : List Node}
    {findings : List Finding} (read : ofBranches here index branches = .ok (nodes, findings)) :
    branches.length = nodes.length :=
  ((gives_ofBranches_iff (fun branch _ => (gives_ofJson_iff · branch)) index).mp
    ⟨findings, read, rfl⟩).length_eq

theorem names_of_ofProperties {members : Members} {properties : List (String × Node)}
    {findings : List Finding} (read : ofProperties here members = .ok (properties, findings)) :
    properties.map Prod.fst = members.map Prod.fst :=
  ((gives_ofProperties_iff fun member _ => (gives_ofJson_iff · member.2)).mp
    ⟨findings, read, rfl⟩).names_eq

variable (parts : ∀ part, sizeOf part < sizeOf k.members →
  ∀ here : Locus, Finds (here.Reaches part) (ofJson here part))
include parts

/-- What is found in the value of a keyword stands below the schema. -/
theorem value_finds {name : String} {part : Json} (given : k.value? name = some part) :
    Finds (here.Above (.object k.members)) (ofJson (here.within name) part) :=
  (parts part (Keywords.sizeOf_value?_lt given) _).imp fun _ reaches =>
    ⟨name, part, Keywords.partAt_of_value? given, reaches⟩

theorem listed_finds {name : String} {branches : List Json}
    (given : k.value? name = some (.array branches)) :
    Finds (here.Above (.object k.members)) (ofBranches (here.within name) 0 branches) := by
  have smaller := Keywords.sizeOf_items_lt given
  have each : Finds ((here.within name).Above (.array branches))
      (ofBranches (here.within name) 0 branches) :=
    ofBranches_finds rfl fun branch inside =>
      parts branch (Nat.lt_trans (List.sizeOf_lt_of_mem inside) smaller)
  exact each.imp fun _ above => ⟨name, _, Keywords.partAt_of_value? given, above.reaches⟩

theorem declared_finds : Finds (here.Above (.object k.members))
    (ofProperties (here.within "properties") k.properties) := by
  have each : Finds ((here.within "properties").Above (.object k.properties))
      (ofProperties (here.within "properties") k.properties) :=
    ofProperties_finds (List.Subset.refl _) fun property inside =>
      parts property.2 (Keywords.sizeOf_property_lt inside)
  unfold Keywords.properties at each ⊢
  split at each
  · next declared given =>
    exact each.imp fun _ above => ⟨_, _, Keywords.partAt_of_value? given, above.reaches⟩
  · rw [ofProperties]
    exact .nothing []

theorem additionalOf_finds : Finds (here.Above (.object k.members)) (additionalOf here k) := by
  rw [additionalOf]
  split
  · exact .nothing _
  · exact .nothing _
  · exact .nothing _
  · next schema _ _ given => exact (value_finds parts given).map fun _ => rfl

theorem ofType_finds (token : String) :
    Finds (here.Takes (.object k.members)) (ofType here k token) := by
  rw [ofType]
  split
  · exact .nothing _
  · split
    · next absent => exact .refuse (.inr ⟨_, rfl, _, rfl, Keywords.absent_or_null absent⟩)
    · next items given => exact (value_finds parts given).takes.map fun _ => rfl
  · exact (declared_finds parts).takes.bind fun properties findings read own =>
      (additionalOf_finds parts).takes.bind fun additional more _ ownToo =>
        .noting (List.forall_mem_append.mpr ⟨own, ownToo⟩) (.settle fun cause refused =>
          Locus.takes_refusal (right_of_objectOf (names_of_ofProperties read) refused))
  · exact .nothing _

theorem ofTypes_finds (tokens : List String) :
    Finds (here.Takes (.object k.members)) (ofTypes here k tokens) := by
  induction tokens with
  | nil =>
    rw [ofTypes]
    exact .nothing []
  | cons token rest ih =>
    rw [ofTypes]
    exact (ofType_finds parts token).bind fun node findings _ own =>
      .noting own (ih.map fun _ => rfl)

/-- What is reported of keywords stands at a part of the schema, or is its refusal. -/
theorem ofKeywords_takes : Finds (here.Takes (.object k.members)) (ofKeywords here k) := by
  rw [ofKeywords_eq]
  cases form : k.form with
  | reference target =>
    dsimp only
    split
    · exact .nothing _
    · exact .refuse (Locus.takes_refusal ⟨_, rfl, Keywords.member?_of_form_reference form⟩)
  | listed values =>
    exact .settle fun cause refused => Locus.takes_refusal (right_of_enumOf form refused)
  | free => exact .nothing _
  | negation inner =>
    exact (value_finds parts (Keywords.value?_of_form_negation form)).takes.map fun _ => rfl
  | typed tokens => exact (ofTypes_finds parts tokens).map fun _ => rfl
  | choice mode branches =>
    have given := Keywords.value?_of_form_choice form
    exact (listed_finds parts given).takes.bind fun nodes findings read own =>
      .noting own (.settle fun cause refused =>
        Locus.takes_refusal (right_of_branchesOf given (length_of_ofBranches read) refused))
  | conjunction branches =>
    have given := Keywords.value?_of_form_conjunction form
    exact (listed_finds parts given).takes.bind fun nodes findings read own =>
      .noting own (.settle fun cause refused =>
        Locus.takes_refusal (right_of_branchesOf given (length_of_ofBranches read) refused))

/-- What is found in what keywords hold stands below. -/
theorem ofKeywords_finds (node : Node) (findings : List Finding)
    (described : ofKeywords here k = .ok (node, findings)) :
    ∀ f ∈ findings, here.Above (.object k.members) (.finding f) := by
  intro f member
  have takes : Finds (here.Takes (.object k.members)) (ofKeywords here k) := ofKeywords_takes parts
  rw [described] at takes
  rcases takes.of_ok f member with above | ⟨cause, refusal, -⟩
  · exact above
  · cases refusal

end Node

/-- The finding on keywords that are shadowed in a schema itself. -/
def Keywords.ownFindings (here : Locus) (k : Keywords) : List Finding :=
  k.shadowing.map here.finding

theorem Keywords.has_of_shadowed? {k : Keywords} {kept : String} {ignored : List String}
    (shadowed : k.shadowed? = some (kept, ignored)) :
    ∀ name ∈ kept :: ignored, k.has name = true := by
  unfold shadowed? at shadowed
  split at shadowed
  · cases shadowed
  · next first others chosen =>
    dsimp only at shadowed
    split at shadowed
    · cases shadowed
      intro name member
      have among : name ∈ structural.filter k.has := by
        rw [chosen]
        exact List.cons_subset_cons _ List.filter_sublist.subset member
      exact (List.mem_filter.mp among).2
    · cases shadowed

theorem Keywords.ownFindings_reach (here : Locus) (k : Keywords) :
    ∀ f ∈ k.ownFindings here, here.Reaches (.object k.members) (.finding f) := by
  simp only [ownFindings, shadowing, List.mem_map, Option.mem_toList, forall_exists_index, and_imp]
  rintro f kind ⟨kept, ignored⟩ shadowed rfl rfl
  exact .own rfl rfl ⟨_, rfl, has_of_shadowed? shadowed⟩

/-- A schema object is what its keywords make of it, and its own findings come first. -/
theorem Node.ofJson_object {here : Locus} {members : Members}
    (fits : keywordMismatch? members = none) : ofJson here (.object members) =
      (noting ((⟨members⟩ : Keywords).ownFindings here) (ofKeywords here ⟨members⟩)).map
        fun (node, findings) =>
          (if (⟨members⟩ : Keywords).flag "nullable" then node.orNull else node, findings) := by
  rw [ofJson, fits]
  simp only [Keywords.ownFindings, Keywords.shadowing, List.map_map, Function.comp_def]

theorem Node.ofJson_object_eq_ok_iff {here : Locus} {members : Members} {node : Node}
    {findings : List Finding} :
    ofJson here (.object members) = .ok (node, findings) ↔
      keywordMismatch? members = none ∧ ∃ own more, ofKeywords here ⟨members⟩ = .ok (own, more) ∧
        (if (⟨members⟩ : Keywords).flag "nullable" then own.orNull else own) = node ∧
        (⟨members⟩ : Keywords).ownFindings here ++ more = findings := by
  cases wrong : keywordMismatch? members with
  | some found => simp [ofJson, wrong]
  | none =>
    rw [ofJson_object wrong]
    cases ofKeywords here ⟨members⟩ with
    | error e => simp [noting, Except.map]
    | ok outcome => simp [noting, Except.map, Prod.ext_iff]

/-- All that is reported of a schema stands at the schema or at a part of it, and is right. -/
theorem Node.ofJson_finds (here : Locus) (v : Json) : Finds (here.Reaches v) (ofJson here v) := by
  have refused {v : Json} (object : v.kind ≠ .object) (boolean : v.kind ≠ .boolean) :
      Finds (here.Reaches v)
        (here.refuse (.notAnObject v.kind) : Except LoadError (Node × List Finding)) :=
    .refuse (.own rfl rfl ⟨rfl, object, boolean⟩)
  cases v with
  | object members =>
    have parts (part : Json) (smaller : sizeOf part < sizeOf members) (here : Locus) :
        Finds (here.Reaches part) (ofJson here part) := ofJson_finds here part
    have own := Keywords.ownFindings_reach here ⟨members⟩
    have rest : Finds (here.Reaches (.object members)) (ofKeywords here ⟨members⟩) :=
      (ofKeywords_takes (k := ⟨members⟩) parts).imp fun _ => Locus.Takes.reaches
    cases wrong : keywordMismatch? members with
    | some found =>
      rw [ofJson, wrong]
      exact List.forall_mem_nil _
    | none =>
      rw [ofJson_object wrong]
      exact .map (.noting own rest) fun _ => rfl
  | bool b => cases b <;> simpa [ofJson] using .nothing _
  | null => simpa [ofJson, Json.kind] using @refused .null
  | number n => simpa [ofJson, Json.kind] using @refused (.number n)
  | string s => simpa [ofJson, Json.kind] using @refused (.string s)
  | array items => simpa [ofJson, Json.kind] using @refused (.array items)
termination_by sizeOf v
decreasing_by
  simp only [Json.object.sizeOf_spec]
  omega

/-! ## Documents -/

namespace Document

/-- What is reported of the schemas of a document stands in one of them. -/
theorem entriesOf_finds (root : List String) (schemas : Members) :
    Finds (fun r => ∃ member ∈ schemas, (⟨root, member.1, []⟩ : Locus).Reaches member.2 r)
      (entriesOf root schemas) := by
  induction schemas with
  | nil => exact .nothing []
  | cons member rest ih =>
    have first := (Node.ofJson_finds ⟨root, member.1, []⟩ member.2).imp fun r reaches =>
      (⟨member, List.mem_cons_self, reaches⟩ : ∃ other ∈ member :: rest,
        (⟨root, other.1, []⟩ : Locus).Reaches other.2 r)
    have others := ih.imp fun r ⟨other, inside, reaches⟩ =>
      (⟨other, List.mem_cons_of_mem _ inside, reaches⟩ : ∃ other ∈ member :: rest,
        (⟨root, other.1, []⟩ : Locus).Reaches other.2 r)
    exact first.bind fun node findings _ own => .noting own (others.map fun _ => rfl)

/-- The report stands at the schema of an entry of the source document or at a part of it, and is
right about what is there. -/
def Reported (source : Json) (r : Report) : Prop :=
  ∃ root path schemas, source = .object root ∧ sources root = .ok (path, schemas) ∧
    ∃ member ∈ schemas, (⟨path, member.1, []⟩ : Locus).Reaches member.2 r

/-- What holds no schemas is refused, because something is no object. -/
theorem refusal_of_sources {root : Members} {e : LoadError} (refused : sources root = .error e) :
    ∃ kind, e = .schema ⟨none, [], .notAnObject kind⟩ := by
  have ofMembers {found : Option Json} {e : LoadError} (refused : membersOf found = .error e) :
      ∃ kind, e = .schema ⟨none, [], .notAnObject kind⟩ := by
    unfold membersOf at refused
    split at refused <;> cases refused
    exact ⟨_, rfl⟩
  unfold sources at refused
  dsimp only at refused
  split at refused
  · rcases steps_of_error refused with first | ⟨components, -, rest⟩
    · exact ofMembers first
    · rcases steps_of_error rest with second | ⟨_, -, rest⟩
      · exact ofMembers second
      · cases rest
  · split at refused
    · rcases steps_of_error refused with first | ⟨components, -, rest⟩
      · exact ofMembers first
      · rcases steps_of_error rest with second | ⟨_, -, rest⟩
        · exact ofMembers second
        · cases rest
    · cases refused

/-- So there is no report on any schema. -/
theorem report?_of_sources {root : Members} {e : LoadError} (refused : sources root = .error e) :
    e.report? = none := by
  obtain ⟨kind, rfl⟩ := refusal_of_sources refused
  rfl

theorem reported_of_error {source : Json} {e : LoadError} {r : Report}
    (refused : ofJson source = .error e) (reports : e.report? = some r) : Reported source r := by
  cases source with
  | object root =>
    unfold ofJson at refused
    rcases steps_of_error refused with first | ⟨found, located, rest⟩
    · rw [report?_of_sources first] at reports
      cases reports
    · rcases steps_of_error rest with entries | ⟨_, -, rest⟩
      · refine ⟨root, found.1, found.2, rfl, located, entriesOf_finds found.1 found.2 r ?_⟩
        rw [entries]
        exact Option.mem_toList.mpr reports
      · cases rest
  | _ =>
    cases refused
    cases reports

theorem reported_of_ok {source : Json} {d : Document} (read : ofJson source = .ok d) :
    ∀ f ∈ d.findings, Reported source (.finding f) := by
  cases source with
  | object root =>
    unfold ofJson at read
    obtain ⟨found, located, read⟩ := steps_of_ok read
    obtain ⟨outcome, entries, read⟩ := steps_of_ok read
    cases read
    intro f member
    have finds := entriesOf_finds found.1 found.2
    rw [entries] at finds
    exact ⟨root, found.1, found.2, rfl, located, finds.of_ok f member⟩
  | _ => cases read

/-- All that is found in a source document is that keywords are shadowed. -/
theorem findings_of_ofJson {d : Document} {source : Json} (read : ofJson source = .ok d) :
    ∀ f ∈ d.findings, ∃ kept ignored, f.kind = .shadowedKeywords kept ignored := by
  intro f member
  obtain ⟨_, _, _, _, _, _, _, reaches⟩ := reported_of_ok read f member
  obtain ⟨part, right⟩ := reaches.exists_right
  obtain ⟨schema, location, kind⟩ := f
  cases kind with
  | shadowedKeywords kept ignored => exact ⟨kept, ignored, rfl⟩
  | _ => cases right

end Document
end DataSchema
