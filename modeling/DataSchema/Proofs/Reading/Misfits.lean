import DataSchema.Proofs.Forms.Merging
import DataSchema.Proofs.Reading.Located

/-!
Keywords whose values have the wrong form. Reading ends at the first of them with a path to it. The
segments after the root lead from the schemas of the document to the value that the mismatch is
about, and the root says where the source has these schemas, except that it is `$defs` for those of
`definitions` as well. A schema is read alike whatever the root is.
-/
namespace DataSchema

/-! ## Misfits -/

/-- The value has not the form that the keyword asks for. -/
def Misfit (keyword : String) (value : Json) (mismatch : Mismatch) : Prop :=
  ∃ form, keywordForm? keyword = some form ∧ form.mismatch? value = some mismatch

theorem exists_misfit {members : Members} {keyword : String} {mismatch : Mismatch}
    (wrong : keywordMismatch? members = some (keyword, mismatch)) :
    ∃ value, (keyword, value) ∈ members ∧ Misfit keyword value mismatch := by
  induction members with
  | nil => cases wrong
  | cons member rest ih =>
    obtain ⟨name, value⟩ := member
    rw [keywordMismatch?] at wrong
    split at wrong
    · next found =>
      cases wrong
      exact ⟨value, List.mem_cons_self, Option.bind_eq_some_iff.mp found⟩
    · obtain ⟨other, inside, misfit⟩ := ih wrong
      exact ⟨other, List.mem_cons_of_mem _ inside, misfit⟩

/-- The segments lead from a value to a keyword whose value is a misfit. -/
inductive Json.MisfitAt : Json → List String → Mismatch → Prop
  | own {members : Members} {keyword : String} {value : Json} {mismatch : Mismatch}
      (inside : (keyword, value) ∈ members) (misfit : Misfit keyword value mismatch) :
      MisfitAt (.object members) [keyword] mismatch
  | deeper {v : Json} {segment : String} {part : Json} {rest : List String} {mismatch : Mismatch}
      (step : v.PartAt segment part) (there : MisfitAt part rest mismatch) :
      MisfitAt v (segment :: rest) mismatch

/-- In a value that JSON has, the segments are resolved to the misfit. -/
theorem Json.MisfitAt.exists_resolve? {v : Json} {segments : List String} {mismatch : Mismatch}
    (stands : v.MisfitAt segments mismatch) (wellFormed : v.WellFormed) :
    ∃ above keyword value, segments = above ++ [keyword] ∧
      Json.Pointer.resolve? v segments = some value ∧ Misfit keyword value mismatch := by
  induction stands with
  | @own members keyword value _ inside misfit =>
    refine ⟨[], keyword, value, rfl, ?_, misfit⟩
    rw [Pointer.resolve?, Pointer.step?_object, member?_of_mem wellFormed.names inside]
    rfl
  | @deeper v segment part rest _ step _ ih =>
    obtain ⟨above, keyword, value, rfl, leads, misfit⟩ := ih (step.wellFormed wellFormed)
    refine ⟨segment :: above, keyword, value, rfl, ?_, misfit⟩
    rw [Pointer.resolve?, step.step?_eq wellFormed, Option.bind_some, leads]

namespace Locus

/-- The place under a longer root. -/
def under (root : List String) (here : Locus) : Locus := { here with root := root ++ here.root }

/-- The path leads to a misfit in the value that is here. -/
def Misfits (here : Locus) (v : Json) (path : List String) (mismatch : Mismatch) : Prop :=
  ∃ segments, path = here.root ++ here.entry :: here.pointer ++ segments ∧
    v.MisfitAt segments mismatch

variable {here : Locus} {v part : Json} {segment : String} {path : List String}
  {mismatch : Mismatch}

theorem Misfits.of_part (step : v.PartAt segment part)
    (misfits : (here.within segment).Misfits part path mismatch) :
    here.Misfits v path mismatch := by
  obtain ⟨segments, rfl, there⟩ := misfits
  exact ⟨segment :: segments, by simp [within], .deeper step there⟩

theorem misfits_keywordPath {members : Members} {keyword : String}
    (wrong : keywordMismatch? members = some (keyword, mismatch)) :
    here.Misfits (.object members) (here.keywordPath keyword) mismatch := by
  obtain ⟨value, inside, misfit⟩ := exists_misfit wrong
  exact ⟨[keyword], by simp [keywordPath], .own inside misfit⟩

end Locus

/-! ## Results under a root -/

/-- The second result is the first one under a root: the same, but that the path to a misfit begins
with the root. Such paths are of a sort. -/
inductive Moved {α : Type} (root : List String) (P : List String → Mismatch → Prop) :
    Except LoadError α → Except LoadError α → Prop
  | ok (x : α) : Moved root P (.ok x) (.ok x)
  | refused (e : SchemaError) : Moved root P (.error (.schema e)) (.error (.schema e))
  | misfit {path : List String} {mismatch : Mismatch} (right : P path mismatch) :
      Moved root P (.error (.keyword path mismatch)) (.error (.keyword (root ++ path) mismatch))

namespace Moved

variable {α β : Type} {root : List String} {P Q : List String → Mismatch → Prop}

theorem imp {result result' : Except LoadError α} (moved : Moved root P result result')
    (step : ∀ path mismatch, P path mismatch → Q path mismatch) : Moved root Q result result' := by
  cases moved with
  | ok x => exact .ok x
  | refused e => exact .refused e
  | misfit right => exact .misfit (step _ _ right)

theorem bind {result result' : Except LoadError α} {next next' : α → Except LoadError β}
    (moved : Moved root P result result') (rest : ∀ x, Moved root P (next x) (next' x)) :
    Moved root P (result.bind next) (result'.bind next') := by
  cases moved with
  | ok x => exact rest x
  | refused e => exact .refused e
  | misfit right => exact .misfit right

theorem map {result result' : Except LoadError α} (moved : Moved root P result result')
    (f : α → β) : Moved root P (result.map f) (result'.map f) := by
  cases moved with
  | ok x => exact .ok (f x)
  | refused e => exact .refused e
  | misfit right => exact .misfit right

theorem noting {result result' : Except LoadError (α × List Finding)}
    (moved : Moved root P result result') (findings : List Finding) :
    Moved root P (noting findings result) (noting findings result') := by
  cases moved with
  | ok x => exact .ok _
  | refused e => exact .refused e
  | misfit right => exact .misfit right

theorem settle (here : Locus) (made : Except Cause Node) :
    Moved root P (here.settle made) ((here.under root).settle made) := by
  cases made with
  | ok node => exact .ok _
  | error cause => exact .refused _

theorem eq_ok {result' : Except LoadError α} {x : α} (moved : Moved root P (.ok x) result') :
    result' = .ok x := by
  cases moved
  rfl

theorem eq_refused {result' : Except LoadError α} {e : SchemaError}
    (moved : Moved root P (.error (.schema e)) result') : result' = .error (.schema e) := by
  cases moved
  rfl

theorem eq_misfit {result' : Except LoadError α} {path : List String} {mismatch : Mismatch}
    (moved : Moved root P (.error (.keyword path mismatch)) result') :
    result' = .error (.keyword (root ++ path) mismatch) ∧ P path mismatch := by
  cases moved with
  | misfit right => exact ⟨rfl, right⟩

/-- A path under the root is that of a misfit. -/
theorem of_error {result : Except LoadError α} {path : List String} {mismatch : Mismatch}
    (moved : Moved root P result (.error (.keyword path mismatch))) :
    ∃ own, path = root ++ own ∧ P own mismatch := by
  cases moved with
  | misfit right => exact ⟨_, rfl, right⟩

end Moved

/-! ## Readers -/

namespace Node

variable {root : List String} {here : Locus} {k : Keywords}

theorem ofBranches_moved {all branches : List Json} {index : Nat}
    (later : all.drop index = branches)
    (parts : ∀ branch ∈ branches, ∀ here : Locus, Moved root (here.Misfits branch)
      (ofJson here branch) (ofJson (here.under root) branch)) :
    Moved root (here.Misfits (.array all)) (ofBranches here index branches)
      (ofBranches (here.under root) index branches) := by
  induction branches generalizing index with
  | nil =>
    rw [ofBranches, ofBranches]
    exact .ok _
  | cons branch rest ih =>
    rw [ofBranches, ofBranches]
    have there : all[index]? = some branch := by rw [← List.head?_drop, later]; rfl
    have others : all.drop (index + 1) = rest := by rw [← List.tail_drop, later]; rfl
    have first := (parts branch (by simp) (here.within (toString index))).imp
      fun _ _ => Locus.Misfits.of_part (.item there)
    have more := ih others fun other member => parts other (by simp [member])
    exact first.bind fun outcome => (more.map _).noting _

theorem ofProperties_moved {all properties : Members} (among : properties ⊆ all)
    (parts : ∀ property ∈ properties, ∀ here : Locus, Moved root (here.Misfits property.2)
      (ofJson here property.2) (ofJson (here.under root) property.2)) :
    Moved root (here.Misfits (.object all)) (ofProperties here properties)
      (ofProperties (here.under root) properties) := by
  induction properties with
  | nil =>
    rw [ofProperties, ofProperties]
    exact .ok _
  | cons property rest ih =>
    rw [ofProperties, ofProperties]
    obtain ⟨inside, others⟩ := List.cons_subset.mp among
    have first := (parts property (by simp) (here.within property.1)).imp
      fun _ _ => Locus.Misfits.of_part (.member inside)
    have more := ih others fun other member => parts other (by simp [member])
    exact first.bind fun outcome => (more.map _).noting _

variable (parts : ∀ part, sizeOf part < sizeOf k.members → ∀ here : Locus,
  Moved root (here.Misfits part) (ofJson here part) (ofJson (here.under root) part))
include parts

/-- A misfit in the value of a keyword stands in the schema. -/
theorem value_moved {name : String} {part : Json} (given : k.value? name = some part) :
    Moved root (here.Misfits (.object k.members)) (ofJson (here.within name) part)
      (ofJson ((here.under root).within name) part) :=
  (parts part (Keywords.sizeOf_value?_lt given) (here.within name)).imp
    fun _ _ => Locus.Misfits.of_part (Keywords.partAt_of_value? given)

theorem listed_moved {name : String} {branches : List Json}
    (given : k.value? name = some (.array branches)) :
    Moved root (here.Misfits (.object k.members)) (ofBranches (here.within name) 0 branches)
      (ofBranches ((here.under root).within name) 0 branches) := by
  have smaller := Keywords.sizeOf_items_lt given
  have each : Moved root ((here.within name).Misfits (.array branches))
      (ofBranches (here.within name) 0 branches)
      (ofBranches ((here.within name).under root) 0 branches) :=
    ofBranches_moved rfl fun branch inside =>
      parts branch (Nat.lt_trans (List.sizeOf_lt_of_mem inside) smaller)
  exact each.imp fun _ _ => Locus.Misfits.of_part (Keywords.partAt_of_value? given)

theorem declared_moved : Moved root (here.Misfits (.object k.members))
    (ofProperties (here.within "properties") k.properties)
    (ofProperties ((here.under root).within "properties") k.properties) := by
  have each : Moved root ((here.within "properties").Misfits (.object k.properties))
      (ofProperties (here.within "properties") k.properties)
      (ofProperties ((here.within "properties").under root) k.properties) :=
    ofProperties_moved (List.Subset.refl _) fun property inside =>
      parts property.2 (Keywords.sizeOf_property_lt inside)
  unfold Keywords.properties at each ⊢
  split at each
  · next declared given =>
    exact each.imp fun _ _ => Locus.Misfits.of_part (Keywords.partAt_of_value? given)
  · rw [ofProperties, ofProperties]
    exact .ok _

theorem additionalOf_moved : Moved root (here.Misfits (.object k.members))
    (additionalOf here k) (additionalOf (here.under root) k) := by
  rw [additionalOf, additionalOf]
  split
  · exact .ok _
  · exact .ok _
  · exact .ok _
  · next schema _ _ given => exact (value_moved parts given).map _

theorem ofType_moved (token : String) : Moved root (here.Misfits (.object k.members))
    (ofType here k token) (ofType (here.under root) k token) := by
  rw [ofType, ofType]
  split
  · exact .ok _
  · split
    · exact .refused _
    · next items given => exact (value_moved parts given).map _
  · exact (declared_moved parts).bind fun _ => (additionalOf_moved parts).bind fun _ =>
      .noting (.settle here _) _
  · exact .ok _

theorem ofTypes_moved (tokens : List String) : Moved root (here.Misfits (.object k.members))
    (ofTypes here k tokens) (ofTypes (here.under root) k tokens) := by
  induction tokens with
  | nil =>
    rw [ofTypes, ofTypes]
    exact .ok _
  | cons token rest ih =>
    rw [ofTypes, ofTypes]
    exact (ofType_moved parts token).bind fun _ => (ih.map _).noting _

theorem ofKeywords_moved : Moved root (here.Misfits (.object k.members))
    (ofKeywords here k) (ofKeywords (here.under root) k) := by
  rw [ofKeywords_eq, ofKeywords_eq]
  cases form : k.form with
  | reference target =>
    dsimp only
    split
    · exact .ok _
    · exact .refused _
  | listed values => exact .settle here _
  | free => exact .ok _
  | negation inner => exact (value_moved parts (Keywords.value?_of_form_negation form)).map _
  | typed tokens => exact (ofTypes_moved parts tokens).map _
  | choice mode branches =>
    exact (listed_moved parts (Keywords.value?_of_form_choice form)).bind fun _ =>
      .noting (.settle here _) _
  | conjunction branches =>
    exact (listed_moved parts (Keywords.value?_of_form_conjunction form)).bind fun _ =>
      .noting (.settle here _) _

end Node

/-- A schema is read alike under a root, and the path to a misfit leads there. -/
theorem Node.ofJson_moved (root : List String) (here : Locus) (v : Json) :
    Moved root (here.Misfits v) (ofJson here v) (ofJson (here.under root) v) := by
  cases v with
  | object members =>
    have parts (part : Json) (smaller : sizeOf part < sizeOf members) (here : Locus) :
        Moved root (here.Misfits part) (ofJson here part) (ofJson (here.under root) part) :=
      ofJson_moved root here part
    cases wrong : keywordMismatch? members with
    | some found =>
      have longer : (here.under root).keywordPath found.1 = root ++ here.keywordPath found.1 := by
        simp [Locus.keywordPath, Locus.under]
      rw [ofJson, ofJson, wrong]
      dsimp only
      rw [longer]
      exact .misfit (Locus.misfits_keywordPath wrong)
    | none =>
      rw [ofJson_object wrong, ofJson_object wrong]
      exact .map (.noting (ofKeywords_moved (k := ⟨members⟩) parts) _) _
  | bool b => cases b <;> simpa [ofJson] using .ok _
  | null => simpa [ofJson] using .refused _
  | number n => simpa [ofJson] using .refused _
  | string s => simpa [ofJson] using .refused _
  | array items => simpa [ofJson] using .refused _
termination_by sizeOf v
decreasing_by
  simp only [Json.object.sizeOf_spec]
  omega

/-! ## Texts of paths -/

theorem toList_sourcePath (segment : String) (rest : List String) :
    (sourcePath (segment :: rest)).toList =
      Json.Pointer.escapeChars segment.toList ++ Json.Pointer.renderChars rest := by
  induction rest generalizing segment with
  | nil => simp [sourcePath, Json.Pointer.escape, Json.Pointer.renderChars]
  | cons next rest ih =>
    have joined : sourcePath (segment :: next :: rest) =
        Json.Pointer.escape segment ++ "/" ++ sourcePath (next :: rest) := by
      simp [sourcePath]
    rw [joined, String.toList_append, String.toList_append, ih]
    simp [Json.Pointer.escape, Json.Pointer.renderChars]

/-- After a slash the text of a path is a pointer. -/
theorem slash_sourcePath {path : List String} (some : path ≠ []) :
    "/" ++ sourcePath path = Json.Pointer.render path := by
  cases path with
  | nil => exact absurd rfl some
  | cons segment rest =>
    refine String.toList_inj.mp ?_
    simp [toList_sourcePath, Json.Pointer.render, Json.Pointer.renderChars]

/-! ## Documents -/

namespace Document

section Sources

variable {root schemas : Members} {place : List String}

theorem resolve?_of_membersOf {members : Members} {key : String}
    (given : membersOf (Json.member? root key) = .ok members) (name : String)
    (rest : List String) : Json.Pointer.resolve? (.object root) (key :: name :: rest) =
      Json.Pointer.resolve? (.object members) (name :: rest) := by
  rw [Json.Pointer.resolve?, Json.Pointer.step?_object]
  unfold membersOf at given
  split at given
  · next absent =>
    cases given
    rw [absent]
    rfl
  · next present =>
    cases given
    rw [present, Option.bind_some]
  · cases given

/-- The root and the name lead to a schema, unless it is one of `definitions`. -/
theorem resolve?_of_sources (wellFormed : (Json.object root).WellFormed)
    (found : sources root = .ok (place, schemas)) {name : String} {schema : Json}
    (inside : (name, schema) ∈ schemas) (rest : List String) :
    Json.Pointer.resolve? (.object root) (place ++ name :: rest) =
        Json.Pointer.resolve? schema rest ∨
      place = ["$defs"] ∧ Json.Pointer.resolve? (.object root) ["$defs", name] = none ∧
        Json.Pointer.resolve? (.object root) ("definitions" :: name :: rest) =
          Json.Pointer.resolve? schema rest := by
  have ofMember {members : Members} (own : Json.member? members name = some schema) :
      Json.Pointer.resolve? (.object members) (name :: rest) =
        Json.Pointer.resolve? schema rest := by
    rw [Json.Pointer.resolve?, Json.Pointer.step?_object, own, Option.bind_some]
  have own := Json.member?_of_mem (names_of_sources wellFormed found).2 inside
  cases sources_eq_ok_iff.mp found with
  | components _ given given' =>
    left
    change Json.Pointer.resolve? (.object root) ("components" :: "schemas" :: name :: rest) = _
    rw [resolve?_of_membersOf given, resolve?_of_membersOf given', ofMember own]
  | @bundle first more _ _ given given' =>
    rw [addAbsent_eq_absorb (wellFormed_of_membersOf wellFormed given').names,
      Json.member?_absorb] at own
    change Json.Pointer.resolve? (.object root) ("$defs" :: name :: rest) = _ ∨ _
    rw [resolve?_of_membersOf given, resolve?_of_membersOf given, resolve?_of_membersOf given']
    cases known : Json.member? first name with
    | some other =>
      rw [known] at own
      cases own
      exact .inl (ofMember known)
    | none =>
      -- The schema comes from `definitions`, as `$defs` has none of the name.
      rw [known, Option.none_or] at own
      refine .inr ⟨rfl, ?_, ofMember own⟩
      rw [Json.Pointer.resolve?, Json.Pointer.step?_object, known, Option.bind_none]
  | bare _ _ => exact .inl (ofMember own)

end Sources

/-- The schemas of a document are read under a root as without one, and the path to a misfit leads
to one of them first. -/
theorem entriesOf_moved (root : List String) (schemas : Members) :
    Moved root (fun path mismatch => ∃ member ∈ schemas,
      (⟨[], member.1, []⟩ : Locus).Misfits member.2 path mismatch)
      (entriesOf [] schemas) (entriesOf root schemas) := by
  induction schemas with
  | nil => exact .ok _
  | cons member rest ih =>
    have here : (⟨[], member.1, []⟩ : Locus).under root = ⟨root, member.1, []⟩ := by
      rw [Locus.under, List.append_nil]
    have first := (Node.ofJson_moved root ⟨[], member.1, []⟩ member.2).imp
      fun path mismatch misfits => (⟨member, List.mem_cons_self, misfits⟩ :
        ∃ other ∈ member :: rest, (⟨[], other.1, []⟩ : Locus).Misfits other.2 path mismatch)
    have others := ih.imp fun path mismatch ⟨other, inside, misfits⟩ =>
      (⟨other, List.mem_cons_of_mem _ inside, misfits⟩ :
        ∃ other ∈ member :: rest, (⟨[], other.1, []⟩ : Locus).Misfits other.2 path mismatch)
    rw [here] at first
    exact first.bind fun _ => (others.map _).noting _

/-- Whenever the reading of a source fails at the value of a keyword, the segments are read from the
text of the path again, the last of them is the keyword, and its value in the source is what the
mismatch is about. The path leads there, unless the schema is one of `definitions` that `$defs` has
not; then the path begins with `$defs` nevertheless. -/
theorem misfits_stand_in_their_source (source : Json) (wellFormed : source.WellFormed)
    (path : List String) (mismatch : Mismatch)
    (refused : ofJson source = .error (.keyword path mismatch)) :
    Json.Pointer.parse? ("/" ++ sourcePath path) = some path ∧
    ∃ root name segments keyword value,
      path = root ++ name :: (segments ++ [keyword]) ∧ Misfit keyword value mismatch ∧
      (Json.Pointer.select? source ("/" ++ sourcePath path) = some value ∨
        root = ["$defs"] ∧
        Json.Pointer.select? source ("/" ++ sourcePath ["$defs", name]) = none ∧
        Json.Pointer.select? source
          ("/" ++ sourcePath ("definitions" :: name :: (segments ++ [keyword]))) = some value) := by
  cases source with
  | object root =>
    unfold ofJson at refused
    rcases steps_of_error refused with first | ⟨⟨place, schemas⟩, found, rest⟩
    · obtain ⟨_, schema⟩ := refusal_of_sources first
      cases schema
    rcases steps_of_error rest with entries | ⟨_, -, rest⟩
    · have moved := entriesOf_moved place schemas
      rw [entries] at moved
      obtain ⟨_, whole, ⟨name, schema⟩, inside, segments, rfl, stands⟩ := moved.of_error
      obtain ⟨above, keyword, value, rfl, leads, misfit⟩ :=
        stands.exists_resolve? (wellFormed_of_sources wellFormed found _ inside)
      have whole : path = place ++ name :: (above ++ [keyword]) := whole
      have pointer : "/" ++ sourcePath path = Json.Pointer.render path :=
        slash_sourcePath (by simp [whole])
      rw [pointer, Json.Pointer.parse?_render]
      refine ⟨rfl, place, name, above, keyword, value, whole, misfit, ?_⟩
      rw [slash_sourcePath (List.cons_ne_nil _ _), slash_sourcePath (List.cons_ne_nil _ _), whole]
      simp only [Json.Pointer.select?_render, ← leads]
      exact resolve?_of_sources wellFormed found inside (above ++ [keyword])
    · cases rest
  | _ => cases refused

/-- A length that is no number. -/
def wordyLength : Json := .object [("minLength", .string "x")]

theorem ofJson_wordyLength (here : Locus) : Node.ofJson here wordyLength =
    .error (.keyword (here.keywordPath "minLength") (.kind (.string "x") "u64")) := by
  rw [wordyLength, Node.ofJson]
  rfl

/-- The path to it below names that are escaped leads to it. -/
theorem wordy_length_stands_in_its_source :
    (nestedSource wordyLength).WellFormed ∧ ∃ path mismatch value,
      ofJson (nestedSource wordyLength) = .error (.keyword path mismatch) ∧
      sourcePath path = "$defs/a~1b/properties/~0~1x/minLength" ∧
      Json.Pointer.select? (nestedSource wordyLength) ("/" ++ sourcePath path) = some value ∧
      Misfit "minLength" value mismatch := by
  have wellFormed : (nestedSource wordyLength).WellFormed := by
    simp [nestedSource, nestedKeywords, wordyLength]
  have refused : ofJson (nestedSource wordyLength) = .error
      (.keyword (nestedLocus.keywordPath "minLength") (.kind (.string "x") "u64")) := by
    rw [ofJson_nestedSource rfl, ofJson_wordyLength]
    rfl
  obtain ⟨-, root, name, segments, keyword, value, whole, misfit, leads⟩ :=
    misfits_stand_in_their_source _ wellFormed _ _ refused
  have last : keyword = "minLength" := by
    have ends := congrArg List.getLast? whole
    rw [← List.cons_append, ← List.append_assoc, List.getLast?_concat] at ends
    exact (Option.some.inj ends).symm
  subst last
  refine ⟨wellFormed, _, _, value, refused, by decide, ?_, misfit⟩
  rcases leads with here | ⟨rfl, absent, -⟩
  · exact here
  · obtain ⟨rfl, -⟩ := List.cons.inj (List.cons.inj whole).2
    cases absent

/-- The same under `definitions` alone. -/
def definedLength : Json := .object [("definitions", .object [("S", wordyLength)])]

/-- The path begins with a name that the source has not. -/
theorem path_leads_out_of_its_source :
    definedLength.WellFormed ∧ ∃ path mismatch,
      ofJson definedLength = .error (.keyword path mismatch) ∧
      sourcePath path = "$defs/S/minLength" ∧
      Json.Pointer.select? definedLength ("/" ++ sourcePath path) = none := by
  have wellFormed : definedLength.WellFormed := by simp [definedLength, wordyLength]
  have refused : ofJson definedLength =
      .error (.keyword ["$defs", "S", "minLength"] (.kind (.string "x") "u64")) := by
    change (entriesOf ["$defs"] [("S", wordyLength)]).bind _ = _
    rw [entriesOf, ofJson_wordyLength]
    rfl
  exact ⟨wellFormed, _, _, refused, by decide, by decide⟩

end Document
end DataSchema
