import DataSchema.Proofs.Reading.Again

/-!
What was read is read again. Each rule of reading makes a node whose parts are written as schemas
that are read again, and so is the node. A source that is kept is read as all that it described.
-/
namespace DataSchema

/-- One result comes from one item. -/
theorem Each.single {α β : Type} {R : α → β → List FindingKind → Prop} {as : List α} {b : β}
    {kinds : List FindingKind} (each : Each R as [b] kinds) : ∃ a, as = [a] ∧ R a b kinds := by
  cases each with
  | cons first rest =>
    cases rest
    rw [List.append_nil]
    exact ⟨_, rfl, first⟩

/-- An unknown node is written as its source, or as an empty schema. -/
theorem Json.Reads.raw_eq {v : Json} {token : Option String} {raw : Json}
    {kinds : List FindingKind} (reads : v.Reads (.unknown token raw) kinds) :
    raw = v ∨ raw = .object [] := by
  rcases reads.object_or_bool with ⟨members, rfl⟩ | ⟨b, rfl⟩
  · obtain ⟨-, own, more, describes, made, -⟩ := Json.reads_object_iff.mp reads
    have same : own = .unknown token raw := by
      split at made
      · unfold Node.orNull at made
        split at made
        · exact made
        · cases made
      · exact made
    subst same
    generalize shown : Node.unknown token raw = node at describes
    cases describes with
    | listed form made' => cases (Node.eq_of_enumOf made').symm.trans shown.symm
    | free => cases shown; exact .inl rfl
    | @typed tokens nodes kinds form each =>
      match nodes with
      | [] => cases shown; exact .inr rfl
      | [node] =>
        subst shown
        obtain ⟨token', -, own, -, reads⟩ := each.exists_of_mem List.mem_cons_self
        generalize shown : Node.unknown token raw = node at reads
        cases reads <;> cases shown
        exact .inl rfl
      | first :: second :: rest => cases shown
    | _ => cases shown
  · obtain ⟨same, -⟩ := Json.reads_bool_iff.mp reads
    cases b <;> cases same
    exact .inr rfl

/-- The format that a type brings along is written as its own token. -/
theorem TypeName.canonical_format {token : String} {kind : ScalarKind} {f : Format}
    (named : ofToken token = .scalar kind (some f)) : Format.ofToken f.token = f := by
  unfold ofToken at named
  split at named <;> cases named <;> rfl

/-- A member that asks for itself is required. -/
theorem Keywords.mem_required_of_asks {k : Keywords} {member : String × Json}
    (inside : member ∈ k.properties) (asks : asksForItself member.2 = true) :
    member.1 ∈ k.required := by
  unfold required
  rw [List.mem_eraseDups, List.mem_append]
  exact .inr (List.mem_map.mpr ⟨member, List.mem_filter.mpr ⟨inside, asks⟩, rfl⟩)

section Sources

variable {members : Members} (wellFormed : (Json.object members).WellFormed)
  (parts : ∀ part : Json, sizeOf part < sizeOf members → part.WellFormed →
    ∀ node kinds, part.Reads node kinds → Rereads [] kinds node)
include wellFormed parts

/-- The value of a keyword is read again. -/
theorem rereads_of_value? {name : String} {v : Json}
    (given : (⟨members⟩ : Keywords).value? name = some v) {node : Node} {kinds : List FindingKind}
    (reads : v.Reads node kinds) : Rereads [] kinds node := by
  exact parts v (Keywords.sizeOf_value?_lt given)
    (wellFormed.member (Keywords.member?_of_value? given)) node kinds reads

/-- The schemas in the value of a keyword are read again. -/
theorem rereads_of_items {name : String} {items : List Json}
    (given : (⟨members⟩ : Keywords).value? name = some (.array items)) {nodes : List Node}
    {kinds : List FindingKind} (each : Each Json.Reads items nodes kinds) :
    ∀ node ∈ nodes, Rereads [] kinds node := by
  intro node member
  obtain ⟨v, inside, own, known, reads⟩ := each.exists_of_mem member
  have smaller := Keywords.sizeOf_items_lt given
  cases wellFormed.member (Keywords.member?_of_value? given) with
  | array all =>
    have again := parts v (Nat.lt_trans (List.sizeOf_lt_of_mem inside) smaller) (all v inside)
      node own reads
    exact again.mono (List.Subset.refl _) known

/-- Declared members are read again. One that asks for itself then is required already. -/
theorem rereads_of_properties {properties : List (String × Node)} {kinds : List FindingKind}
    (each : Each (ReadsMember Json.Reads) (⟨members⟩ : Keywords).properties properties kinds) :
    ∀ property ∈ properties, Rereads [] kinds property.2 ∧
      (Keywords.asksForItself property.2.toJson = true →
        property.1 ∈ (⟨members⟩ : Keywords).required) := by
  intro property member
  obtain ⟨source, inside, own, known, same, reads⟩ := each.exists_of_mem member
  constructor
  · have inside' := inside
    unfold Keywords.properties at inside'
    split at inside'
    · next schemas given =>
      have smaller : sizeOf schemas < sizeOf members := Keywords.sizeOf_entries_lt given
      have inList := List.sizeOf_lt_of_mem inside'
      have inPair : sizeOf source.2 < sizeOf source := by
        obtain ⟨name, schema⟩ := source
        simp only [Prod.mk.sizeOf_spec]
        omega
      cases wellFormed.member (Keywords.member?_of_value? given) with
      | object names all =>
        exact (parts source.2 (by omega) (all _ inside') property.2 own reads).mono
          (List.Subset.refl _) known
    · cases inside'
  · intro asks
    obtain ⟨token, raw, unknown⟩ := Rereads.unknown_of_asksForItself asks
    rw [unknown] at asks reads
    rcases reads.raw_eq with rfl | rfl
    · exact same ▸ Keywords.mem_required_of_asks inside asks
    · cases asks

/-- The node of a type is read again, or it keeps the whole source. -/
theorem ReadsType.rereads {token : String} {node : Node} {kinds : List FindingKind}
    (reads : ReadsType Json.Reads ⟨members⟩ token node kinds) :
    (∀ wholes, Rereads wholes kinds node) ∨
      node = .unknown (some token) (.object members) ∧ kinds = [] := by
  cases reads with
  | scalar named =>
    refine .inl fun wholes => .scalar (Keywords.constraints_suit wellFormed _) ?_
    rename_i format
    intro f present
    cases format with
    | some own =>
      cases present
      exact TypeName.canonical_format named
    | none =>
      obtain ⟨t, -, rfl⟩ := Option.map_eq_some_iff.mp present
      exact Format.ofToken_token_ofToken t
  | array named given inner =>
    exact .inl fun wholes => .array (rereads_of_value? wellFormed parts given inner)
  | @object properties first additional more named each others declared =>
    have declared' := rereads_of_properties wellFormed parts each
    refine .inl fun wholes => .object (fun property member => (declared' property member).1.mono
      (List.Subset.refl _) (List.subset_append_left _ _)) ?_ declared (nodup_eraseDups _)
      fun property member => (declared' property member).2
    rintro node rfl
    cases others with
    | schema given other inner =>
      exact (rereads_of_value? wellFormed parts given inner).mono (List.Subset.refl _)
        (List.subset_append_right _ _)
  | other named => exact .inr ⟨rfl, rfl⟩

omit wellFormed parts in
/-- A schema of at most one type that is read as unknown, or as that or null, is read again. -/
theorem rereads_of_unknown {token : Option String} {node : Node}
    (reads : (Json.object members).Reads node [])
    (few : ((⟨members⟩ : Keywords).types?.getD []).length ≤ 1)
    (made : (if (⟨members⟩ : Keywords).flag "nullable" then
      (Node.unknown token (.object members)).orNull else .unknown token (.object members)) = node) :
    Rereads [] [] node := by
  cases nullable : (⟨members⟩ : Keywords).flag "nullable" with
  | true =>
    rw [nullable, if_pos rfl] at made
    subst made
    refine .orNull (.of_whole reads List.mem_cons_self nofun ?_)
    simp [Json.standsAlone, nullable]
  | false =>
    rw [nullable] at made
    subst made
    refine .of_same rfl reads .unknown ?_
    simpa [Json.standsAlone, nullable] using few

/-- The node that keywords describe is read again, null being let pass or not. -/
theorem Describes.rereads {own node : Node} {more kinds : List FindingKind}
    (fits : ∀ member ∈ members, Fits member)
    (describes : Describes Json.Reads ⟨members⟩ own more)
    (made : (if (⟨members⟩ : Keywords).flag "nullable" then own.orNull else own) = node)
    (joined : (⟨members⟩ : Keywords).shadowing ++ more = kinds) :
    Rereads [] kinds node := by
  have reads : (Json.object members).Reads node kinds := Json.reads_object_iff.mpr
    ⟨keywordMismatch?_eq_none_iff.mpr fits, own, more, describes, made, joined⟩
  have subset : more ⊆ kinds := joined ▸ List.subset_append_right _ _
  have close (again : Rereads [] more own) : Rereads [] kinds node := by
    have again := again.mono (List.Subset.refl _) subset
    rw [← made]
    split
    · exact .orNull (again.mono (List.nil_subset _) (List.Subset.refl _))
    · exact again
  cases describes with
  | reference form named => exact close (.reference (Reference.ne_empty_of_name? named))
  | listed form made' =>
    cases Node.eq_of_enumOf made'
    exact close (.enum made')
  | @choice mode branches nodes more form each enough =>
    have again := rereads_of_items wellFormed parts (Keywords.value?_of_form_choice form) each
    exact close (.union (fun node member => (again node member).mono (List.nil_subset _)
      (List.Subset.refl _)) enough)
  | conjunction form each enough =>
    have again := rereads_of_items wellFormed parts (Keywords.value?_of_form_conjunction form) each
    exact close (.intersection again enough)
  | negation form part =>
    exact close (.negation
      (rereads_of_value? wellFormed parts (Keywords.value?_of_form_negation form) part))
  | free form =>
    have quiet := Keywords.shadowing_of_no_combining
      (Keywords.no_combining_of_form fits (.inl form))
    have types : (⟨members⟩ : Keywords).types? = none := Keywords.keeps_of_form form
    rw [quiet] at joined
    subst joined
    exact rereads_of_unknown reads (by simp [types]) made
  | @typed tokens nodes more form each =>
    have quiet := Keywords.shadowing_of_no_combining
      (Keywords.no_combining_of_form fits (.inr ⟨tokens, form⟩))
    have types : (⟨members⟩ : Keywords).types? = some tokens := Keywords.keeps_of_form form
    rw [quiet, List.nil_append] at joined
    subst joined
    cases nodes with
    | nil => exact close .any
    | cons first rest =>
      cases rest with
      | nil =>
        obtain ⟨token, rfl, typed⟩ := each.single
        rcases typed.rereads wellFormed parts with again | ⟨rfl, rfl⟩
        · exact close (again [])
        · exact rereads_of_unknown reads (by simp [types]) made
      | cons second rest =>
        have many : (Json.object members).standsAlone = false := by
          have := each.length_eq
          simp_all [Json.standsAlone]
        have whole : node ∈ Node.wholes (first :: second :: rest) := by
          rw [← made]
          split
          · exact List.mem_cons_of_mem _ List.mem_cons_self
          · exact List.mem_cons_self
        have again : Rereads [] more (Node.joined (first :: second :: rest)) := by
          refine .union (fun part member => ?_) (by simp)
          obtain ⟨token, -, own, known, typed⟩ := each.exists_of_mem member
          rcases typed.rereads wellFormed parts with again | ⟨rfl, -⟩
          · exact (again _).mono (List.Subset.refl _) known
          · refine .of_whole reads whole ?_ many
            rcases List.mem_pair.mp whole with rfl | rfl
            · exact Node.noConfusion
            · exact Node.noConfusion
        exact close again

end Sources

/-- Whatever has been read is written as a schema that is read again. -/
theorem Json.Reads.rereads {v : Json} (wellFormed : v.WellFormed) {node : Node}
    {kinds : List FindingKind} (reads : v.Reads node kinds) : Rereads [] kinds node := by
  cases v with
  | object members =>
    have parts (part : Json) (smaller : sizeOf part < sizeOf members) (wellFormed : part.WellFormed)
        (node : Node) (kinds : List FindingKind) (reads : part.Reads node kinds) :
        Rereads [] kinds node := rereads wellFormed reads
    obtain ⟨fits, own, more, describes, made, joined⟩ := Json.reads_object_iff.mp reads
    exact describes.rereads wellFormed parts (keywordMismatch?_eq_none_iff.mp fits) made joined
  | bool b =>
    obtain ⟨rfl, rfl⟩ := Json.reads_bool_iff.mp reads
    cases b with
    | true => exact .any
    | false => exact .negation .any
  | _ => simp [Json.Reads, Node.ofJson] at reads
termination_by sizeOf v
decreasing_by
  subst_vars
  simp only [Json.object.sizeOf_spec]
  omega

end DataSchema
