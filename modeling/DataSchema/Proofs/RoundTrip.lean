import DataSchema.Proofs.Reading.Sources
import DataSchema.Proofs.Respelling.Documents

/-!
Documents that are written and read again. The second reading succeeds and gives a document that
means the same. It is the same document exactly if every source fragment that was kept stands alone:
one that lets null pass as well, or has several types, is kept inside the node that it describes as
a whole and describes all of that node when it is read again.
-/
namespace DataSchema
namespace Document

/-! ## Sources of documents -/

/-- What is put into an object or was there before. -/
theorem mem_put {members : Members} {name : String} {v : Json} {member : String × Json}
    (inside : member ∈ Json.put members name v) : member.2 = v ∨ member ∈ members := by
  induction members with
  | nil =>
    cases List.mem_singleton.mp inside
    exact .inl rfl
  | cons first rest ih =>
    obtain ⟨key, old⟩ := first
    simp only [Json.put] at inside
    split at inside
    · rcases List.mem_cons.mp inside with rfl | later
      · exact .inl rfl
      · exact .inr (List.mem_cons_of_mem _ later)
    · rcases List.mem_cons.mp inside with rfl | later
      · exact .inr List.mem_cons_self
      · exact (ih later).imp id (List.mem_cons_of_mem _)

variable {P : Json → Prop}

theorem forall_addAbsent {schemas more : Members} (each : ∀ member ∈ schemas, P member.2)
    (others : ∀ member ∈ more, P member.2) : ∀ member ∈ addAbsent schemas more, P member.2 := by
  unfold addAbsent
  induction more generalizing schemas with
  | nil => exact each
  | cons first rest ih =>
    obtain ⟨name, schema⟩ := first
    have step : ∀ member ∈ if Json.hasMember schemas name then schemas
        else Json.put schemas name schema, P member.2 := by
      intro member inside
      split at inside
      · exact each member inside
      · rcases mem_put inside with same | before
        · exact same ▸ others (name, schema) (by simp)
        · exact each member before
    rw [List.foldl_cons]
    exact ih step fun member inside => others member (by simp [inside])

/-- Where a source document has its schemas, and which they are. -/
inductive KeepsAt (root : Members) : List String → Members → Prop
  | components {components schemas : Members}
      (named : (Json.hasMember root "openapi" || Json.hasMember root "components") = true)
      (given : membersOf (Json.member? root "components") = .ok components)
      (given' : membersOf (Json.member? components "schemas") = .ok schemas) :
      KeepsAt root ["components", "schemas"] schemas
  | bundle {schemas more : Members}
      (other : (Json.hasMember root "openapi" || Json.hasMember root "components") = false)
      (bundled : (Json.hasMember root "$defs" || Json.hasMember root "definitions" ||
        Json.hasMember root "$schema") = true)
      (given : membersOf (Json.member? root "$defs") = .ok schemas)
      (given' : membersOf (Json.member? root "definitions") = .ok more) :
      KeepsAt root ["$defs"] (addAbsent schemas more)
  | bare (other : (Json.hasMember root "openapi" || Json.hasMember root "components") = false)
      (bare : (Json.hasMember root "$defs" || Json.hasMember root "definitions" ||
        Json.hasMember root "$schema") = false) :
      KeepsAt root [] root

/-- Schemas are found where the document has them. -/
theorem sources_eq_ok_iff {root schemas : Members} {path : List String} :
    sources root = .ok (path, schemas) ↔ KeepsAt root path schemas := by
  constructor
  · intro found
    unfold sources at found
    dsimp only at found
    split at found
    · next named =>
      obtain ⟨components, given, found⟩ := steps_of_ok found
      obtain ⟨own, given', found⟩ := steps_of_ok found
      cases found
      exact .components named given given'
    · next other =>
      rw [Bool.not_eq_true] at other
      split at found
      · next bundled =>
        obtain ⟨first, given, found⟩ := steps_of_ok found
        obtain ⟨more, given', found⟩ := steps_of_ok found
        cases found
        exact .bundle other bundled given given'
      · next bare =>
        cases found
        exact .bare other (Bool.eq_false_iff.mpr bare)
  · intro keeps
    unfold sources
    cases keeps with
    | components named given given' =>
      simp only [named, if_true, given, given', bind, Except.bind]
    | bundle other bundled given given' =>
      simp only [other, bundled, Bool.false_eq_true, if_false, if_true, given, given', bind,
        Except.bind]
    | bare other bare => simp only [other, bare, Bool.false_eq_true, if_false]

/-- The members of an object that JSON has are such values, and an absent one has none. -/
theorem wellFormed_of_membersOf {members found : Members} {name : String}
    (wellFormed : (Json.object members).WellFormed)
    (given : membersOf (Json.member? members name) = .ok found) :
    (Json.object found).WellFormed := by
  unfold membersOf at given
  split at given
  · cases given
    exact .object List.nodup_nil (by simp)
  · next present =>
    cases given
    exact wellFormed.member present
  · cases given

theorem wellFormed_of_sources {root schemas : Members} {path : List String}
    (wellFormed : (Json.object root).WellFormed) (found : sources root = .ok (path, schemas)) :
    ∀ member ∈ schemas, member.2.WellFormed := by
  cases sources_eq_ok_iff.mp found with
  | components _ given given' =>
    cases wellFormed_of_membersOf (wellFormed_of_membersOf wellFormed given) given' with
    | object names each => exact each
  | bundle _ _ given given' =>
    cases wellFormed_of_membersOf wellFormed given with
    | object names each =>
      cases wellFormed_of_membersOf wellFormed given' with
      | object names' each' => exact forall_addAbsent each each'
  | bare _ _ =>
    cases wellFormed with
    | object names each => exact each

/-- A document is read entry by entry. -/
theorem ofJson_object_iff {root schemas : Members} {path : List String}
    (found : sources root = .ok (path, schemas)) {entries : List (String × Node)}
    {kinds : List FindingKind} :
    (∃ findings, ofJson (.object root) = .ok ⟨entries, findings⟩ ∧
        findings.map Finding.kind = kinds) ↔
      Each (ReadsMember Json.Reads) schemas entries kinds := by
  have entriesOf_iff := @gives_entriesOf_iff path schemas entries kinds
  rw [← entriesOf_iff]
  simp only [ofJson, found, bind, Except.bind, Gives]
  cases entriesOf path schemas with
  | error e => simp
  | ok result =>
    obtain ⟨own, findings⟩ := result
    simp

/-- Each entry of a document has been read from a value that JSON has. -/
theorem rereads_of_ofJson {source : Json} (wellFormed : source.WellFormed) {d : Document}
    (read : ofJson source = .ok d) :
    ∀ entry ∈ d.entries, Rereads [] (d.findings.map Finding.kind) entry.2 := by
  cases source with
  | object root =>
    obtain ⟨⟨path, schemas⟩, found, -⟩ := steps_of_ok read
    have each := (ofJson_object_iff found).mp ⟨d.findings, read, rfl⟩
    intro entry member
    obtain ⟨source, inside, own, known, -, reads⟩ := each.exists_of_mem member
    exact (reads.rereads (wellFormed_of_sources wellFormed found source inside)).mono
      (List.Subset.refl _) known
  | _ => cases read

/-! ## Second readings -/

/-- Each source that the document keeps stands alone. -/
def StandsAlone (d : Document) : Prop := ∀ entry ∈ d.entries, entry.2.StandsAlone

/-- A written document is read from its schemas. -/
theorem ofJson_toJson_iff {d : Document} {entries : List (String × Node)}
    {kinds : List FindingKind} :
    (∃ findings, ofJson d.toJson = .ok ⟨entries, findings⟩ ∧
        findings.map Finding.kind = kinds) ↔
      Each (ReadsMember Json.Reads) (Node.membersToJson d.entries) entries kinds := by
  have found : sources [("components", .object [("schemas",
      .object (Node.membersToJson d.entries))])] =
      .ok (["components", "schemas"], Node.membersToJson d.entries) := by
    simp [sources, membersOf, Json.hasMember, bind, Except.bind]
  exact ofJson_object_iff found

/-- A written document is read again, as a respelling. -/
theorem exists_respelling {source : Json} (wellFormed : source.WellFormed) {d : Document}
    (read : ofJson source = .ok d) :
    ∃ d', ofJson d.toJson = .ok d' ∧ d.Respells d' ∧
      Repeats (d.findings.map Finding.kind) (d'.findings.map Finding.kind)
        (d'.entries = d.entries) d.StandsAlone := by
  obtain ⟨entries, again, each, names, respelled, repeats⟩ :=
    Rereads.eachMember (rereads_of_ofJson wellFormed read)
  obtain ⟨findings, read', rfl⟩ := ofJson_toJson_iff.mpr each
  exact ⟨⟨entries, findings⟩, read', ⟨names, respelled⟩, repeats⟩

/-- A document that is written and read again means the same: it has the same names in their order,
it builds exactly if the document does, and both give the same outcomes. There is no kind of finding
that was not there before, and none at all if each source fragment that the document keeps stands
alone. -/
theorem written_again_means_the_same (source : Json) (wellFormed : source.WellFormed) (d : Document)
    (read : ofJson source = .ok d) :
    ∃ d', ofJson d.toJson = .ok d' ∧ d'.names = d.names ∧
      (∀ finding ∈ d'.findings, ∃ earlier ∈ d.findings, earlier.kind = finding.kind) ∧
      (d.StandsAlone → d'.findings = []) ∧
      ∀ options, ((∃ r', Registry.build options d' = .ok r') ↔
          ∃ r, Registry.build options d = .ok r) ∧
        ∀ r r', Registry.build options d = .ok r → Registry.build options d' = .ok r' →
          ∀ name ∈ d.names, ∀ value, ∃ outcome, r.validate? name value = some outcome ∧
            r'.validate? name value = some outcome := by
  obtain ⟨d', again, respells, repeats⟩ := exists_respelling wellFormed read
  refine ⟨d', again, respells.names.symm, ?_, ?_, fun options =>
    ⟨Registry.build_iff_of_respells respells, ?_⟩⟩
  · intro finding member
    obtain ⟨earlier, inside, same⟩ :=
      List.mem_map.mp (repeats.known (List.mem_map_of_mem member))
    exact ⟨earlier, inside, same⟩
  · exact fun alone => List.map_eq_nil_iff.mp (repeats.silent alone)
  · intro r r' built built' name known value
    exact Registry.validate?_of_respells respells built built' known value

/-- A document with an entry of a type that is not known. -/
def moneySource : Json := .object [("S", .object [("type", .string "money")])]

def moneyDocument : Document :=
  ⟨[("S", .unknown (some "money") (.object [("type", .string "money")]))], []⟩

theorem wellFormed_moneySource : moneySource.WellFormed := by simp [moneySource]

/-- A map of a single schema is a document. -/
theorem ofJson_single {schema : Json} {node : Node} {kinds : List FindingKind}
    (reads : schema.Reads node kinds) :
    ∃ findings, ofJson (.object [("S", schema)]) = .ok ⟨[("S", node)], findings⟩ ∧
      findings.map Finding.kind = kinds := by
  have found : sources [("S", schema)] = .ok ([], [("S", schema)]) := rfl
  have each : Each (ReadsMember Json.Reads) [("S", schema)] [("S", node)] (kinds ++ []) :=
    .cons ⟨rfl, reads⟩ .nil
  rw [List.append_nil] at each
  exact (ofJson_object_iff found).mpr each

/-- So is what is written for a document of a single entry. -/
theorem ofJson_toJson_single {node node' : Node} {kinds : List FindingKind}
    (findings : List Finding) (reads : node.toJson.Reads node' kinds) :
    ∃ again, ofJson (toJson ⟨[("S", node)], findings⟩) = .ok ⟨[("S", node')], again⟩ ∧
      again.map Finding.kind = kinds := by
  have each : Each (ReadsMember Json.Reads) (Node.membersToJson [("S", node)]) [("S", node')]
      (kinds ++ []) := by
    rw [Node.membersToJson_eq]
    exact .cons ⟨rfl, reads⟩ .nil
  rw [List.append_nil] at each
  exact ofJson_toJson_iff.mpr each

theorem ofJson_moneySource : ofJson moneySource = .ok moneyDocument := by
  have fits : ∀ member ∈ [("type", Json.string "money")], Fits member :=
    List.forall_mem_singleton.mpr rfl
  have reads : (Json.object [("type", .string "money")]).Reads
      (.unknown (some "money") (.object [("type", .string "money")])) [] :=
    reads_of_type fits rfl rfl (by decide) (.other rfl)
  obtain ⟨findings, read, none⟩ := ofJson_single reads
  cases List.map_eq_nil_iff.mp none
  exact read

theorem standsAlone_moneyDocument : moneyDocument.StandsAlone := by
  simp [StandsAlone, moneyDocument, Json.standsAlone, Keywords.flag, Keywords.value?,
    Keywords.types?]

/-- The unknown type accepts null before and after, and nothing is found again. -/
theorem money_means_the_same :
    moneySource.WellFormed ∧ ofJson moneySource = .ok moneyDocument ∧
      ∃ d' r r', ofJson moneyDocument.toJson = .ok d' ∧ d'.findings = [] ∧
        Registry.build {} moneyDocument = .ok r ∧ Registry.build {} d' = .ok r' ∧
        r'.validate? "S" .null = some (.accepted .null) := by
  obtain ⟨d', again, -, -, silent, built⟩ := written_again_means_the_same moneySource
    wellFormed_moneySource moneyDocument ofJson_moneySource
  obtain ⟨r', built'⟩ := (built {}).1.mpr ⟨_, rfl⟩
  obtain ⟨outcome, before, after⟩ := (built {}).2 _ r' rfl built' "S" (by decide) .null
  cases before
  exact ⟨wellFormed_moneySource, ofJson_moneySource, d', _, r', again,
    silent standsAlone_moneyDocument, rfl, built', after⟩

/-- A single schema of two types. What it says of items shadows a keyword. -/
def severalTypes : Json :=
  .object [("type", .array [.string "array", .string "money"]),
    ("items", .object [("enum", .array [.int 1]), ("not", .object [])])]

/-- It is a list of ones, or anything. -/
def onesOrMoney : List Node :=
  [.array (.enum [.int 1]) {} false, .unknown (some "money") severalTypes]

theorem reads_severalTypes :
    severalTypes.Reads (.union .anyOf onesOrMoney) [.shadowedKeywords "enum" ["not"]] := by
  have enum : (Json.object [("enum", .array [.int 1]), ("not", .object [])]).Reads
      (.enum [.int 1]) [.shadowedKeywords "enum" ["not"]] :=
    Json.reads_object_iff.mpr ⟨rfl, _, _, .listed rfl rfl, rfl, rfl⟩
  exact Json.reads_object_iff.mpr
    ⟨rfl, _, _, .typed rfl (.cons (.array rfl rfl enum) (.cons (.other rfl) .nil)), rfl, rfl⟩

/-- The source that is kept for the second type tells of the shadowed keyword once more. -/
theorem several_types_are_found_again :
    ∃ d, ofJson (.object [("S", severalTypes)]) = .ok d ∧
      ∃ d', ofJson d.toJson = .ok d' ∧
        d'.findings.map Finding.kind = [.shadowedKeywords "enum" ["not"]] := by
  obtain ⟨findings, read, -⟩ := ofJson_single reads_severalTypes
  refine ⟨_, read, ?_⟩
  have ones : Rereads [] [] (.array (.enum [.int 1]) {} false) := .array (.enum rfl)
  have written : (Node.union .anyOf onesOrMoney).toJson.Reads
      (.union .anyOf [.array (.enum [.int 1]) {} false, .union .anyOf onesOrMoney])
      [.shadowedKeywords "enum" ["not"]] := by
    have each := Each.cons (ones.reads_same (by simp)) (.cons reads_severalTypes .nil)
    rw [Node.toJson]
    exact reads_of_single rfl rfl (.choice rfl each (by simp))
  obtain ⟨again, read', found⟩ := ofJson_toJson_single findings written
  exact ⟨_, read', found⟩

/-- A document that is written and read again has the same nodes under the same names exactly if
each source fragment that it keeps stands alone. -/
theorem written_again_eq_iff (source : Json) (wellFormed : source.WellFormed) (d : Document)
    (read : ofJson source = .ok d) :
    ∃ d', ofJson d.toJson = .ok d' ∧ d'.names = d.names ∧
      (d'.entries = d.entries ↔ d.StandsAlone) := by
  obtain ⟨d', again, respells, repeats⟩ := exists_respelling wellFormed read
  exact ⟨d', again, respells.names.symm, repeats.unchanged_iff⟩

theorem money_is_restored :
    moneySource.WellFormed ∧ ofJson moneySource = .ok moneyDocument ∧
      ∃ d', ofJson moneyDocument.toJson = .ok d' ∧ d'.entries = moneyDocument.entries := by
  obtain ⟨d', again, -, same⟩ := written_again_eq_iff moneySource wellFormed_moneySource
    moneyDocument ofJson_moneySource
  exact ⟨wellFormed_moneySource, ofJson_moneySource, d', again, same.mpr standsAlone_moneyDocument⟩

/-- Null, or anything. -/
def nullableAny : Node :=
  .union .anyOf [.unknown none (.object [("nullable", .bool true)]), .plain .null]

theorem reads_nullableAny :
    (Json.object [("nullable", .bool true)]).Reads nullableAny [] :=
  Json.reads_object_iff.mpr ⟨rfl, _, _, .free rfl, rfl, rfl⟩

/-- The source that is kept beside null is read as the whole, null and all. -/
theorem nullable_any_is_not_restored :
    ofJson (.object [("S", .object [("nullable", .bool true)])]) = .ok ⟨[("S", nullableAny)], []⟩ ∧
      ofJson (toJson ⟨[("S", nullableAny)], []⟩) =
        .ok ⟨[("S", .union .anyOf [nullableAny, .plain .null])], []⟩ := by
  have null : Rereads [] [] (.plain .null) := .scalar .null (by simp)
  have written : nullableAny.toJson.Reads (.union .anyOf [nullableAny, .plain .null]) [] := by
    have each := Each.cons reads_nullableAny (.cons (null.reads_same (by simp [Node.plain])) .nil)
    rw [nullableAny, Node.toJson]
    exact reads_of_single rfl rfl (.choice rfl each (by simp))
  obtain ⟨findings, read, none⟩ := ofJson_single reads_nullableAny
  obtain ⟨again, read', none'⟩ := ofJson_toJson_single [] written
  cases List.map_eq_nil_iff.mp none
  cases List.map_eq_nil_iff.mp none'
  exact ⟨read, read'⟩

end Document
end DataSchema
