import DataSchema.Proofs.Json.Pointers
import DataSchema.Proofs.Reading.Findings
import DataSchema.Proofs.Reading.Rules

/-!
Where the reports of reading stand in their source. In a source whose objects have each name once,
a segment that leads to a part is looked up as a step to that part. So the pointer of a finding or
of a refusal is resolved, in the schema that the source document has under the reported name, to the
value that the report is right about.
-/
namespace DataSchema

/-- In an object the member of a name is the one that is looked up. -/
theorem Json.PartAt.step?_eq {v part : Json} {segment : String} (step : v.PartAt segment part)
    (wellFormed : v.WellFormed) : Json.Pointer.step? v segment = some part := by
  cases step with
  | member inside => rw [Pointer.step?_object, member?_of_mem wellFormed.names inside]
  | item there => exact (Pointer.step?_array _ _).trans there

theorem Json.PartAt.wellFormed {v part : Json} {segment : String} (step : v.PartAt segment part)
    (wellFormed : v.WellFormed) : part.WellFormed := by
  cases wellFormed with
  | object names each =>
    cases step with
    | member inside => exact each _ inside
  | array each =>
    cases step with
    | item there => exact each _ (List.mem_of_getElem? there)
  | _ => cases step

namespace Locus.Reaches

variable {here : Locus} {v : Json} {r : Report}

theorem schema_eq (reaches : here.Reaches v r) : r.schema = here.entry := by
  induction reaches with
  | own schema _ _ => exact schema
  | deeper _ _ ih => exact ih

/-- What is left of the location leads to the value that the report is right about. -/
theorem exists_resolve? (reaches : here.Reaches v r) (wellFormed : v.WellFormed) :
    ∃ rest part, r.location = here.pointer ++ rest ∧
      Json.Pointer.resolve? v rest = some part ∧ r.TrueOf part := by
  induction reaches with
  | own _ location right => exact ⟨[], _, by rw [location, List.append_nil], rfl, right⟩
  | @deeper here _ segment _ _ step _ ih =>
    obtain ⟨rest, part, location, leads, right⟩ := ih (step.wellFormed wellFormed)
    refine ⟨segment :: rest, part, ?_, ?_, right⟩
    · rw [location, within, List.append_assoc, List.singleton_append]
    · rw [Json.Pointer.resolve?, step.step?_eq wellFormed, Option.bind_some, leads]

end Locus.Reaches

namespace Document

/-- The source document has a schema of the name, and the pointer with these segments leads in it to
a value of this kind. -/
def PointsInto (source : Json) (name : String) (segments : List String) (holds : Json → Prop) :
    Prop :=
  ∃ root path schemas schema part, source = .object root ∧ sources root = .ok (path, schemas) ∧
    Json.member? schemas name = some schema ∧
    Json.Pointer.select? schema (Json.Pointer.render segments) = some part ∧ holds part

theorem Reported.pointsInto {source : Json} {r : Report} (reported : Reported source r)
    (wellFormed : source.WellFormed) :
    PointsInto source r.schema r.location fun part => r.TrueOf part := by
  obtain ⟨root, path, schemas, rfl, found, member, inside, reaches⟩ := reported
  have own : member.2.WellFormed := wellFormed_of_sources wellFormed found member inside
  obtain ⟨rest, part, location, leads, right⟩ := reaches.exists_resolve? own
  refine ⟨root, path, schemas, member.2, part, rfl, found, ?_, ?_, right⟩
  · rw [reaches.schema_eq]
    exact Json.member?_of_mem (names_of_sources wellFormed found).2 inside
  · rw [Json.Pointer.select?_render, location]
    exact leads

/-- Whenever the reading of a source fails at a schema, and whatever it finds when it succeeds, the
schema is one of the source, the pointer leads in it to a value, and the report is right about the
value. -/
theorem reports_point_at_their_source (source : Json) (wellFormed : source.WellFormed) :
    (∀ name segments cause, ofJson source = .error (.schema ⟨some name, segments, cause⟩) →
      PointsInto source name segments fun part => cause.TrueOf part) ∧
    ∀ d, ofJson source = .ok d → ∀ f ∈ d.findings,
      PointsInto source f.schema f.location fun part => f.kind.TrueOf part := by
  constructor
  · intro name segments cause refused
    exact (reported_of_error refused rfl).pointsInto wellFormed
  · intro d read f member
    exact (reported_of_ok read f member).pointsInto wellFormed

/-- A schema below names that a pointer has to escape. -/
def nestedKeywords (inner : Json) : Keywords := ⟨[("properties", .object [("~/x", inner)])]⟩

def nestedSource (inner : Json) : Json :=
  .object [("$defs", .object [("a/b", .object (nestedKeywords inner).members)])]

def nestedLocus : Locus := ⟨["$defs"], "a/b", ["properties", "~/x"]⟩

theorem ofKeywords_nestedKeywords {inner : Json} (optional : Keywords.asksForItself inner = false) :
    Node.ofKeywords ⟨["$defs"], "a/b", []⟩ (nestedKeywords inner) =
      (Node.ofJson nestedLocus inner).map fun (node, findings) =>
        (.object [("~/x", node)] [] {} .allow, findings) := by
  have typed : (nestedKeywords inner).form = .typed ["object"] := rfl
  have object : TypeName.ofToken "object" = .object := rfl
  have declared : (nestedKeywords inner).properties = [("~/x", inner)] := rfl
  have required : (nestedKeywords inner).required = [] := by
    simp [Keywords.required, declared, optional]
    rfl
  have others : Node.additionalOf ⟨["$defs"], "a/b", []⟩ (nestedKeywords inner) =
      .ok (.allow, []) := by
    rw [Node.additionalOf]
    rfl
  have here : (((⟨["$defs"], "a/b", []⟩ : Locus).within "properties").within "~/x") =
      nestedLocus := rfl
  have made (node : Node) : Node.objectOf [("~/x", node)] []
      ((nestedKeywords inner).countRange "minProperties" "maxProperties") .allow =
      .ok (.object [("~/x", node)] [] {} .allow) := rfl
  simp only [Node.ofKeywords_eq, typed, Node.ofTypes, Node.ofType, object, declared, required,
    others, Node.ofProperties, here]
  cases Node.ofJson nestedLocus inner with
  | error e => rfl
  | ok outcome => simp [noting, Locus.settle, bind, Except.bind, Except.map, Node.joined, made]

/-- The nested schema is read with the segments of its pointer. -/
theorem ofJson_nestedSource {inner : Json} (optional : Keywords.asksForItself inner = false) :
    ofJson (nestedSource inner) = (Node.ofJson nestedLocus inner).map fun (node, findings) =>
      ⟨[("a/b", .object [("~/x", node)] [] {} .allow)], findings⟩ := by
  have schema : Node.ofJson ⟨["$defs"], "a/b", []⟩ (.object (nestedKeywords inner).members) =
      (noting [] (Node.ofKeywords ⟨["$defs"], "a/b", []⟩ (nestedKeywords inner))).map id :=
    Node.ofJson_object rfl
  change (entriesOf ["$defs"] [("a/b", .object (nestedKeywords inner).members)]).bind _ = _
  simp only [entriesOf, schema, ofKeywords_nestedKeywords optional]
  cases Node.ofJson nestedLocus inner with
  | error e => rfl
  | ok outcome => simp [noting, bind, Except.bind, Except.map]

/-- Two values of the list are equal up to the order of their members. -/
def twiceListed : Json :=
  .object [("enum", .array [.object [("p", .bool false), ("q", .bool true)], .bool true,
    .object [("q", .bool true), ("p", .bool false)]])]

/-- The choice is not read beside the constant. -/
def choiceBesideConstant : Json :=
  .object [("oneOf", .array [.bool true]), ("const", .bool true)]

theorem nested_points_at_its_source :
    (nestedSource twiceListed).WellFormed ∧ (nestedSource choiceBesideConstant).WellFormed ∧
    Json.Pointer.render nestedLocus.pointer = "/properties/~0~1x" ∧
    PointsInto (nestedSource twiceListed) "a/b" nestedLocus.pointer
      (Cause.TrueOf · (.duplicateEnumValue (.object [("q", .bool true), ("p", .bool false)]))) ∧
    PointsInto (nestedSource choiceBesideConstant) "a/b" nestedLocus.pointer
      (FindingKind.TrueOf · (.shadowedKeywords "const" ["oneOf"])) := by
  have refused : Node.ofJson nestedLocus twiceListed = nestedLocus.refuse
      (.duplicateEnumValue (.object [("q", .bool true), ("p", .bool false)])) := by
    rw [twiceListed, Node.ofJson_object rfl, Node.ofKeywords_eq]
    rfl
  have read : Node.ofJson nestedLocus choiceBesideConstant = .ok (.enum [.bool true],
      [nestedLocus.finding (.shadowedKeywords "const" ["oneOf"])]) := by
    refine Node.ofJson_object_eq_ok_iff.mpr ⟨rfl, .enum [.bool true], [], ?_, rfl, rfl⟩
    rw [Node.ofKeywords_eq]
    rfl
  have wellFormed : (nestedSource twiceListed).WellFormed := by
    simp [nestedSource, nestedKeywords, twiceListed]
  have wellFormed' : (nestedSource choiceBesideConstant).WellFormed := by
    simp [nestedSource, nestedKeywords, choiceBesideConstant]
  obtain ⟨ofError, -⟩ := reports_point_at_their_source _ wellFormed
  obtain ⟨-, ofFindings⟩ := reports_point_at_their_source _ wellFormed'
  refine ⟨wellFormed, wellFormed', by decide, ofError _ _ _ ?_, ?_⟩
  · rw [ofJson_nestedSource rfl, refused]
    rfl
  · have built := @ofJson_nestedSource choiceBesideConstant rfl
    rw [read] at built
    exact ofFindings _ built _ (List.mem_singleton_self _)

end Document
end DataSchema
