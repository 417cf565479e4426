import DataSchema.Proofs.Reading.Misfits

/-!
Where source documents keep their schemas. The same schemas are read alike in each layout, as long
as none of them has a name that tells a layout: either to the same document, or to the same refusal,
or up to the same misfit, whose path differs in the root of the layout alone.
-/
namespace DataSchema
namespace Document

/-- Where a source document keeps its schemas. -/
inductive Layout where
  | bare
  | components
  | openapi (version : Json)
  | defs
  | definitions

namespace Layout

/-- The source document that keeps the schemas there and has nothing else. -/
def source (schemas : Members) : Layout → Json
  | .bare => .object schemas
  | .components => .object [("components", .object [("schemas", .object schemas)])]
  | .openapi version =>
    .object [("openapi", version), ("components", .object [("schemas", .object schemas)])]
  | .defs => .object [("$defs", .object schemas)]
  | .definitions => .object [("definitions", .object schemas)]

/-- The segments that paths to misfits begin with. -/
def root : Layout → List String
  | .bare => []
  | .components | .openapi _ => ["components", "schemas"]
  | .defs | .definitions => ["$defs"]

end Layout

/-- The names that tell the layout of a source document. -/
def layoutNames : List String := ["openapi", "components", "$defs", "definitions", "$schema"]

/-- A map of schemas of which none has such a name is a bare document. -/
theorem sources_of_plain {root : Members}
    (plain : ∀ name ∈ layoutNames, name ∉ root.map Prod.fst) : sources root = .ok ([], root) := by
  simp only [layoutNames, List.forall_mem_cons, ← Json.hasMember_iff, Bool.not_eq_true] at plain
  exact sources_eq_ok_iff.mpr (.bare (by simp [plain]) (by simp [plain]))

section Layouts

variable {schemas : Members} (distinct : (schemas.map Prod.fst).Nodup)
  (plain : ∀ name ∈ layoutNames, name ∉ schemas.map Prod.fst)
include distinct plain

/-- The schemas are found in each layout, in their order. -/
theorem Layout.exists_sources (layout : Layout) :
    ∃ members, layout.source schemas = .object members ∧
      sources members = .ok (layout.root, schemas) := by
  cases layout with
  | bare => exact ⟨schemas, rfl, sources_of_plain plain⟩
  | definitions =>
    refine ⟨_, rfl, ?_⟩
    have all : addAbsent [] schemas = schemas := by
      simp [addAbsent_eq_absorb distinct, Json.absorb, Json.hasMember]
    change Except.ok (["$defs"], addAbsent [] schemas) = _
    rw [all]
    rfl
  | _ => exact ⟨_, rfl, rfl⟩

/-- What is read in a layout is what is read without a root, moved there. -/
theorem Layout.ofJson_moved (layout : Layout) :
    Moved layout.root (fun path mismatch => ∃ member ∈ schemas,
        (⟨[], member.1, []⟩ : Locus).Misfits member.2 path mismatch)
      ((entriesOf [] schemas).bind fun (entries, findings) => .ok ⟨entries, findings⟩)
      (ofJson (layout.source schemas)) := by
  obtain ⟨members, same, found⟩ := layout.exists_sources distinct plain
  rw [same, ofJson, found]
  exact (entriesOf_moved layout.root schemas).bind fun _ => .ok _

end Layouts

/-- Schemas of different names, none of which tells a layout, are read alike in all layouts: to the
same document with the same findings, or to the same refusal, or up to the same misfit. The paths to
it go on from the roots of the layouts with the same segments, the name of one of the schemas first.
-/
theorem layouts_agree (schemas : Members) (distinct : (schemas.map Prod.fst).Nodup)
    (plain : ∀ name ∈ layoutNames, name ∉ schemas.map Prod.fst) :
    (∃ d, ∀ layout : Layout, ofJson (layout.source schemas) = .ok d) ∨
    (∃ e, ∀ layout : Layout, ofJson (layout.source schemas) = .error (.schema e)) ∨
    ∃ name schema segments mismatch, (name, schema) ∈ schemas ∧
      schema.MisfitAt segments mismatch ∧ ∀ layout : Layout, ofJson (layout.source schemas) =
        .error (.keyword (layout.root ++ name :: segments) mismatch) := by
  have moved := Layout.ofJson_moved distinct plain
  generalize (entriesOf [] schemas).bind _ = result at moved
  cases result with
  | ok d => exact .inl ⟨d, fun layout => (moved layout).eq_ok⟩
  | error e =>
    cases e with
    | text e => exact absurd (moved .bare) nofun
    | schema e => exact .inr (.inl ⟨e, fun layout => (moved layout).eq_refused⟩)
    | keyword path mismatch =>
      obtain ⟨-, ⟨name, schema⟩, inside, segments, rfl, stands⟩ := (moved .bare).eq_misfit
      exact .inr (.inr ⟨name, schema, segments, mismatch, inside, stands,
        fun layout => (moved layout).eq_misfit.1⟩)

/-- The length below is the first misfit of the schemas. -/
def oneMisfit : Members := [("T", .bool true), ("a/b", .object [("not", wordyLength)])]

theorem one_misfit_in_all_layouts :
    (oneMisfit.map Prod.fst).Nodup ∧ (∀ name ∈ layoutNames, name ∉ oneMisfit.map Prod.fst) ∧
    ∀ layout : Layout, ofJson (layout.source oneMisfit) = .error
      (.keyword (layout.root ++ ["a/b", "not", "minLength"]) (.kind (.string "x") "u64")) := by
  have distinct : (oneMisfit.map Prod.fst).Nodup := by decide
  have plain : ∀ name ∈ layoutNames, name ∉ oneMisfit.map Prod.fst := by decide
  have bare : ofJson (Layout.bare.source oneMisfit) =
      .error (.keyword ["a/b", "not", "minLength"] (.kind (.string "x") "u64")) := by
    have second : Node.ofJson ⟨[], "a/b", []⟩ (.object [("not", wordyLength)]) =
        .error (.keyword ["a/b", "not", "minLength"] (.kind (.string "x") "u64")) := by
      have negation : (⟨[("not", wordyLength)]⟩ : Keywords).form = .negation wordyLength := rfl
      rw [Node.ofJson_object rfl, Node.ofKeywords_eq, negation]
      dsimp only
      rw [ofJson_wordyLength]
      rfl
    change (entriesOf [] oneMisfit).bind _ = _
    rw [oneMisfit, entriesOf, entriesOf, second, Node.ofJson]
    rfl
  refine ⟨distinct, plain, fun layout => ?_⟩
  rcases layouts_agree oneMisfit distinct plain with ⟨d, read⟩ | ⟨e, refused⟩ |
    ⟨name, schema, segments, mismatch, -, -, misfit⟩
  · cases bare.symm.trans (read .bare)
  · cases bare.symm.trans (refused .bare)
  · cases bare.symm.trans (misfit .bare)
    exact misfit layout

end Document
end DataSchema
