import DataSchema.Proofs.Json.Records
import DataSchema.Proofs.RoundTrip
import DataSchema.Suite
import Mathlib

/-!
Verdicts of suites. What a suite says is told of the JSON value that its source is: cases are
members of it, and their parts are members of theirs.
-/
namespace DataSchema

/-- Null gives nothing. -/
def Json.given? : Json → Option Json
  | .null => none
  | v => some v

theorem Json.given?_of_ne_null {v : Json} (some' : v ≠ .null) : v.given? = some v := by
  cases v with
  | null => exact absurd rfl some'
  | _ => rfl

namespace Case

open Json (Reader)
open Json.Reader (Decodes)

def fieldNames : List String := ["name", "schema", "value", "valid", "output"]

/-- What the text of a case has under the name of a field. -/
def field? (text : Json) (name : String) : Option Json :=
  Json.member? (text.membersBy fieldNames) name

/-- What the members of a case mean. -/
inductive Sets : String → Json → (Case → Case) → Prop
  | name {name : String} : Sets "name" (.string name) fun c => { c with name }
  | schema {schema : String} : Sets "schema" (.string schema) fun c => { c with schema }
  | value {value : Json} : Sets "value" value fun c => { c with value }
  | valid {valid : Bool} : Sets "valid" (.bool valid) fun c => { c with valid }
  | output {v : Json} : Sets "output" v fun c => { c with output := v.given? }

/-- A case is what its text says; an output that is null is none. -/
structure Written (text : Json) (c : Case) : Prop where
  name : field? text "name" = some (.string c.name)
  schema : field? text "schema" = some (.string c.schema)
  value : field? text "value" = some c.value
  valid : field? text "valid" = some (.bool c.valid)
  output : c.output = (field? text "output").bind Json.given?

theorem decodes_given : Decodes (fun v x => x = v.given?) (Reader.optional Reader.value) :=
  (Reader.decodes_optional Reader.decodes_value).imp fun v x told => by
    obtain ⟨rfl, rfl⟩ | ⟨some', y, rfl, rfl⟩ := told
    · rfl
    · exact (Json.given?_of_ne_null some').symm

theorem decodes_reader : Decodes Written reader := by
  refine (Reader.decodes_record Sets "Case" (by decide) ?_).imp fun v c recorded => ?_
  · intro field inside
    simp only [List.mem_cons, List.not_mem_nil, or_false] at inside
    obtain rfl | rfl | rfl | rfl | rfl := inside
    · exact Reader.decodes_field Reader.decodes_text fun v s told => told ▸ .name
    · exact Reader.decodes_field Reader.decodes_text fun v s told => told ▸ .schema
    · exact Reader.decodes_field Reader.decodes_value fun v x told => told ▸ .value
    · exact Reader.decodes_field Reader.decodes_flag fun v b told => told ▸ .valid
    · exact Reader.decodes_field decodes_given fun v x told => told ▸ .output
  · obtain ⟨_, name, rfl⟩ := recorded.told "name" (by decide) Case.name (fun w x => w = .string x)
      (by rintro _ _ _ _ ⟨⟩ <;> simp)
    obtain ⟨_, schema, rfl⟩ := recorded.told "schema" (by decide) Case.schema
      (fun w x => w = .string x) (by rintro _ _ _ _ ⟨⟩ <;> simp)
    obtain ⟨_, value, rfl⟩ := recorded.told "value" (by decide) Case.value (fun w x => w = x)
      (by rintro _ _ _ _ ⟨⟩ <;> simp)
    obtain ⟨_, valid, rfl⟩ := recorded.told "valid" (by decide) Case.valid
      (fun w x => w = .bool x) (by rintro _ _ _ _ ⟨⟩ <;> simp)
    have output := recorded.fills.told recorded.names "output" Case.output
      (fun w x => x = w.given?) (by rintro _ _ _ _ ⟨⟩ <;> simp)
    refine ⟨name, schema, value, valid, ?_⟩
    split at output
    · next w found => exact output.trans (congrArg (Option.bind · Json.given?) found).symm
    · next found => exact output.trans (congrArg (Option.bind · Json.given?) found).symm

/-- What a case says of a registry: the schema is there, and it accepts the value or not, as it has
to. An output that is given, which null is not, is what a value becomes that has to be accepted. -/
def Holds (registry : Registry) (text : Json) : Prop :=
  ∃ schema value valid outcome,
    field? text "schema" = some (.string schema) ∧ field? text "value" = some value ∧
      field? text "valid" = some (.bool valid) ∧
      registry.validate? schema value = some outcome ∧ outcome.isAccepted = valid ∧
      (valid = true → ∀ expected, field? text "output" = some expected → expected ≠ .null →
        ∃ form, outcome = .accepted form ∧ expected.same form = true)

theorem failure?_eq_none_iff {c : Case} {outcome : Outcome} :
    c.failure? outcome = none ↔ outcome.isAccepted = c.valid ∧
      (c.valid = true → ∀ expected, c.output = some expected →
        ∃ form, outcome = .accepted form ∧ expected.same form = true) := by
  unfold failure?
  cases outcome with
  | accepted form =>
    cases valid : c.valid with
    | false => simp [Outcome.isAccepted]
    | true => cases output : c.output <;> simp [Outcome.isAccepted]
  | rejected issues => cases valid : c.valid <;> simp [Outcome.isAccepted]

theorem Written.output_iff {text : Json} {c : Case} (written : Written text c) {expected : Json} :
    c.output = some expected ↔ field? text "output" = some expected ∧ expected ≠ .null := by
  rw [written.output]
  cases field? text "output" with
  | none => simp
  | some v =>
    by_cases null : v = .null
    · subst null
      simp only [Option.bind_some, Json.given?]
      constructor
      · nofun
      · rintro ⟨⟨⟩, given⟩
        exact absurd rfl given
    · simp only [Option.bind_some, Json.given?_of_ne_null null, Option.some.injEq]
      exact ⟨fun same => ⟨same, same ▸ null⟩, And.left⟩

theorem name_run (c : Case) (registry : Registry) : (c.run registry).name = c.name := by
  unfold run
  split <;> rfl

/-- A case passes if what its text says holds. -/
theorem Written.passed_iff {text : Json} {c : Case} (written : Written text c)
    (registry : Registry) : (c.run registry).passed = true ↔ Holds registry text := by
  have told : (c.run registry).passed = true ↔
      ∃ outcome, registry.validate? c.schema c.value = some outcome ∧
        c.failure? outcome = none := by
    unfold run CaseResult.passed
    split
    · next none => simp [none]
    · next outcome found => simp [found]
  simp only [told, failure?_eq_none_iff, written.output_iff]
  constructor
  · rintro ⟨outcome, found, accepts, becomes⟩
    exact ⟨c.schema, c.value, c.valid, outcome, written.schema, written.value, written.valid,
      found, accepts, fun valid expected output given => becomes valid expected ⟨output, given⟩⟩
  · rintro ⟨schema, value, valid, outcome, schema_eq, value_eq, valid_eq, found, accepts, becomes⟩
    cases schema_eq.symm.trans written.schema
    cases value_eq.symm.trans written.value
    cases valid_eq.symm.trans written.valid
    exact ⟨outcome, found, accepts, fun valid expected output =>
      becomes valid expected output.1 output.2⟩

/-- The name in the text of a case. -/
def name? (text : Json) : Option String :=
  match field? text "name" with
  | some (.string name) => some name
  | _ => none

theorem Written.name?_eq {text : Json} {c : Case} (written : Written text c) :
    name? text = some c.name := by
  rw [name?, written.name]

end Case

namespace Suite

open Json (Reader)
open Json.Reader (Decodes)

variable {source : String} {suite : Suite}

def fieldNames : List String := ["description", "schemas", "options", "cases"]

def field? (text : Json) (name : String) : Option Json :=
  Json.member? (text.membersBy fieldNames) name

/-- What the members of a suite mean; of descriptions and options no more than that they are
there. -/
inductive Sets : String → Json → (Suite → Suite) → Prop
  | description {v : Json} {description : Option String} :
    Sets "description" v fun s => { s with description }
  | schemas {schemas : Json} : Sets "schemas" schemas fun s => { s with schemas }
  | options {v : Json} {options : Options} : Sets "options" v fun s => { s with options }
  | cases {texts : List Json} {cases : List Case} (each : List.Forall₂ Case.Written texts cases) :
    Sets "cases" (.array texts) fun s => { s with cases }

structure Written (text : Json) (suite : Suite) : Prop where
  schemas : field? text "schemas" = some suite.schemas
  cases : ∃ texts, field? text "cases" = some (.array texts) ∧
    List.Forall₂ Case.Written texts suite.cases

theorem decodes_options : Decodes (fun _ _ => True) Options.reader := by
  refine (Reader.decodes_record (fun _ _ _ => True) "CompileOptions" (by decide) ?_).imp
    fun _ _ _ => trivial
  intro field inside
  simp only [List.mem_cons, List.not_mem_nil, or_false] at inside
  obtain rfl | rfl := inside
  · exact Reader.decodes_field (Reader.decodes_count _) fun _ _ _ => trivial
  · exact Reader.decodes_field (Reader.decodes_choice _) fun _ _ _ => trivial

theorem decodes_reader : Decodes Written reader := by
  refine (Reader.decodes_record Sets "Suite" (by decide) ?_).imp fun v s recorded => ?_
  · intro field inside
    simp only [List.mem_cons, List.not_mem_nil, or_false] at inside
    obtain rfl | rfl | rfl | rfl := inside
    · exact Reader.decodes_field (Reader.decodes_optional Reader.decodes_text)
        fun _ _ _ => .description
    · exact Reader.decodes_field Reader.decodes_value fun _ _ told => told ▸ .schemas
    · exact Reader.decodes_field decodes_options fun _ _ _ => .options
    · exact Reader.decodes_field (Reader.decodes_list Case.decodes_reader)
        fun _ _ ⟨_, told, each⟩ => told ▸ .cases each
  · obtain ⟨_, schemas, rfl⟩ := recorded.told "schemas" (by decide) Suite.schemas
      (fun w x => w = x) (by rintro _ _ _ _ ⟨⟩ <;> simp)
    obtain ⟨_, cases, texts, rfl, each⟩ := recorded.told "cases" (by decide) Suite.cases
      (fun w x => ∃ texts, w = .array texts ∧ List.Forall₂ Case.Written texts x)
      (by rintro _ _ _ _ ⟨⟩ <;> simp_all)
    exact ⟨schemas, texts, cases, each⟩

/-- A suite is what the value says that stands at the beginning of its source. -/
theorem exists_written (read : ofText source = .ok suite) :
    ∃ text, Reader.atStart Reader.value source = .ok text ∧ Written text suite := by
  have read := Json.ok_of_mapError (Json.ok_of_mapError read)
  obtain ⟨⟨own, after⟩, begun, made⟩ := Json.ok_of_map read
  cases made
  obtain ⟨text, taken, written⟩ := decodes_reader _ _ _ _ begun
  refine ⟨text, ?_, written⟩
  simp [Reader.atStart, taken, Except.map, Except.mapError]

variable {document : Document} {registry : Registry}

theorem run_eq (suite : Suite) (loaded : Document.ofJson suite.schemas = .ok document)
    (built : Registry.build suite.options document = .ok registry) (selected : String → Bool) :
    suite.run selected = .ok ⟨registry.findings,
      (suite.cases.filter fun c => selected c.name).map fun c => c.run registry⟩ := by
  simp [run, loaded, built, bind, Except.bind, Except.mapError]

/-- There is a result for each case whose name is selected, in their order. The case passes exactly
if what its text says holds, and it has the same result in a suite that has no other cases. -/
theorem results_are_verdicts (read : ofText source = .ok suite)
    (loaded : Document.ofJson suite.schemas = .ok document)
    (built : Registry.build suite.options document = .ok registry) (selected : String → Bool) :
    ∃ text texts report, Reader.atStart Reader.value source = .ok text ∧
      field? text "schemas" = some suite.schemas ∧ field? text "cases" = some (.array texts) ∧
      suite.run selected = .ok report ∧
      List.Forall₂
        (fun text result => Case.name? text = some result.name ∧
          (result.passed = true ↔ Case.Holds registry text) ∧
          ∃ c, Case.Written text c ∧
            { suite with cases := [c] }.run (fun _ => true) = .ok ⟨report.findings, [result]⟩)
        (texts.filter fun text => (Case.name? text).any selected) report.results := by
  obtain ⟨text, begun, written⟩ := exists_written read
  obtain ⟨texts, cases, each⟩ := written.cases
  refine ⟨text, texts, _, begun, written.schemas, cases, run_eq suite loaded built selected, ?_⟩
  rw [List.forall₂_map_right_iff]
  have chosen : List.Forall₂ Case.Written
      (texts.filter fun text => (Case.name? text).any selected)
      (suite.cases.filter fun c => selected c.name) :=
    List.rel_filter (fun text c written => by simp [written.name?_eq]) each
  refine chosen.imp fun text c written => ⟨?_, written.passed_iff registry, c, written, ?_⟩
  · rw [written.name?_eq, Case.name_run]
  · rw [run_eq { suite with cases := [c] } loaded built]
    rfl

/-- A suite of one case, which has an output that is null. -/
def nullOutput : String :=
  "\x7b\"schemas\":\x7b\"S\":true\x7d,\"cases\":[\x7b\"name\":\"none\",\"schema\":\"S\"," ++
    "\"value\":true,\"valid\":true,\"output\":null\x7d]\x7d"

def nullOutputSuite : Suite where
  schemas := .object [("S", .bool true)]
  cases := [⟨"none", "S", .bool true, true, none⟩]

def nullOutputCase : Json :=
  .object [("name", .string "none"), ("schema", .string "S"), ("value", .bool true),
    ("valid", .bool true), ("output", .null)]

def anything : Document := ⟨[("S", .any)], []⟩

theorem ofText_nullOutput : ofText nullOutput = .ok nullOutputSuite := by cbv

theorem value_nullOutput : Reader.atStart Reader.value nullOutput = .ok (.object
    [("schemas", .object [("S", .bool true)]), ("cases", .array [nullOutputCase])]) := by
  cbv

theorem ofJson_nullOutput : Document.ofJson nullOutputSuite.schemas = .ok anything := by
  obtain ⟨findings, read, none⟩ := Document.ofJson_single (Json.reads_bool_iff.mpr ⟨rfl, rfl⟩)
  cases List.map_eq_nil_iff.mp none
  exact read

/-- Nothing is asked of what becomes of the value. -/
theorem null_output_holds :
    ofText nullOutput = .ok nullOutputSuite ∧
      Document.ofJson nullOutputSuite.schemas = .ok anything ∧
      ∃ registry text, Registry.build nullOutputSuite.options anything = .ok registry ∧
        Case.name? text = some "none" ∧ Case.Holds registry text := by
  obtain ⟨_, texts, report, -, -, -, ran, each⟩ :=
    results_are_verdicts ofText_nullOutput ofJson_nullOutput rfl fun _ => true
  cases ran.symm.trans (run_eq nullOutputSuite ofJson_nullOutput rfl _)
  obtain ⟨text, _, ⟨named, passes, -⟩, -⟩ := List.forall₂_cons_right_iff.mp each
  exact ⟨ofText_nullOutput, ofJson_nullOutput, _, text, rfl, named, passes.mp rfl⟩

/-- The case asserts that the value becomes null. It becomes true, and the case passes. -/
theorem null_output_is_not_compared :
    Reader.atStart Reader.value nullOutput = .ok (.object
        [("schemas", .object [("S", .bool true)]), ("cases", .array [nullOutputCase])]) ∧
      Case.field? nullOutputCase "valid" = some (.bool true) ∧
      Case.field? nullOutputCase "output" = some .null ∧
      ofText nullOutput = .ok nullOutputSuite ∧
      ∃ report result, nullOutputSuite.run (fun _ => true) = .ok report ∧
        report.results = [result] ∧ result.passed = true ∧
        result.outcome = some (.accepted (.bool true)) ∧ Json.null.same (.bool true) = false :=
  ⟨value_nullOutput, rfl, rfl, ofText_nullOutput, _, _,
    run_eq nullOutputSuite ofJson_nullOutput rfl _, rfl, rfl, rfl, rfl⟩

end Suite
end DataSchema
