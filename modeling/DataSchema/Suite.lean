import DataSchema.Registry

/-!
Suites: a document of schemas with cases, each a value and whether its schema accepts it.
-/
namespace DataSchema

/-- `output` is what an accepted value has to become. -/
structure Case where
  name : String := ""
  schema : String := ""
  value : Json := .null
  valid : Bool := false
  output : Option Json := none
deriving Repr, Inhabited

structure Suite where
  description : Option String := none
  schemas : Json := .null
  options : Options := {}
  cases : List Case := []
deriving Repr

/-- There is no outcome if there is no schema, and no failure if the case passes. -/
structure CaseResult where
  name : String
  outcome : Option Outcome
  failure : Option String
deriving Repr

def CaseResult.passed (r : CaseResult) : Bool := r.failure.isNone

structure SuiteReport where
  findings : List Finding
  results : List CaseResult
deriving Repr

namespace Case

open Json (Reader)

def reader : Reader Case :=
  Reader.record "Case"
    [Reader.Field.of "name" true Reader.text fun name c => { c with name },
      Reader.Field.of "schema" true Reader.text fun schema c => { c with schema },
      Reader.Field.of "value" true Reader.value fun value c => { c with value },
      Reader.Field.of "valid" true Reader.flag fun valid c => { c with valid },
      Reader.Field.of "output" false (Reader.optional Reader.value)
        fun output c => { c with output }]
    {}

/-- What an outcome lacks of what the case expects. -/
def failure? (c : Case) : Outcome → Option String
  | .accepted value =>
    if c.valid then
      match c.output with
      | some expected =>
        if expected.same value then none
        else some s!"accepted as {value.compact}, expected {expected.compact}"
      | none => none
    else some "accepted, expected rejection"
  | .rejected issues =>
    if c.valid then
      some ("rejected, expected acceptance: " ++ "; ".intercalate (issues.map Issue.text))
    else none

def run (c : Case) (registry : Registry) : CaseResult :=
  match registry.validate? c.schema c.value with
  | none => ⟨c.name, none, some (unknownSchemaText c.schema)⟩
  | some outcome => ⟨c.name, some outcome, c.failure? outcome⟩

end Case

namespace SuiteReport

def failures (r : SuiteReport) : List CaseResult := r.results.filter fun result => !result.passed
def isSuccess (r : SuiteReport) : Bool := r.results.all CaseResult.passed

end SuiteReport

namespace Suite

open Json (Reader)

def reader : Reader Suite :=
  Reader.record "Suite"
    [Reader.Field.of "description" false (Reader.optional Reader.text)
        fun description s => { s with description },
      Reader.Field.of "schemas" true Reader.value fun schemas s => { s with schemas },
      Reader.Field.of "options" false Options.reader fun options s => { s with options },
      Reader.Field.of "cases" true (Reader.list Case.reader) fun cases s => { s with cases }]
    {}

def ofText (source : String) : Except LoadError Suite :=
  (Reader.atStart reader source).mapError LoadError.text

/-- Runs the cases whose names are selected. -/
def run (s : Suite) (selected : String → Bool) : Except LoadError SuiteReport := do
  let document ← Document.ofJson s.schemas
  let registry ← (Registry.build s.options document).mapError LoadError.schema
  .ok ⟨registry.findings, (s.cases.filter fun c => selected c.name).map fun c => c.run registry⟩

end Suite
end DataSchema
