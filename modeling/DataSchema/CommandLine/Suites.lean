import DataSchema.CommandLine.Answer
import DataSchema.CommandLine.Source
import DataSchema.Suite

/-!
The command that runs suites. What the suites before a failing one gave is still shown.
-/
namespace DataSchema.CommandLine

/-- What suites have given so far. -/
structure Tally where
  passed : Nat := 0
  failed : Nat := 0
  shown : String := ""
deriving DecidableEq, Repr

namespace Tally

def caseText (verbose : Bool) (r : CaseResult) : String :=
  match r.failure with
  | some reason => s!"  ✘ {r.name}: {reason}\n"
  | none =>
    let detail :=
      if verbose then
        match r.outcome with
        | some outcome => "      " ++ (Json.object outcome.members).compact ++ "\n"
        | none => ""
      else ""
    s!"  ✔ {r.name}\n" ++ detail

def add (t : Tally) (path : String) (verbose : Bool) (report : SuiteReport) : Tally :=
  ⟨t.passed + (report.results.filter CaseResult.passed).length,
    t.failed + report.failures.length,
    t.shown ++ path ++ "\n" ++ String.join (report.results.map (caseText verbose))⟩

def answer (t : Tally) : Answer :=
  { exit := if t.failed = 0 then 0 else 1
    stdout := t.shown ++ s!"\n{t.passed} passed, {t.failed} failed\n" }

end Tally

/-- The selection of names in which a pattern is found. Without one, all are selected. -/
def selection : Option String → Except String (String → Bool)
  | none => .ok fun _ => true
  | some source =>
    (explain "invalid --filter" (Pattern.Refusal.report source) (Pattern.compile source)).map
      Pattern.foundIn

section Run

variable {m : Type → Type} [Monad m] [FileReading m]

def runSuite (path : String) (selected : String → Bool) : Attempt m SuiteReport := do
  let source ← readSource path
  let suite ← liftExcept (explain s!"invalid suite {path}" LoadError.message (Suite.ofText source))
  liftExcept (explain s!"failed to compile {path}" LoadError.message (suite.run selected))

def runSuites (selected : String → Bool) (verbose : Bool) : List String → Tally → m Answer
  | [], tally => pure tally.answer
  | path :: rest, tally => do
    match ← (runSuite path selected : Attempt m SuiteReport).run with
    | .ok report => runSuites selected verbose rest (tally.add path verbose report)
    | .error reason => pure { Answer.failure reason with stdout := tally.shown }

end Run
end DataSchema.CommandLine
