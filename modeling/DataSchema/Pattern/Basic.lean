import DataSchema.Pattern.Match
import DataSchema.Pattern.Parse
import DataSchema.Pattern.Size

/-!
Patterns that have been read and are ready to be looked for in texts.
-/
namespace DataSchema

structure Pattern where
  source : String
  regex : Pattern.Regex
deriving Repr

namespace Pattern

/-- Why a text is no pattern. -/
inductive Refusal where
  | fault (fault : Fault)
  | tooLarge
deriving DecidableEq, Repr

/-- One line on a refusal. -/
def Refusal.summary : Refusal → String
  | .fault f => f.kind.summary
  | .tooLarge => s!"Compiled regex exceeds size limit of {sizeLimit} bytes."

/-- The whole report on a refusal. -/
def Refusal.report (source : String) : Refusal → String
  | .fault f => f.report source
  | .tooLarge => Refusal.tooLarge.summary

def compile (source : String) : Except Refusal Pattern := do
  let term ← (parse source).mapError .fault
  let (regex, _) ← (resolve {} term).mapError .fault
  if regex.exceedsLimit then .error .tooLarge else .ok ⟨source, regex⟩

/-- The pattern matches somewhere in the text. -/
def foundIn (p : Pattern) (text : String) : Bool := p.regex.foundIn text.toList

end Pattern
end DataSchema
