import DataSchema.Check.Basic

/-!
Checking values. Items, members and references each take one level of a budget; when it is used
up the value counts as nested too deep, and a combination of schemas passes that on unchanged.
-/
namespace DataSchema

/-- The accepted form of a value, or the issues found in it. -/
abbrev Checked := Except (List Issue) Json

/-- What a check depends on besides the value. -/
structure Setting where
  slots : List Check
  maxDepth : Nat
  stripUnknown : Bool

namespace Check

def reject {α : Type} (path : Path) (reason : Reason) : Except (List Issue) α :=
  .error [⟨path, reason⟩]

def issuesAt (path : Path) (reasons : List Reason) : List Issue :=
  reasons.map fun reason => ⟨path, reason⟩

/-- Accepts a form unless there are issues. -/
def settle (value : Json) (issues : List Issue) : Checked :=
  if issues.isEmpty then .ok value else .error issues

def anyDepthExceeded (issues : List Issue) : Bool := issues.any Issue.isDepthExceeded

/-- Adds the members of later outputs that the first one lacks. An output that is no object stands
for all. -/
def mergeOutputs : List Json → Json
  | [] => .null
  | .object first :: rest =>
    .object (rest.foldl (fun merged output =>
      match output with
      | .object members =>
        members.foldl (fun all (name, value) =>
          if Json.hasMember all name then all else all ++ [(name, value)]) merged
      | _ => merged) first)
  | first :: _ => first

/-- A step from a check to the check of a part of the value. -/
abbrev Descent := Check → Json → Path → Checked

/-- Items in their order: the accepted forms, and the issues of those that have some. -/
def itemsWith (down : Descent) (items : Check) (path : Path) :
    Nat → List Json → List Json × List Issue
  | _, [] => ([], [])
  | index, value :: rest =>
    let (forms, issues) := itemsWith down items path (index + 1) rest
    match down items value (path ++ [.index index]) with
    | .ok form => (form :: forms, issues)
    | .error found => (forms, found ++ issues)

/-- What is made of one member: the accepted form if it is kept, whether it counts, and issues. -/
structure MemberResult where
  form : Option Json := none
  counts : Bool := false
  issues : List Issue := []

def MemberResult.of (result : Checked) : MemberResult :=
  match result with
  | .ok form => ⟨some form, true, []⟩
  | .error issues => ⟨none, true, issues⟩

/-- A declared member is checked as declared. Of the others, those that are allowed count unless
they are stripped. -/
def memberWith (strip : Bool) (down : Descent) (properties : List (String × Check))
    (extra : Extra Check) (path : Path) (name : String) (value : Json) : MemberResult :=
  let here := path ++ [.key name]
  match properties.lookup name with
  | some check => .of (down check value here)
  | none =>
    match extra with
    | .allow => if strip then {} else ⟨some value, true, []⟩
    | .reject => ⟨none, false, [⟨here, .unknownProperty name⟩]⟩
    | .check check => .of (down check value here)

/-- Members in their order: the accepted forms, how many count, and the issues. -/
def membersWith (member : String → Json → MemberResult) :
    Members → Members × Nat × List Issue
  | [] => ([], 0, [])
  | (name, value) :: rest =>
    let result := member name value
    let (forms, kept, issues) := membersWith member rest
    (result.form.toList.map (fun form => (name, form)) ++ forms,
      kept + (if result.counts then 1 else 0), result.issues ++ issues)

def missing (required : List String) (members : Members) (path : Path) : List Issue :=
  (required.filter fun name => !Json.hasMember members name).map fun name =>
    ⟨path, .missingProperty name⟩

def leaf (value : Json) (path : Path) (reasons : List Reason) : Checked :=
  settle value (issuesAt path reasons)

mutual

/-- Checks a value where `down` checks its parts and what references lead to. -/
def evalWith (setting : Setting) (down : Descent) (check : Check) (value : Json) (path : Path) :
    Checked :=
  match check with
  | .any => .ok value
  | .string rules =>
    match value with
    | .string s => leaf value path (StringRule.reasons rules s)
    | other => reject path (.type "string" other.kind)
  | .number integer rules =>
    match value with
    | .number n =>
      if integer && !n.isIntegral then reject path (.type "integer" .number)
      else leaf value path (NumberRule.reasons rules n.toBinary64)
    | other => reject path (.type (if integer then "integer" else "number") other.kind)
  | .boolean =>
    match value with
    | .bool _ => .ok value
    | other => reject path (.type "boolean" other.kind)
  | .null =>
    match value with
    | .null => .ok value
    | other => reject path (.type "null" other.kind)
  | .enum values =>
    if values.any fun allowed => allowed.deepEqual value then .ok value
    else reject path (.notInEnum values)
  | .array items rules =>
    match value with
    | .array list =>
      let (forms, issues) := itemsWith down items path 0 list
      settle (.array forms) (issues ++ issuesAt path (ArrayRule.reasons rules list))
    | other => reject path (.type "array" other.kind)
  | .object properties required extra rules =>
    match value with
    | .object members =>
      let member := memberWith setting.stripUnknown down properties extra path
      let (forms, kept, issues) := membersWith member members
      settle (.object forms)
        (issues ++ missing required members path
          ++ issuesAt path (ObjectRule.reasons rules kept))
    | other => reject path (.type "object" other.kind)
  | .union .anyOf branches => anyOfWith setting down branches value path []
  | .union .oneOf branches => oneOfWith setting down branches value path 0 [] []
  | .intersection branches => allOfWith setting down branches value path [] []
  | .negation inner =>
    match evalWith setting down inner value path with
    | .ok _ => reject path .negatedSchemaMatched
    | .error issues => if anyDepthExceeded issues then .error issues else .ok value
  | .ref slot => down (setting.slots.getD slot .any) value path

/-- The first branch that accepts. `failures` holds the issues of the branches before. -/
def anyOfWith (setting : Setting) (down : Descent) (branches : List Check) (value : Json)
    (path : Path) (failures : List (List Issue)) : Checked :=
  match branches with
  | [] => reject path (.noBranchMatched .anyOf failures)
  | branch :: rest =>
    match evalWith setting down branch value path with
    | .ok form => .ok form
    | .error issues =>
      if anyDepthExceeded issues then .error issues
      else anyOfWith setting down rest value path (failures ++ [issues])

/-- The only branch that accepts. `matched` holds the branches before that accept, with what they
accept, and `failures` the issues of the others. -/
def oneOfWith (setting : Setting) (down : Descent) (branches : List Check) (value : Json)
    (path : Path) (index : Nat) (matched : List (Nat × Json)) (failures : List (List Issue)) :
    Checked :=
  match branches with
  | [] =>
    match matched with
    | [] => reject path (.noBranchMatched .oneOf failures)
    | [(_, form)] => .ok form
    | _ => reject path (.multipleBranchesMatched (matched.map (·.1)))
  | branch :: rest =>
    match evalWith setting down branch value path with
    | .ok form =>
      oneOfWith setting down rest value path (index + 1) (matched ++ [(index, form)]) failures
    | .error issues =>
      if anyDepthExceeded issues then .error issues
      else oneOfWith setting down rest value path (index + 1) matched (failures ++ [issues])

/-- All branches. `outputs` and `issues` are those of the branches before. -/
def allOfWith (setting : Setting) (down : Descent) (branches : List Check) (value : Json)
    (path : Path) (outputs : List Json) (issues : List Issue) : Checked :=
  match branches with
  | [] => settle (mergeOutputs outputs) issues
  | branch :: rest =>
    match evalWith setting down branch value path with
    | .ok form => allOfWith setting down rest value path (outputs ++ [form]) issues
    | .error found =>
      if anyDepthExceeded found then .error found
      else allOfWith setting down rest value path outputs (issues ++ found)

end

/-- Checks a value within a budget of levels. -/
def run (setting : Setting) : Nat → Descent
  | 0 => fun _ _ path => reject path (.depthExceeded setting.maxDepth)
  | levels + 1 => evalWith setting (run setting levels)

/-- Checks a whole value. The value itself takes no level. -/
def outcome (setting : Setting) (check : Check) (value : Json) : Outcome :=
  match run setting (setting.maxDepth + 1) check value [] with
  | .ok form => .accepted form
  | .error issues => .rejected issues

end Check
end DataSchema
