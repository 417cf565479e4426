import DataSchema.Json.Text
import DataSchema.Schema.Node
import DataSchema.Text.Format

/-!
Why a value is rejected, and where in it.
-/
namespace DataSchema

inductive Segment where
  | key (name : String)
  | index (index : Nat)
deriving DecidableEq, Repr

/-- A place in a value: the segments from the root. -/
abbrev Path := List Segment

/-- Names that are written after a dot. -/
def isIdentifier (cs : List Char) : Bool :=
  match cs with
  | [] => false
  | c :: rest =>
    (Text.isAsciiLetter c || c == '_') && rest.all fun d => Text.isAsciiAlphanumeric d || d == '_'

def Segment.chars : Segment → List Char
  | .index place => '[' :: (Nat.toDigits 10 place ++ [']'])
  | .key name =>
    if isIdentifier name.toList then '.' :: name.toList
    else '[' :: (Json.quotedChars name.toList ++ [']'])

def Path.chars (path : Path) : List Char := '$' :: path.flatMap Segment.chars

def Path.text (path : Path) : String := String.ofList path.chars

/-- Reasons for a rejection, over the type of the issues that they may contain. -/
inductive ReasonOver (ι : Type) where
  | type (expected : String) (found : Kind)
  | notInEnum (allowed : List Json)
  | format (format : TextFormat)
  | tooShort (min actual : Nat)
  | tooLong (max actual : Nat)
  | patternMismatch (pattern : String)
  | belowMinimum (bound : Binary64) (exclusive : Bool)
  | aboveMaximum (bound : Binary64) (exclusive : Bool)
  | notMultipleOf (factor : Binary64)
  | outOfFormatRange (format : String)
  | tooFewItems (min actual : Nat)
  | tooManyItems (max actual : Nat)
  | duplicateItems (first second : Nat)
  | tooFewProperties (min actual : Nat)
  | tooManyProperties (max actual : Nat)
  | missingProperty (property : String)
  | unknownProperty (property : String)
  | noBranchMatched (mode : UnionMode) (failures : List (List ι))
  | multipleBranchesMatched (matched : List Nat)
  | negatedSchemaMatched
  | depthExceeded (limit : Nat)
deriving Repr

structure Issue where
  path : Path
  reason : ReasonOver Issue
deriving Repr

abbrev Reason := ReasonOver Issue

namespace Reason

def boundText (x : Binary64) : String := x.format .plain

def text : Reason → String
  | .type expected found => s!"expected {expected}, found {found.name}"
  | .notInEnum allowed =>
    "expected one of [" ++ ", ".intercalate (allowed.map Json.compact) ++ "]"
  | .format format => s!"not a valid {format.name}"
  | .tooShort min actual => s!"must be at least {min} characters, found {actual}"
  | .tooLong max actual => s!"must be at most {max} characters, found {actual}"
  | .patternMismatch pattern => s!"does not match pattern `{pattern}`"
  | .belowMinimum bound true => "must be greater than " ++ boundText bound
  | .belowMinimum bound false => "must be greater than or equal to " ++ boundText bound
  | .aboveMaximum bound true => "must be less than " ++ boundText bound
  | .aboveMaximum bound false => "must be less than or equal to " ++ boundText bound
  | .notMultipleOf factor => "must be a multiple of " ++ boundText factor
  | .outOfFormatRange format => s!"out of range for {format}"
  | .tooFewItems min actual => s!"must have at least {min} items, found {actual}"
  | .tooManyItems max actual => s!"must have at most {max} items, found {actual}"
  | .duplicateItems first second =>
    s!"items {first} and {second} are equal; items must be unique"
  | .tooFewProperties min actual => s!"must have at least {min} properties, found {actual}"
  | .tooManyProperties max actual => s!"must have at most {max} properties, found {actual}"
  | .missingProperty property => s!"missing required property `{property}`"
  | .unknownProperty property => s!"property `{property}` is not allowed"
  | .noBranchMatched mode failures => s!"no {mode.keyword} branch matched ({failures.length} tried)"
  | .multipleBranchesMatched matched =>
    "matched more than one oneOf branch (" ++ ", ".intercalate (matched.map toString) ++ ")"
  | .negatedSchemaMatched => "must not match the negated schema"
  | .depthExceeded limit => s!"exceeds the maximum validation depth of {limit}"

def isDepthExceeded : Reason → Bool
  | .depthExceeded _ => true
  | _ => false

end Reason

namespace Issue

def text (issue : Issue) : String := issue.path.text ++ ": " ++ Reason.text issue.reason

def isDepthExceeded (issue : Issue) : Bool := Reason.isDepthExceeded issue.reason

mutual

def toJson : Issue → Json
  | ⟨path, reason⟩ =>
    .object (("path", .string (Path.text path)) :: reasonMembers reason
      ++ [("message", .string (Reason.text reason))])

/-- The members that name a reason and tell its particulars. -/
def reasonMembers : ReasonOver Issue → Members
  | .noBranchMatched mode failures =>
    [("code", .string "no_branch_matched"), ("mode", .string mode.keyword),
      ("failures", .array (failuresToJson failures))]
  | .type expected found =>
    [("code", .string "type"), ("expected", .string expected), ("found", .string found.name)]
  | .notInEnum allowed => [("code", .string "not_in_enum"), ("allowed", .array allowed)]
  | .format format => [("code", .string "format"), ("format", .string format.name)]
  | .tooShort min actual =>
    [("code", .string "too_short"), ("min", .nat min), ("actual", .nat actual)]
  | .tooLong max actual =>
    [("code", .string "too_long"), ("max", .nat max), ("actual", .nat actual)]
  | .patternMismatch pattern =>
    [("code", .string "pattern_mismatch"), ("pattern", .string pattern)]
  | .belowMinimum bound exclusive =>
    [("code", .string "below_minimum"), ("bound", .float bound), ("exclusive", .bool exclusive)]
  | .aboveMaximum bound exclusive =>
    [("code", .string "above_maximum"), ("bound", .float bound), ("exclusive", .bool exclusive)]
  | .notMultipleOf factor => [("code", .string "not_multiple_of"), ("multiple_of", .float factor)]
  | .outOfFormatRange format =>
    [("code", .string "out_of_format_range"), ("format", .string format)]
  | .tooFewItems min actual =>
    [("code", .string "too_few_items"), ("min", .nat min), ("actual", .nat actual)]
  | .tooManyItems max actual =>
    [("code", .string "too_many_items"), ("max", .nat max), ("actual", .nat actual)]
  | .duplicateItems first second =>
    [("code", .string "duplicate_items"), ("first", .nat first), ("second", .nat second)]
  | .tooFewProperties min actual =>
    [("code", .string "too_few_properties"), ("min", .nat min), ("actual", .nat actual)]
  | .tooManyProperties max actual =>
    [("code", .string "too_many_properties"), ("max", .nat max), ("actual", .nat actual)]
  | .missingProperty property =>
    [("code", .string "missing_property"), ("property", .string property)]
  | .unknownProperty property =>
    [("code", .string "unknown_property"), ("property", .string property)]
  | .multipleBranchesMatched matched =>
    [("code", .string "multiple_branches_matched"), ("matched", .array (matched.map .nat))]
  | .negatedSchemaMatched => [("code", .string "negated_schema_matched")]
  | .depthExceeded limit => [("code", .string "depth_exceeded"), ("limit", .nat limit)]

def failuresToJson : List (List Issue) → List Json
  | [] => []
  | issues :: rest => .array (listToJson issues) :: failuresToJson rest

def listToJson : List Issue → List Json
  | [] => []
  | issue :: rest => issue.toJson :: listToJson rest

end

end Issue

def Reason.members (reason : Reason) : Members := Issue.reasonMembers reason

/-- What checking a value gives: the value as it is accepted, or the issues found in it. -/
inductive Outcome where
  | accepted (value : Json)
  | rejected (issues : List Issue)
deriving Repr

namespace Outcome

def isAccepted : Outcome → Bool
  | .accepted _ => true
  | .rejected _ => false

def issues : Outcome → List Issue
  | .accepted _ => []
  | .rejected issues => issues

/-- The value is nested deeper than the budget allows. -/
def depthExceeded (o : Outcome) : Bool := o.issues.any Issue.isDepthExceeded

/-- The members of a report: the verdict, and the issues of a rejection. -/
def members : Outcome → Members
  | .accepted _ => [("valid", .bool true)]
  | .rejected issues => [("valid", .bool false), ("errors", .array (Issue.listToJson issues))]

end Outcome
end DataSchema
