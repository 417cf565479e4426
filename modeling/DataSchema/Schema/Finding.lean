import DataSchema.Json.Fault
import DataSchema.Json.Pointer
import DataSchema.Schema.Node

/-!
What is reported about schemas. A finding is noted and the work goes on; an error ends it.
-/
namespace DataSchema

inductive FindingKind where
  | patternCompile (pattern : String) (message : String)
  | unsupportedTypeToken (token : String)
  | unknownFormat (kind : ScalarKind) (format : String)
  | invalidConstraint (keyword : String) (message : String)
  | unsatisfiableBounds (lower : String) (upper : String)
  | shadowedKeywords (kept : String) (ignored : List String)
  | unguardedRecursion (cycle : List String)
deriving DecidableEq, Repr

def arrows (names : List String) : String := " -> ".intercalate names

namespace FindingKind

def code : FindingKind → String
  | .patternCompile .. => "pattern_compile"
  | .unsupportedTypeToken .. => "unsupported_type_token"
  | .unknownFormat .. => "unknown_format"
  | .invalidConstraint .. => "invalid_constraint"
  | .unsatisfiableBounds .. => "unsatisfiable_bounds"
  | .shadowedKeywords .. => "shadowed_keywords"
  | .unguardedRecursion .. => "unguarded_recursion"

def text : FindingKind → String
  | .patternCompile pattern message =>
    "invalid pattern " ++ quotedName pattern ++ " ignored: " ++ message
  | .unsupportedTypeToken token =>
    "unsupported type " ++ quotedName token ++ "; accepting any JSON value"
  | .unknownFormat kind format =>
    "unknown " ++ kind.name ++ " format " ++ quotedName format ++ "; not enforced"
  | .invalidConstraint keyword message => quotedName keyword ++ " ignored: " ++ message
  | .unsatisfiableBounds lower upper =>
    quotedName lower ++ " is greater than " ++ quotedName upper ++ "; no value can satisfy both"
  | .shadowedKeywords kept ignored =>
    quotedName kept ++ " takes precedence; ignored " ++ ", ".intercalate ignored
  | .unguardedRecursion cycle =>
    "recursion without an array/object boundary: " ++ arrows cycle ++
      "; validation is bounded by max depth"

/-- The members that name a finding and tell its particulars. -/
def members (kind : FindingKind) : Members :=
  ("code", .string kind.code) ::
    match kind with
    | .patternCompile pattern message =>
      [("pattern", .string pattern), ("message", .string message)]
    | .unsupportedTypeToken token => [("token", .string token)]
    | .unknownFormat kind format => [("kind", .string kind.name), ("format", .string format)]
    | .invalidConstraint keyword message =>
      [("keyword", .string keyword), ("message", .string message)]
    | .unsatisfiableBounds lower upper => [("lower", .string lower), ("upper", .string upper)]
    | .shadowedKeywords kept ignored =>
      [("kept", .string kept), ("ignored", .array (ignored.map .string))]
    | .unguardedRecursion cycle => [("cycle", .array (cycle.map .string))]

end FindingKind

/-- A finding in an entry of a document, at the segments of a pointer into it. -/
structure Finding where
  schema : String
  location : List String
  kind : FindingKind
deriving DecidableEq, Repr

def Finding.text (f : Finding) : String :=
  if f.location.isEmpty then f.schema ++ ": " ++ f.kind.text
  else f.schema ++ " at " ++ Json.Pointer.render f.location ++ ": " ++ f.kind.text

def Finding.toJson (f : Finding) : Json :=
  .object ([("schema", .string f.schema), ("location", .string (Json.Pointer.render f.location))]
    ++ f.kind.members)

def Cause.text : Cause → String
  | .emptyEnum => "enum must list at least one value"
  | .duplicateEnumValue value => "enum lists " ++ value.compact ++ " more than once"
  | .tooFewBranches combinator found => s!"{combinator} needs at least 2 branches, found {found}"
  | .missingItems => "array schema has no " ++ quotedName "items"
  | .unknownRequiredProperty property =>
    "required property " ++ quotedName property ++ " is not declared in " ++ quotedName "properties"
  | .unresolvedReference name => "reference to undeclared schema " ++ quotedName name
  | .invalidReference reference =>
    "unsupported reference " ++ quotedName reference ++ " (expected a schema in the same document)"
  | .unguardedCycle cycle => "reference cycle with no definition: " ++ arrows cycle
  | .notAnObject found => "expected a schema object, found " ++ found.name

/-- A refused schema. Documents that hold no schemas have an error without an entry. -/
structure SchemaError where
  schema : Option String
  location : List String
  cause : Cause
deriving Repr

def SchemaError.text (e : SchemaError) : String :=
  match e.schema with
  | none => e.cause.text
  | some schema =>
    if e.location.isEmpty then "schema " ++ quotedName schema ++ ": " ++ e.cause.text
    else
      "schema " ++ quotedName schema ++ " at " ++ Json.Pointer.render e.location ++ ": " ++
        e.cause.text

/-- Why a text or a value is no document. -/
inductive LoadError where
  | text (error : TextError)
  /-- A keyword's value has the wrong form; `path` leads to the keyword. -/
  | keyword (path : List String) (mismatch : Mismatch)
  | schema (error : SchemaError)
deriving Repr

/-- The text of a path into a source document. -/
def sourcePath (segments : List String) : String :=
  "/".intercalate (segments.map Json.Pointer.escape)

def atSourcePath (path : String) (reason : String) : String :=
  "at JSON path " ++ path ++ " → " ++ reason

def LoadError.message : LoadError → String
  | .text error => atSourcePath error.pathText error.message
  | .keyword path mismatch => atSourcePath (sourcePath path) mismatch.message
  | .schema error => error.text

end DataSchema
