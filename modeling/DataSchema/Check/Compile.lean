import DataSchema.Check.Basic

/-!
Checks from nodes. A malformed refinement is a finding and never a failure.
-/
namespace DataSchema

/-- Closed objects have no members but the declared ones: those that deny others, and those that
would allow others and have a greatest count. -/
def Additional.isClosed {α : Type} (count : CountRange) : Additional α → Bool
  | .deny => true
  | .allow => count.max.isSome
  | .schema _ => false

/-- A check with what was found in its schema, and the slots it refers to without an array or
object between. -/
structure Compiled (α : Type) where
  value : α
  findings : List Finding := []
  unguarded : List Nat := []

namespace Compiled

def map {α β : Type} (f : α → β) (c : Compiled α) : Compiled β :=
  ⟨f c.value, c.findings, c.unguarded⟩

def pair {α β γ : Type} (f : α → β → γ) (a : Compiled α) (b : Compiled β) :
    Compiled γ :=
  ⟨f a.value b.value, a.findings ++ b.findings, a.unguarded ++ b.unguarded⟩

/-- Adds findings at the end. -/
def noting {α : Type} (c : Compiled α) (findings : List Finding) : Compiled α :=
  { c with findings := c.findings ++ findings }

/-- Behind an array or object no reference is unguarded. -/
def guarded {α : Type} (c : Compiled α) : Compiled α := { c with unguarded := [] }

end Compiled

/-- Where a node stands: the entry and the segments from it, and the names of all entries. -/
structure Site where
  names : List String
  entry : String
  pointer : List String := []

namespace Site

def within (site : Site) (segment : String) : Site :=
  { site with pointer := site.pointer ++ [segment] }

def findings (site : Site) (kinds : List FindingKind) : List Finding :=
  kinds.map fun kind => ⟨site.entry, site.pointer, kind⟩

def drafted {α : Type} (site : Site) (check : List α → Check) (d : Drafted α) :
    Compiled Check :=
  ⟨check d.1, site.findings d.2, []⟩

end Site

def compileScalar (site : Site) (kind : ScalarKind) (format : Option Format) (c : Constraints) :
    Compiled Check :=
  let ignored := format.toList.map fun f => FindingKind.unknownFormat kind f.token
  match kind with
  | .string => site.drafted .string (StringRule.draft format c)
  | .number => site.drafted (.number false) (NumberRule.draft kind format c)
  | .integer => site.drafted (.number true) (NumberRule.draft kind format c)
  | .boolean => ⟨.boolean, site.findings ignored, []⟩
  | .null => ⟨.null, site.findings ignored, []⟩

mutual

/-- The check of a node. Only a reference to a name that is not in the document fails. -/
def compileNode (site : Site) : Node → Except SchemaError (Compiled Check)
  | .scalar kind format constraints => .ok (compileScalar site kind format constraints)
  | .enum values => .ok ⟨.enum values, [], []⟩
  | .array items count unique => do
    let inner ← compileNode (site.within "items") items
    let (rules, found) := ArrayRule.draft count unique
    .ok ((inner.guarded.map fun check => .array check rules).noting (site.findings found))
  | .object properties required count additional => do
    let declared ← compileProperties (site.within "properties") properties
    let extra ← compileAdditional site count additional
    let (rules, found) := ObjectRule.draft count
    let object := declared.pair (fun checks extra => Check.object checks required extra rules) extra
    .ok (object.guarded.noting (site.findings found))
  | .union mode branches => do
    let checks ← compileBranches (site.within mode.keyword) 0 branches
    .ok (checks.map (.union mode))
  | .intersection branches => do
    let checks ← compileBranches (site.within "allOf") 0 branches
    .ok (checks.map .intersection)
  | .negation inner => do
    let check ← compileNode (site.within "not") inner
    .ok (check.map .negation)
  | .reference name =>
    match site.names.idxOf? name with
    | some slot => .ok ⟨.ref slot, [], [slot]⟩
    | none => .error ⟨some site.entry, site.pointer, .unresolvedReference name⟩
  | .unknown token _ =>
    .ok ⟨.any, site.findings (token.toList.map .unsupportedTypeToken), []⟩

def compileBranches (site : Site) (index : Nat) :
    List Node → Except SchemaError (Compiled (List Check))
  | [] => .ok ⟨[], [], []⟩
  | node :: rest => do
    let check ← compileNode (site.within (toString index)) node
    let checks ← compileBranches site (index + 1) rest
    .ok (check.pair List.cons checks)

def compileProperties (site : Site) :
    List (String × Node) → Except SchemaError (Compiled (List (String × Check)))
  | [] => .ok ⟨[], [], []⟩
  | (name, node) :: rest => do
    let check ← compileNode (site.within name) node
    let checks ← compileProperties site rest
    .ok ((check.map fun c => (name, c)).pair List.cons checks)

def compileAdditional (site : Site) (count : CountRange) (additional : Additional Node) :
    Except SchemaError (Compiled (Extra Check)) :=
  match additional with
  | .allow | .deny => .ok ⟨if additional.isClosed count then .reject else .allow, [], []⟩
  | .schema node => do
    let check ← compileNode (site.within "additionalProperties") node
    .ok (check.map .check)

end

end DataSchema
