import DataSchema.Check.Compile
import DataSchema.Check.Evaluate
import DataSchema.Options
import DataSchema.Schema.Document
import DataSchema.Schema.Shape

/-!
Registries: the compiled entries of a document. Every entry has a slot, so entries may refer to
themselves and to later ones. A cycle of entries that are nothing but references is an error; any
other cycle without an array or object on the way is a finding.
-/
namespace DataSchema

/-- The slots that each slot refers to without an array or object between. -/
abbrev Links := List (List Nat)

namespace Links

def targets (links : Links) (slot : Nat) : List Nat := links.getD slot []

/-- Visits pending slots and what they lead to. Every link is followed once at most, so the number
of links bounds the rounds. -/
def visit (links : Links) : Nat → List Nat → List Nat → List Nat
  | 0, _, seen => seen
  | _ + 1, [], seen => seen
  | rounds + 1, slot :: pending, seen =>
    if seen.contains slot then visit links rounds pending seen
    else visit links rounds (links.targets slot ++ pending) (slot :: seen)

/-- The slots that one or more links lead to. -/
def reached (links : Links) (slot : Nat) : List Nat :=
  visit links (2 * links.flatten.length + 1) (links.targets slot) []

/-- The cyclic groups of slots that lead to each other, each in ascending order, the group with the
least slot first. -/
def cycles (links : Links) : List (List Nat) :=
  let slots := List.range links.length
  let reach := slots.map links.reached
  let leads (a b : Nat) : Bool := (reach.getD a []).contains b
  slots.filterMap fun slot =>
    let group := slots.filter fun other => leads slot other && leads other slot
    if group.head? = some slot then some group else none

/-- Follows first links from a slot until it comes up again. -/
def follow (links : Links) (start : Nat) : Nat → Nat → List Nat
  | 0, _ => []
  | rounds + 1, slot =>
    if slot = start then []
    else slot :: follow links start rounds ((links.targets slot).headD start)

end Links

def Node.isReference : Node → Bool
  | .reference _ => true
  | _ => false

/-- What a group of slots in a cycle means for a document: the finding on it, or the error. -/
def cycleFinding (entries : List (String × Node)) (links : Links) (group : List Nat) :
    Except SchemaError (Option Finding) :=
  match group with
  | [] => .ok none
  | start :: _ =>
    let name (slot : Nat) : String := ((entries[slot]?).map (·.1)).getD ""
    let isAlias (slot : Nat) : Bool := (entries[slot]?).any fun entry => entry.2.isReference
    if group.all isAlias then
      let between := links.follow start group.length ((links.targets start).headD start)
      .error ⟨some (name start), [],
        .unguardedCycle ((start :: between ++ [start]).map name)⟩
    else
      .ok (some ⟨name start, [], .unguardedRecursion ((group ++ [start]).map name)⟩)

def cycleFindings (entries : List (String × Node)) (links : Links) :
    List (List Nat) → Except SchemaError (List Finding)
  | [] => .ok []
  | group :: rest => do
    let finding ← cycleFinding entries links group
    let findings ← cycleFindings entries links rest
    .ok (finding.toList ++ findings)

structure Registry where
  names : List String
  checks : List Check
  shapes : List Shape
  findings : List Finding
  options : Options
deriving Repr

/-- Compiles entries one by one. -/
def compileEntries (names : List String) :
    List (String × Node) → Except SchemaError (List (Compiled Check))
  | [] => .ok []
  | (name, node) :: rest => do
    let check ← compileNode ⟨names, name, []⟩ node
    let checks ← compileEntries names rest
    .ok (check :: checks)

namespace Registry

/-- Findings come in the order of the work: those of the document, those of each entry, cycles. -/
def build (options : Options) (d : Document) : Except SchemaError Registry := do
  let compiled ← compileEntries d.names d.entries
  let links : Links := compiled.map Compiled.unguarded
  let cyclic ← cycleFindings d.entries links (Links.cycles links)
  .ok
    { names := d.names
      checks := compiled.map Compiled.value
      shapes := d.entries.map fun entry => Shape.ofNode entry.2
      findings := d.findings ++ compiled.flatMap Compiled.findings ++ cyclic
      options }

def slot? (r : Registry) (name : String) : Option Nat := r.names.idxOf? name

def setting (r : Registry) : Setting :=
  ⟨r.checks, r.options.maxDepth, r.options.unknownKeys = .strip⟩

def validateSlot (r : Registry) (slot : Nat) (value : Json) : Outcome :=
  Check.outcome r.setting (r.checks.getD slot .any) value

/-- Checks a value against an entry. There may be no entry of the name. -/
def validate? (r : Registry) (name : String) (value : Json) : Option Outcome :=
  (r.slot? name).map fun slot => r.validateSlot slot value

/-- The entries that accept a value. -/
def classify (r : Registry) (value : Json) : List String :=
  r.names.zipIdx.filterMap fun (name, slot) =>
    if (r.validateSlot slot value).isAccepted then some name else none

def shape? (r : Registry) (name : String) : Option Shape :=
  (r.slot? name).bind fun slot => r.shapes[slot]?

end Registry

def unknownSchemaText (name : String) : String :=
  s!"no schema named `{name}` in this registry"

end DataSchema
