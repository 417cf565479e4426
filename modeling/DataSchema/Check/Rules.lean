import DataSchema.Check.Issue
import DataSchema.Pattern.Basic
import DataSchema.Schema.Finding

/-!
Refinements of each kind, in a fixed order: format, least, greatest, then the rest. A constraint
that makes no sense is reported and left out.
-/
namespace DataSchema

/-- Rules with what was found while they were made. -/
abbrev Drafted (α : Type) := List α × List FindingKind

/-- Reports bounds that leave nothing between them. -/
def crossedBounds (min max : Option Nat) (minName maxName : String) : List FindingKind :=
  match min, max with
  | some lo, some hi => if hi < lo then [.unsatisfiableBounds minName maxName] else []
  | _, _ => []

inductive StringRule where
  | format (format : TextFormat)
  | minLength (min : Nat)
  | maxLength (max : Nat)
  | pattern (pattern : Pattern)
deriving Repr

namespace StringRule

def textFormat? : Format → Option TextFormat
  | .uuid => some .uuid
  | .email => some .email
  | .uri => some .uri
  | .dateTime => some .dateTime
  | .date => some .date
  | _ => none

/-- Formats of strings that say nothing about their characters. -/
def annotations : List String := ["password", "byte", "binary"]

def ofFormat : Option Format → Drafted StringRule
  | none => ([], [])
  | some f =>
    match textFormat? f with
    | some known => ([.format known], [])
    | none =>
      if annotations.contains f.token then ([], []) else ([], [.unknownFormat .string f.token])

def ofPattern : Option String → Drafted StringRule
  | none => ([], [])
  | some source =>
    match Pattern.compile source with
    | .ok compiled => ([.pattern compiled], [])
    | .error refusal => ([], [.patternCompile source refusal.summary])

/-- The rules of a string: format, least length, greatest length, pattern. -/
def draft (format : Option Format) (c : Constraints) : Drafted StringRule :=
  let (formats, found) := ofFormat format
  let crossed := crossedBounds c.minLength c.maxLength "minLength" "maxLength"
  let (patterns, refused) := ofPattern c.pattern
  (formats ++ c.minLength.toList.map .minLength ++ c.maxLength.toList.map .maxLength ++ patterns,
    found ++ crossed ++ refused)

/-- The length of a string is its number of characters. -/
def reason? (s : String) : StringRule → Option Reason
  | .format f => if f.accepts s then none else some (.format f)
  | .minLength min => if s.length < min then some (.tooShort min s.length) else none
  | .maxLength max => if max < s.length then some (.tooLong max s.length) else none
  | .pattern p => if p.foundIn s then none else some (.patternMismatch p.source)

def reasons (rules : List StringRule) (s : String) : List Reason := rules.filterMap (reason? s)

end StringRule

inductive NumberRule where
  | formatRange (format : String) (min max : Binary64)
  | lower (bound : Binary64) (exclusive : Bool)
  | upper (bound : Binary64) (exclusive : Bool)
  | multipleOf (factor : Binary64)
deriving DecidableEq, Repr

namespace NumberRule

def ofFormat (kind : ScalarKind) : Option Format → Drafted NumberRule
  | none => ([], [])
  | some .int32 => ([.formatRange "int32" (.ofInt (-0x80000000)) (.ofInt 0x7FFFFFFF)], [])
  | some .int64 =>
    ([.formatRange "int64" (.ofInt (-0x8000000000000000)) (.ofInt 0x7FFFFFFFFFFFFFFF)], [])
  | some format =>
    if format = .other "float" || format = .other "double" then ([], [])
    else ([], [.unknownFormat kind format.token])

/-- A numeric exclusive bound replaces the inclusive one, and a flag makes it exclusive. -/
def resolveBound (inclusive : Option Binary64) : Option Exclusive → Option (Binary64 × Bool)
  | some (.bound value) => some (value, true)
  | some (.flag on) => inclusive.map fun bound => (bound, on)
  | none => inclusive.map fun bound => (bound, false)

def boundName (name exclusiveName : String) (exclusive : Bool) : String :=
  if exclusive then exclusiveName else name

def crossed : Option (Binary64 × Bool) → Option (Binary64 × Bool) → List FindingKind
  | some (lo, loExclusive), some (hi, hiExclusive) =>
    if hi.lt lo || (lo.eq hi && (loExclusive || hiExclusive)) then
      [.unsatisfiableBounds (boundName "minimum" "exclusiveMinimum" loExclusive)
        (boundName "maximum" "exclusiveMaximum" hiExclusive)]
    else []
  | _, _ => []

def ofFactor : Option Binary64 → Drafted NumberRule
  | none => ([], [])
  | some factor =>
    if factor.isFinite && Binary64.zero.lt factor then ([.multipleOf factor], [])
    else
      ([], [.invalidConstraint "multipleOf"
        ("must be a positive number, found " ++ factor.format .plain)])

/-- The rules of a number: range of the format, lower bound, upper bound, factor. -/
def draft (kind : ScalarKind) (format : Option Format) (c : Constraints) : Drafted NumberRule :=
  let (formats, found) := ofFormat kind format
  let lower := resolveBound c.minimum c.exclusiveMinimum
  let upper := resolveBound c.maximum c.exclusiveMaximum
  let (factors, refused) := ofFactor c.multipleOf
  (formats ++ lower.toList.map (fun b => .lower b.1 b.2)
      ++ upper.toList.map (fun b => .upper b.1 b.2) ++ factors,
    found ++ crossed lower upper ++ refused)

/-- What `multipleOf` forgives, relative to the larger operand and to one. -/
def tolerance : Binary64 := .ofDecimal false 1 (-9)

/-- The remainder is near zero or near the factor. -/
def isMultipleOf (x m : Binary64) : Bool :=
  let r := (x.rem m).abs
  let slack := tolerance.mul ((x.abs.max m).max .one)
  r.le slack || (m.sub r).abs.le slack

def reason? (x : Binary64) : NumberRule → Option Reason
  | .formatRange format min max =>
    if x.lt min || max.lt x then some (.outOfFormatRange format) else none
  | .lower bound exclusive =>
    if (if exclusive then bound.lt x else bound.le x) then none
    else some (.belowMinimum bound exclusive)
  | .upper bound exclusive =>
    if (if exclusive then x.lt bound else x.le bound) then none
    else some (.aboveMaximum bound exclusive)
  | .multipleOf factor => if isMultipleOf x factor then none else some (.notMultipleOf factor)

def reasons (rules : List NumberRule) (x : Binary64) : List Reason := rules.filterMap (reason? x)

end NumberRule

inductive ArrayRule where
  | minItems (min : Nat)
  | maxItems (max : Nat)
  | uniqueItems
deriving DecidableEq, Repr

namespace ArrayRule

def draft (count : CountRange) (unique : Bool) : Drafted ArrayRule :=
  (count.min.toList.map .minItems ++ count.max.toList.map .maxItems
      ++ (if unique then [.uniqueItems] else []),
    crossedBounds count.min count.max "minItems" "maxItems")

def reason? (items : List Json) : ArrayRule → Option Reason
  | .minItems min => if items.length < min then some (.tooFewItems min items.length) else none
  | .maxItems max => if max < items.length then some (.tooManyItems max items.length) else none
  | .uniqueItems => (Json.firstRepeat items).map fun (first, second) => .duplicateItems first second

def reasons (rules : List ArrayRule) (items : List Json) : List Reason :=
  rules.filterMap (reason? items)

end ArrayRule

inductive ObjectRule where
  | minProperties (min : Nat)
  | maxProperties (max : Nat)
deriving DecidableEq, Repr

namespace ObjectRule

def draft (count : CountRange) : Drafted ObjectRule :=
  (count.min.toList.map .minProperties ++ count.max.toList.map .maxProperties,
    crossedBounds count.min count.max "minProperties" "maxProperties")

def reason? (actual : Nat) : ObjectRule → Option Reason
  | .minProperties min => if actual < min then some (.tooFewProperties min actual) else none
  | .maxProperties max => if max < actual then some (.tooManyProperties max actual) else none

def reasons (rules : List ObjectRule) (actual : Nat) : List Reason :=
  rules.filterMap (reason? actual)

end ObjectRule
end DataSchema
