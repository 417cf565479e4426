/-!
Patterns as trees of terms. Every term knows its span, which faults found later point at.
-/
namespace DataSchema.Pattern

/-- The characters from `start` to before `stop`, counted from the beginning of the pattern. -/
structure Span where
  start : Nat
  stop : Nat
deriving DecidableEq, Repr

inductive Flag where
  | ignoreCase | multiLine | dotMatchesNewLine | swapGreed | unicode | crlf | ignoreSpace
deriving DecidableEq, Repr

/-- Flags that are switched on and flags that are switched off. -/
structure FlagChanges where
  on : List Flag
  off : List Flag
deriving DecidableEq, Repr

def FlagChanges.state? (changes : FlagChanges) (flag : Flag) : Option Bool :=
  if changes.on.contains flag then some true
  else if changes.off.contains flag then some false
  else none

inductive Assertion where
  | lineStart | lineEnd | textStart | textEnd
  | wordBoundary | notWordBoundary | wordStart | wordEnd | wordStartHalf | wordEndHalf
deriving DecidableEq, Repr

inductive PerlClass where
  | digit | space | word
deriving DecidableEq, Repr

/-- How a property is asked for: by a name or by a name and a value. -/
inductive PropertyQuery where
  | named (name : String)
  | valued (name : String) (value : String)
deriving DecidableEq, Repr

/-- A character. `isByte` marks one written with two hexadecimal digits, which is a byte where
patterns are not about Unicode. -/
structure Literal where
  span : Span
  char : Char
  isByte : Bool := false
deriving DecidableEq, Repr

inductive SetOperator where
  | intersection | difference | symmetricDifference
deriving DecidableEq, Repr

/-- What stands between brackets. -/
inductive ClassTerm where
  | literal (literal : Literal)
  | range (span : Span) (first last : Literal)
  | ascii (span : Span) (negated : Bool) (name : String)
  | perl (span : Span) (negated : Bool) (kind : PerlClass)
  | property (span : Span) (negated : Bool) (query : PropertyQuery)
  | bracketed (span : Span) (negated : Bool) (inner : ClassTerm)
  | union (span : Span) (items : List ClassTerm)
  | binary (span : Span) (operator : SetOperator) (left right : ClassTerm)
deriving Repr

def ClassTerm.span : ClassTerm → Span
  | .literal l => l.span
  | .range span _ _ => span
  | .ascii span _ _ => span
  | .perl span _ _ => span
  | .property span _ _ => span
  | .bracketed span _ _ => span
  | .union span _ => span
  | .binary span _ _ _ => span

/-- How often something may occur, and whether more is tried before less. -/
structure Count where
  min : Nat
  max : Option Nat
  greedy : Bool := true
deriving DecidableEq, Repr

inductive Term where
  | empty (span : Span)
  | flags (span : Span) (changes : FlagChanges)
  | literal (literal : Literal)
  | dot (span : Span)
  | assertion (span : Span) (kind : Assertion)
  | perl (span : Span) (negated : Bool) (kind : PerlClass)
  | property (span : Span) (negated : Bool) (query : PropertyQuery)
  | bracketed (span : Span) (negated : Bool) (inner : ClassTerm)
  | repetition (span : Span) (body : Term) (count : Count)
  | capture (span : Span) (body : Term)
  | group (span : Span) (changes : FlagChanges) (body : Term)
  | alternation (span : Span) (branches : List Term)
  | concat (span : Span) (parts : List Term)
deriving Repr

def Term.span : Term → Span
  | .empty span => span
  | .flags span _ => span
  | .literal l => l.span
  | .dot span => span
  | .assertion span _ => span
  | .perl span _ _ => span
  | .property span _ _ => span
  | .bracketed span _ _ => span
  | .repetition span _ _ => span
  | .capture span _ => span
  | .group span _ _ => span
  | .alternation span _ => span
  | .concat span _ => span

/-- Levels that a pattern may nest. -/
def nestLimit : Nat := 250

mutual

/-- The first part, from the outside in, that is nested deeper than the limit. -/
def ClassTerm.tooDeep? (depth : Nat) : ClassTerm → Option Span
  | .bracketed span _ inner =>
    if nestLimit ≤ depth then some span else inner.tooDeep? (depth + 1)
  | .union _ [] => none
  | .union span items => if nestLimit ≤ depth then some span else itemTooDeep? (depth + 1) items
  | .binary span _ left right =>
    if nestLimit ≤ depth then some span
    else left.tooDeep? (depth + 1) <|> right.tooDeep? (depth + 1)
  | _ => none

def ClassTerm.itemTooDeep? (depth : Nat) : List ClassTerm → Option Span
  | [] => none
  | item :: rest => item.tooDeep? depth <|> ClassTerm.itemTooDeep? depth rest

end

mutual

def Term.tooDeep? (depth : Nat) : Term → Option Span
  | .bracketed span _ inner =>
    if nestLimit ≤ depth then some span else inner.tooDeep? (depth + 1)
  | .repetition span body _ =>
    if nestLimit ≤ depth then some span else body.tooDeep? (depth + 1)
  | .capture span body => if nestLimit ≤ depth then some span else body.tooDeep? (depth + 1)
  | .group span _ body => if nestLimit ≤ depth then some span else body.tooDeep? (depth + 1)
  | .alternation span branches =>
    if nestLimit ≤ depth then some span else partTooDeep? (depth + 1) branches
  | .concat span parts => if nestLimit ≤ depth then some span else partTooDeep? (depth + 1) parts
  | _ => none

def Term.partTooDeep? (depth : Nat) : List Term → Option Span
  | [] => none
  | part :: rest => part.tooDeep? depth <|> Term.partTooDeep? depth rest

end

end DataSchema.Pattern
