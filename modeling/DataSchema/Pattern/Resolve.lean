import DataSchema.Pattern.Fault
import DataSchema.Pattern.Regex

/-!
Regular expressions from terms. Flags hold from where they are set to the end of their group, and
without the Unicode flag a pattern may only match what is sure to be whole characters.
-/
namespace DataSchema.Pattern

open Unicode (CodeSet)

structure Flags where
  ignoreCase : Bool := false
  multiLine : Bool := false
  dotMatchesNewLine : Bool := false
  swapGreed : Bool := false
  unicode : Bool := true
  crlf : Bool := false
deriving DecidableEq, Repr

def Flags.apply (flags : Flags) (changes : FlagChanges) : Flags :=
  { ignoreCase := (changes.state? .ignoreCase).getD flags.ignoreCase
    multiLine := (changes.state? .multiLine).getD flags.multiLine
    dotMatchesNewLine := (changes.state? .dotMatchesNewLine).getD flags.dotMatchesNewLine
    swapGreed := (changes.state? .swapGreed).getD flags.swapGreed
    unicode := (changes.state? .unicode).getD flags.unicode
    crlf := (changes.state? .crlf).getD flags.crlf }

def asciiLower : CodeSet := .ofRange 0x61 0x7A
def asciiUpper : CodeSet := .ofRange 0x41 0x5A
def asciiDigits : CodeSet := .ofRange 0x30 0x39
def asciiSpace : CodeSet := ⟨[(0x09, 0x0D), (0x20, 0x20)]⟩
def asciiWord : CodeSet := ⟨[(0x30, 0x39), (0x41, 0x5A), (0x5F, 0x5F), (0x61, 0x7A)]⟩

/-- The characters of a class named between colons. -/
def asciiClass : String → CodeSet
  | "alnum" => ⟨[(0x30, 0x39), (0x41, 0x5A), (0x61, 0x7A)]⟩
  | "alpha" => ⟨[(0x41, 0x5A), (0x61, 0x7A)]⟩
  | "ascii" => ⟨[(0, 0x7F)]⟩
  | "blank" => ⟨[(0x09, 0x09), (0x20, 0x20)]⟩
  | "cntrl" => ⟨[(0, 0x1F), (0x7F, 0x7F)]⟩
  | "digit" => asciiDigits
  | "graph" => ⟨[(0x21, 0x7E)]⟩
  | "lower" => asciiLower
  | "print" => ⟨[(0x20, 0x7E)]⟩
  | "punct" => ⟨[(0x21, 0x2F), (0x3A, 0x40), (0x5B, 0x60), (0x7B, 0x7E)]⟩
  | "space" => asciiSpace
  | "upper" => asciiUpper
  | "word" => asciiWord
  | "xdigit" => ⟨[(0x30, 0x39), (0x41, 0x46), (0x61, 0x66)]⟩
  | _ => .empty

def perlClass (unicode : Bool) : PerlClass → CodeSet
  | .digit => if unicode then Unicode.decimalDigits else asciiDigits
  | .space => if unicode then Unicode.whiteSpace else asciiSpace
  | .word => if unicode then Unicode.wordCharacters else asciiWord

def shifted (s : CodeSet) (move : Nat → Nat) : CodeSet :=
  ⟨s.ranges.map fun (lo, hi) => (move lo, move hi)⟩

/-- Adds the other case of ASCII letters. -/
def foldAscii (s : CodeSet) : CodeSet :=
  CodeSet.unions
    [s, shifted (s.inter asciiLower) (· - 0x20), shifted (s.inter asciiUpper) (· + 0x20)]

def Flags.fold (flags : Flags) (s : CodeSet) : CodeSet :=
  if !flags.ignoreCase then s
  else if flags.unicode then s.foldCase
  else foldAscii s

/-- Without the Unicode flag, sets beyond ASCII stand for parts of characters. -/
def Flags.checked (flags : Flags) (span : Span) (s : CodeSet) : Except Fault CodeSet :=
  if !flags.unicode && !s.isAscii then .error ⟨span, .invalidUtf8⟩ else .ok s

def negatedIf (negated : Bool) (s : CodeSet) : CodeSet := if negated then s.complement else s

/-- Folding comes before negation. -/
def Flags.foldNegate (flags : Flags) (span : Span) (negated : Bool) (s : CodeSet) :
    Except Fault CodeSet :=
  flags.checked span (negatedIf negated (flags.fold s))

/-- Perl classes are closed under case folding. -/
def Flags.perl (flags : Flags) (span : Span) (negated : Bool) (kind : PerlClass) :
    Except Fault CodeSet :=
  flags.checked span (negatedIf negated (perlClass flags.unicode kind))

def propertyFault (span : Span) : Unicode.PropertyError → Fault
  | .unknownProperty => ⟨span, .propertyNotFound⟩
  | .unknownValue => ⟨span, .propertyValueNotFound⟩

def Flags.property (flags : Flags) (span : Span) (negated : Bool) (query : PropertyQuery) :
    Except Fault CodeSet :=
  if !flags.unicode then .error ⟨span, .unicodeNotAllowed⟩
  else
    let found :=
      match query with
      | .named name => Unicode.namedSet name
      | .valued name value => Unicode.valuedSet name value
    match found with
    | .ok s => flags.foldNegate span negated s
    | .error e => .error (propertyFault span e)

/-- Two hexadecimal digits stand for a byte without the Unicode flag, and a byte beyond ASCII is
no character. -/
def Flags.char (flags : Flags) (l : Literal) : Except Fault Char :=
  if !flags.unicode && l.isByte && 0x7F < l.char.toNat then .error ⟨l.span, .invalidUtf8⟩
  else .ok l.char

/-- A character between brackets. -/
def Flags.classChar (flags : Flags) (l : Literal) : Except Fault Nat := do
  let c ← flags.char l
  if !flags.unicode && 0x7F < c.toNat then .error ⟨l.span, .unicodeNotAllowed⟩ else .ok c.toNat

def SetOperator.apply : SetOperator → CodeSet → CodeSet → CodeSet
  | .intersection, s, t => s.inter t
  | .difference, s, t => s.difference t
  | .symmetricDifference, s, t => s.symmetricDifference t

mutual

/-- The characters of a class. -/
def resolveClass (flags : Flags) : ClassTerm → Except Fault CodeSet
  | .literal l => do
    let c ← flags.classChar l
    .ok (.ofRange c c)
  | .range _ first last => do
    let first ← flags.classChar first
    let last ← flags.classChar last
    .ok (.ofRange first last)
  | .ascii span negated name => flags.foldNegate span negated (asciiClass name)
  | .perl span negated kind => flags.perl span negated kind
  | .property span negated query => flags.property span negated query
  | .bracketed span negated inner => do
    let s ← resolveClass flags inner
    flags.foldNegate span negated s
  | .union _ items => do
    let sets ← resolveItems flags items
    .ok (.unions sets)
  | .binary _ operator left right => do
    let s ← resolveClass flags left
    let t ← resolveClass flags right
    .ok (operator.apply (flags.fold s) (flags.fold t))

def resolveItems (flags : Flags) : List ClassTerm → Except Fault (List CodeSet)
  | [] => .ok []
  | item :: rest => do
    let s ← resolveClass flags item
    let sets ← resolveItems flags rest
    .ok (s :: sets)

end

/-- The form of a set of characters, or of bytes without the Unicode flag. -/
def Flags.regexOf (flags : Flags) (s : CodeSet) : Regex := .ofSet (!flags.unicode) s

def Flags.literal (flags : Flags) (l : Literal) : Except Fault Regex := do
  let c ← flags.char l
  .ok (flags.regexOf (flags.fold (.ofChar c)))

def Flags.dot (flags : Flags) (span : Span) : Except Fault Regex :=
  if !flags.unicode then .error ⟨span, .invalidUtf8⟩
  else if flags.dotMatchesNewLine then .ok (.ofSet false .all)
  else if flags.crlf then
    .ok (.ofSet false (CodeSet.complement ⟨[(0x0A, 0x0A), (0x0D, 0x0D)]⟩))
  else .ok (.ofSet false (CodeSet.complement ⟨[(0x0A, 0x0A)]⟩))

/-- A flag swaps greedy repetitions and those that are not. -/
def Flags.count (flags : Flags) (count : Count) : Count :=
  { count with greedy := count.greedy != flags.swapGreed }

def Flags.look (flags : Flags) : Assertion → Look
  | .lineStart => if flags.multiLine then .lineStart flags.crlf else .textStart
  | .lineEnd => if flags.multiLine then .lineEnd flags.crlf else .textEnd
  | .textStart => .textStart
  | .textEnd => .textEnd
  | .wordBoundary => .word .boundary flags.unicode
  | .notWordBoundary => .word .noBoundary flags.unicode
  | .wordStart => .word .start flags.unicode
  | .wordEnd => .word .stop flags.unicode
  | .wordStartHalf => .word .startHalf flags.unicode
  | .wordEndHalf => .word .stopHalf flags.unicode

mutual

/-- The regular expression of a term, and the flags that hold after it. -/
def resolve (flags : Flags) : Term → Except Fault (Regex × Flags)
  | .empty _ => .ok (.empty, flags)
  | .flags _ changes => .ok (.empty, flags.apply changes)
  | .literal l => (flags.literal l).map (·, flags)
  | .dot span => (flags.dot span).map (·, flags)
  | .assertion _ kind => .ok (.look (flags.look kind), flags)
  | .perl span negated kind =>
    (flags.perl span negated kind).map fun s => (flags.regexOf s, flags)
  | .property span negated query =>
    (flags.property span negated query).map fun s => (flags.regexOf s, flags)
  | .bracketed span negated inner => do
    let s ← resolveClass flags inner
    let s ← flags.foldNegate span negated s
    .ok (flags.regexOf s, flags)
  | .repetition _ body count => do
    let (regex, after) ← resolve flags body
    .ok (.repeated regex (after.count count), after)
  | .capture _ body => do
    let (regex, _) ← resolve flags body
    .ok (.capture regex, flags)
  | .group _ changes body => do
    let (regex, _) ← resolve (flags.apply changes) body
    .ok (regex, flags)
  | .alternation _ branches => do
    let (regexes, after) ← resolveAll flags branches
    .ok (.ofBranches regexes, after)
  | .concat _ parts => do
    let (regexes, after) ← resolveAll flags parts
    .ok (.ofParts regexes, after)

def resolveAll (flags : Flags) : List Term → Except Fault (List Regex × Flags)
  | [] => .ok ([], flags)
  | term :: rest => do
    let (regex, flags) ← resolve flags term
    let (regexes, flags) ← resolveAll flags rest
    .ok (regex :: regexes, flags)

end

end DataSchema.Pattern
