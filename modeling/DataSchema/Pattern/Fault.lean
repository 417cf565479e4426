import DataSchema.Pattern.Term

/-!
What can be wrong with a pattern, and the report that points at it.
-/
namespace DataSchema.Pattern

inductive FaultKind where
  | classEscapeInvalid | classRangeInvalid | classRangeLiteral | classUnclosed
  | decimalEmpty | decimalInvalid
  | hexEmpty | hexInvalid | hexInvalidDigit
  | escapeEnd | escapeUnrecognized
  | flagDanglingNegation | flagDuplicate (earlier : Span) | flagRepeatedNegation (earlier : Span)
  | flagEnd | flagUnrecognized
  | nameDuplicate (earlier : Span) | nameEmpty | nameInvalid | nameEnd
  | groupUnclosed | groupUnopened
  | nestLimitExceeded
  | countInvalid | countDecimalEmpty | countUnclosed | repetitionMissing
  | boundaryUnclosed | boundaryUnrecognized | boundaryEnd
  | unicodeClassInvalid
  | backreference | lookAround
  | unicodeNotAllowed | invalidUtf8 | propertyNotFound | propertyValueNotFound
deriving DecidableEq, Repr

namespace FaultKind

def message : FaultKind → String
  | .classEscapeInvalid => "invalid escape sequence found in character class"
  | .classRangeInvalid => "invalid character class range, the start must be <= the end"
  | .classRangeLiteral => "invalid range boundary, must be a literal"
  | .classUnclosed => "unclosed character class"
  | .decimalEmpty => "decimal literal empty"
  | .decimalInvalid => "decimal literal invalid"
  | .hexEmpty => "hexadecimal literal empty"
  | .hexInvalid => "hexadecimal literal is not a Unicode scalar value"
  | .hexInvalidDigit => "invalid hexadecimal digit"
  | .escapeEnd => "incomplete escape sequence, reached end of pattern prematurely"
  | .escapeUnrecognized => "unrecognized escape sequence"
  | .flagDanglingNegation => "dangling flag negation operator"
  | .flagDuplicate _ => "duplicate flag"
  | .flagRepeatedNegation _ => "flag negation operator repeated"
  | .flagEnd => "expected flag but got end of regex"
  | .flagUnrecognized => "unrecognized flag"
  | .nameDuplicate _ => "duplicate capture group name"
  | .nameEmpty => "empty capture group name"
  | .nameInvalid => "invalid capture group character"
  | .nameEnd => "unclosed capture group name"
  | .groupUnclosed => "unclosed group"
  | .groupUnopened => "unopened group"
  | .nestLimitExceeded =>
    s!"exceed the maximum number of nested parentheses/brackets ({nestLimit})"
  | .countInvalid => "invalid repetition count range, the start must be <= the end"
  | .countDecimalEmpty => "repetition quantifier expects a valid decimal"
  | .countUnclosed => "unclosed counted repetition"
  | .repetitionMissing => "repetition operator missing expression"
  | .boundaryUnclosed =>
    "special word boundary assertion is either unclosed or contains an invalid character"
  | .boundaryUnrecognized =>
    "unrecognized special word boundary assertion, valid choices are: " ++
      "start, end, start-half or end-half"
  | .boundaryEnd =>
    "found either the beginning of a special word boundary or a bounded repetition on a \\b " ++
      "with an opening brace, but no closing brace"
  | .unicodeClassInvalid => "invalid Unicode character class"
  | .backreference => "backreferences are not supported"
  | .lookAround => "look-around, including look-ahead and look-behind, is not supported"
  | .unicodeNotAllowed => "Unicode not allowed here"
  | .invalidUtf8 => "pattern can match invalid UTF-8"
  | .propertyNotFound => "Unicode property not found"
  | .propertyValueNotFound => "Unicode property value not found"

/-- The earlier part that a repeated part conflicts with. -/
def earlier? : FaultKind → Option Span
  | .flagDuplicate span => some span
  | .flagRepeatedNegation span => some span
  | .nameDuplicate span => some span
  | _ => none

end FaultKind

structure Fault where
  span : Span
  kind : FaultKind
deriving DecidableEq, Repr

/-- Line and column of a character, both counted from one. -/
def position (pattern : List Char) (offset : Nat) : Nat × Nat :=
  (pattern.take offset).foldl
    (fun (line, column) c => if c = '\n' then (line + 1, 1) else (line, column + 1)) (1, 1)

/-- A span by lines and columns. -/
structure Region where
  startLine : Nat
  startColumn : Nat
  stopLine : Nat
  stopColumn : Nat

def Region.ofSpan (pattern : List Char) (span : Span) : Region :=
  let (startLine, startColumn) := position pattern span.start
  let (stopLine, stopColumn) := position pattern span.stop
  ⟨startLine, startColumn, stopLine, stopColumn⟩

def Region.isOneLine (r : Region) : Bool := r.startLine == r.stopLine

/-- The lines of a pattern without their ends. A last line that is empty does not count. -/
def linesOf : List Char → List Char → List (List Char)
  | [], [] => []
  | line, [] => [line.reverse]
  | line, c :: rest =>
    if c = '\n' then
      (match line with
        | '\r' :: line => line.reverse
        | line => line.reverse) :: linesOf [] rest
    else linesOf (c :: line) rest

def spaces (n : Nat) : String := String.ofList (List.replicate n ' ')

/-- Carets under the regions of a line, the leftmost first. A region takes a caret at least. -/
def carets : Nat → List Region → String
  | _, [] => ""
  | column, r :: rest =>
    let blank := r.startColumn - 1 - column
    let width := max 1 (r.stopColumn - r.startColumn)
    spaces blank ++ String.ofList (List.replicate width '^')
      ++ carets (column + blank + width) rest

/-- Pattern lines, numbered if there are several, each followed by the carets under it. -/
def diagram (pattern : List Char) (regions : List Region) : String :=
  let lines := linesOf [] pattern
  let count := lines.length + if pattern.getLast? = some '\n' then 1 else 0
  let width := if count ≤ 1 then 0 else (toString count).length
  let label (line : Nat) : String :=
    if width = 0 then spaces 4
    else spaces (width - (toString line).length) ++ toString line ++ ": "
  let margin := if width = 0 then 4 else 2 + width
  let shown := lines.zipIdx.map fun (line, index) =>
    let here := (regions.filter fun r => r.isOneLine && r.startLine == index + 1).mergeSort
      fun r s => r.startColumn < s.startColumn
        || (r.startColumn == s.startColumn && r.stopColumn ≤ s.stopColumn)
    let marks := if here.isEmpty then "" else spaces margin ++ carets 0 here ++ "\n"
    label (index + 1) ++ String.ofList line ++ "\n" ++ marks
  String.join shown

def Region.note (r : Region) : String :=
  s!"on line {r.startLine} (column {r.startColumn}) through line {r.stopLine}" ++
    s!" (column {r.stopColumn - 1})"

/-- The last line of a report. -/
def FaultKind.summary (kind : FaultKind) : String := "error: " ++ kind.message

/-- The report on a fault. A pattern of several lines stands between two rules. -/
def Fault.report (source : String) (fault : Fault) : String :=
  let pattern := source.toList
  let regions := (fault.span :: fault.kind.earlier?.toList).map (Region.ofSpan pattern)
  let drawn := diagram pattern regions
  if pattern.contains '\n' then
    let rule := String.ofList (List.replicate 79 '~') ++ "\n"
    let long := (regions.filter fun r => !r.isOneLine).mergeSort
      fun r s => r.startLine < s.startLine
        || (r.startLine == s.startLine && r.startColumn ≤ s.startColumn)
    let notes := if long.isEmpty then "" else "\n".intercalate (long.map Region.note) ++ "\n"
    "regex parse error:\n" ++ rule ++ drawn ++ rule ++ notes ++ fault.kind.summary
  else "regex parse error:\n" ++ drawn ++ fault.kind.summary

end DataSchema.Pattern
