import DataSchema.Pattern.Fault
import DataSchema.Text.Digit
import DataSchema.Unicode.Property

/-!
Reading patterns. The pattern is read from left to right, and the first fault ends the reading.
-/
namespace DataSchema.Pattern

/-- What is left of a pattern, and what reading it depends on: whether blanks and comments are
skipped, and the names of groups so far. -/
structure Cursor where
  offset : Nat
  rest : List Char
  ignoreSpace : Bool := false
  names : List (String × Span) := []

abbrev Parser := StateT Cursor (Except Fault)

namespace Parser

/-- Skips blanks and comments, which end with their line. -/
def skipIgnored : Bool → Nat → List Char → Nat × List Char
  | _, offset, [] => (offset, [])
  | true, offset, c :: rest => skipIgnored (c != '\n') (offset + 1) rest
  | false, offset, c :: rest =>
    if Unicode.isWhiteSpace c then skipIgnored false (offset + 1) rest
    else if c = '#' then skipIgnored true (offset + 1) rest
    else (offset, c :: rest)

def skipSpace : Parser Unit := modify fun cur =>
  if cur.ignoreSpace then
    let (offset, rest) := skipIgnored false cur.offset cur.rest
    { cur with offset, rest }
  else cur

def step : Parser Unit := modify fun cur =>
  match cur.rest with
  | [] => cur
  | _ :: rest => { cur with offset := cur.offset + 1, rest }

/-- Steps to the next character that is not ignored. -/
def stepOver : Parser Unit := do
  step
  skipSpace

def offset : Parser Nat := return (← get).offset
def next? : Parser (Option Char) := return (← get).rest.head?
def atEnd : Parser Bool := return (← get).rest.isEmpty

def failAt {α : Type} (start stop : Nat) (kind : FaultKind) : Parser α :=
  throw ⟨⟨start, stop⟩, kind⟩

/-- A fault that spans from an earlier place to the present one. -/
def failFrom {α : Type} (start : Nat) (kind : FaultKind) : Parser α := do
  failAt start (← offset) kind

def failHere {α : Type} (kind : FaultKind) : Parser α := do
  failAt (← offset) (← offset) kind

def failOnNext {α : Type} (kind : FaultKind) : Parser α := do
  failAt (← offset) ((← offset) + 1) kind

/-- Steps past a text if it comes next. -/
def skipText? (text : List Char) : Parser Bool := do
  let cur ← get
  if text.isPrefixOf cur.rest then
    set { cur with offset := cur.offset + text.length, rest := cur.rest.drop text.length }
    return true
  else return false

/-- Collects characters while a test holds, stepping over ignored ones. -/
def collect (test : Char → Bool) : Nat → Parser (List Char)
  | 0 => return []
  | fuel + 1 => do
    match ← next? with
    | none => return []
    | some c =>
      if test c then
        stepOver
        return c :: (← collect test fuel)
      else return []

def collectAll (test : Char → Bool) : Parser (List Char) := do
  collect test (← get).rest.length

/-- The longest number of repetitions. -/
def largestCount : Nat := 0xFFFFFFFF

/-- The decimal of a counted repetition with blanks around it, or what is wrong with it. -/
def countDecimal : Parser (Except Fault Nat) := do
  modify fun cur =>
    let blank := cur.rest.takeWhile Unicode.isWhiteSpace
    { cur with offset := cur.offset + blank.length, rest := cur.rest.drop blank.length }
  let start ← offset
  let digits ← collectAll Text.isDecimal
  let span : Span := ⟨start, ← offset⟩
  let _ ← collectAll Unicode.isWhiteSpace
  let value := Text.ofDecimalDigits digits
  if digits.isEmpty then return .error ⟨span, .countDecimalEmpty⟩
  else if largestCount < value then return .error ⟨span, .decimalInvalid⟩
  else return .ok value

/-- The bounds of a counted repetition after its opening brace at `start`. -/
def countBounds (start : Nat) : Parser (Nat × Option Nat) := do
  let first ← countDecimal
  match ← next? with
  | none => failFrom start .countUnclosed
  | some ',' =>
    stepOver
    match ← next? with
    | none => failFrom start .countUnclosed
    | some '\x7d' => return (← first, none)
    | some _ =>
      let first ← first
      return (first, some (← (← countDecimal)))
  | some _ =>
    let count ← first
    return (count, some count)

/-- Without a question mark after it, a repetition is greedy. -/
def greedyMark : Parser Bool := do
  if (← next?) = some '?' then
    step
    return false
  else return true

/-- A counted repetition at its opening brace. -/
def countedRepetition : Parser Count := do
  let start ← offset
  stepOver
  if ← atEnd then failFrom start .countUnclosed
  let (least, most) ← countBounds start
  if (← next?) ≠ some '\x7d' then failFrom start .countUnclosed
  stepOver
  let greedy ← greedyMark
  match most with
  | some most =>
    if most < least then failFrom start .countInvalid else return ⟨least, some most, greedy⟩
  | none => return ⟨least, none, greedy⟩

/-- Digits that follow `x`, `u` and `U`. -/
def hexLength : Char → Nat
  | 'x' => 2
  | 'u' => 4
  | _ => 8

def scalar? (code : Nat) : Option Char :=
  if h : code.isValidChar then some (Char.ofNatAux code h) else none

def hexDigit : Parser Char := do
  match ← next? with
  | some c => if Text.isHex c then return c else failOnNext .hexInvalidDigit
  | none => failHere .escapeEnd

/-- A fixed number of hexadecimal digits. -/
def hexDigits : Nat → Parser (List Char)
  | 0 => return []
  | count + 1 => do
    let c ← hexDigit
    stepOver
    return c :: (← hexDigits count)

def hexFixed (start : Nat) (mark : Char) : Parser Literal := do
  let digitsStart ← offset
  let digits ← hexDigits (hexLength mark)
  match scalar? (Text.ofHexDigits digits) with
  | some char => return ⟨⟨start, ← offset⟩, char, mark = 'x'⟩
  | none => failFrom digitsStart .hexInvalid

/-- Hexadecimal digits up to a closing brace. -/
def hexBraced (start : Nat) : Parser Literal := do
  let brace ← offset
  stepOver
  let digits ← collectAll Text.isHex
  match ← next? with
  | none => failFrom brace .escapeEnd
  | some c =>
    if c ≠ '\x7d' then failOnNext .hexInvalidDigit
    let stop ← offset
    stepOver
    if digits.isEmpty then failFrom brace .hexEmpty
    match scalar? (Text.ofHexDigits digits) with
    | some char => return ⟨⟨start, ← offset⟩, char, false⟩
    | none => failAt (brace + 1) stop .hexInvalid

/-- An escape by number, at its mark. -/
def hexEscape (start : Nat) (mark : Char) : Parser Literal := do
  stepOver
  match ← next? with
  | none => failHere .escapeEnd
  | some '\x7b' => hexBraced start
  | some _ => hexFixed start mark

/-- Splits at the first occurrence of a text. -/
def splitOnce? (separator : List Char) : List Char → Option (List Char × List Char)
  | [] => none
  | c :: rest =>
    if separator.isPrefixOf (c :: rest) then some ([], (c :: rest).drop separator.length)
    else (splitOnce? separator rest).map fun (before, after) => (c :: before, after)

/-- What is asked for between the braces of a property class, and whether it is the opposite: a
value may be set apart by `!=`, by a colon or by `=`, and the first of these that occurs counts. -/
def propertyQuery (name : List Char) : PropertyQuery × Bool :=
  let valued (parts : List Char × List Char) : PropertyQuery :=
    .valued (String.ofList parts.1) (String.ofList parts.2)
  match splitOnce? ['!', '='] name with
  | some parts => (valued parts, true)
  | none =>
    match splitOnce? [':'] name <|> splitOnce? ['='] name with
    | some parts => (valued parts, false)
    | none => (.named (String.ofList name), false)

/-- A property class, at its letter. -/
def propertyClass (start : Nat) (negated : Bool) : Parser Term := do
  stepOver
  match ← next? with
  | none => failHere .escapeEnd
  | some '\x7b' =>
    stepOver
    let name ← collectAll (· ≠ '\x7d')
    if ← atEnd then failHere .escapeEnd
    step
    let (query, opposite) := propertyQuery name
    return .property ⟨start, ← offset⟩ (negated != opposite) query
  | some c =>
    if c = '\\' then failOnNext .unicodeClassInvalid
    stepOver
    return .property ⟨start, ← offset⟩ negated (.named c.toString)

def isMeta (c : Char) : Bool := ("\\.+*?()|[]\x7b\x7d^$#&-~".toList).contains c

/-- Characters that stand for themselves after a backslash. -/
def isEscapable (c : Char) : Bool :=
  isMeta c || (c.toNat < 0x80 && !Text.isAsciiAlphanumeric c && c ≠ '<' && c ≠ '>')

def control? : Char → Option Char
  | 'a' => some '\x07'
  | 'f' => some '\x0c'
  | 't' => some '\t'
  | 'n' => some '\n'
  | 'r' => some '\r'
  | 'v' => some '\x0b'
  | _ => none

def assertion? : Char → Option Assertion
  | 'A' => some .textStart
  | 'z' => some .textEnd
  | 'b' => some .wordBoundary
  | 'B' => some .notWordBoundary
  | '<' => some .wordStart
  | '>' => some .wordEnd
  | _ => none

def perlClass? : Char → Option (PerlClass × Bool)
  | 'd' => some (.digit, false)
  | 's' => some (.space, false)
  | 'w' => some (.word, false)
  | 'D' => some (.digit, true)
  | 'S' => some (.space, true)
  | 'W' => some (.word, true)
  | _ => none

def isBoundaryChar (c : Char) : Bool := Text.isAsciiLetter c || c = '-'

def boundaryOf? : String → Option Assertion
  | "start" => some .wordStart
  | "end" => some .wordEnd
  | "start-half" => some .wordStartHalf
  | "end-half" => some .wordEndHalf
  | _ => none

/-- The kind of a word boundary, if braces with a name follow it. Braces with anything else are
left for a counted repetition. -/
def boundaryName? (start : Nat) : Parser (Option Assertion) := do
  let before ← get
  if before.rest.head? ≠ some '\x7b' then return none
  stepOver
  match ← next? with
  | none => failFrom start .boundaryEnd
  | some c =>
    if !isBoundaryChar c then
      set before
      return none
    let nameStart ← offset
    let name ← collectAll isBoundaryChar
    if (← next?) ≠ some '\x7d' then failFrom before.offset .boundaryUnclosed
    let nameStop ← offset
    step
    match boundaryOf? (String.ofList name) with
    | some kind => return some kind
    | none => failAt nameStart nameStop .boundaryUnrecognized

/-- An escape of one letter, at the letter. -/
def letterEscape (start : Nat) (c : Char) : Parser Term := do
  step
  let span : Span := ⟨start, ← offset⟩
  if isEscapable c then return .literal ⟨span, c, false⟩
  else if let some char := control? c then return .literal ⟨span, char, false⟩
  else if c = 'b' then
    let kind ← boundaryName? start
    return .assertion ⟨start, ← offset⟩ (kind.getD .wordBoundary)
  else if let some kind := assertion? c then return .assertion span kind
  else failFrom start .escapeUnrecognized

/-- An escape, at its backslash. -/
def escape : Parser Term := do
  let start ← offset
  step
  match ← next? with
  | none => failFrom start .escapeEnd
  | some c =>
    if Text.isDecimal c then failAt start ((← offset) + 1) .backreference
    else if c = 'x' || c = 'u' || c = 'U' then return .literal (← hexEscape start c)
    else if c = 'p' || c = 'P' then propertyClass start (c = 'P')
    else if let some (kind, negated) := perlClass? c then
      step
      return .perl ⟨start, ← offset⟩ negated kind
    else letterEscape start c

/-- A term of one character or escape. -/
def primitive (c : Char) : Parser Term := do
  let start ← offset
  let span : Span := ⟨start, start + 1⟩
  match c with
  | '\\' => escape
  | '.' =>
    step
    return .dot span
  | '^' =>
    step
    return .assertion span .lineStart
  | '$' =>
    step
    return .assertion span .lineEnd
  | c =>
    step
    return .literal ⟨span, c, false⟩

def classMember (term : Term) : Parser ClassTerm :=
  match term with
  | .literal l => return .literal l
  | .perl span negated kind => return .perl span negated kind
  | .property span negated query => return .property span negated query
  | other => throw ⟨other.span, .classEscapeInvalid⟩

def rangeEnd (term : Term) : Parser Literal :=
  match term with
  | .literal l => return l
  | other => throw ⟨other.span, .classRangeLiteral⟩

def classPrimitive (c : Char) : Parser Term := do
  if c = '\\' then escape
  else
    let start ← offset
    step
    return .literal ⟨⟨start, start + 1⟩, c, false⟩

/-- The character after the next one, blanks and the mark of a comment being skipped where they
are ignored. -/
def afterNext? : Parser (Option Char) := do
  let cur ← get
  let after := cur.rest.tail
  if cur.ignoreSpace then
    match after.dropWhile Unicode.isWhiteSpace with
    | '#' :: rest => return (rest.dropWhile Unicode.isWhiteSpace).head?
    | rest => return rest.head?
  else return after.head?

/-- A character, a range or an escape between brackets, the innermost of which opened at `opened`.
A hyphen before the end or before another hyphen makes no range. -/
def classItem (opened : Span) (c : Char) : Parser ClassTerm := do
  let first ← classPrimitive c
  skipSpace
  match ← next? with
  | none => throw ⟨opened, .classUnclosed⟩
  | some '-' =>
    let after ← afterNext?
    if after = some ']' || after = some '-' then classMember first
    else
      stepOver
      match ← next? with
      | none => throw ⟨opened, .classUnclosed⟩
      | some c =>
        let last ← classPrimitive c
        let span : Span := ⟨first.span.start, last.span.stop⟩
        let first ← rangeEnd first
        let last ← rangeEnd last
        if last.char < first.char then throw ⟨span, .classRangeInvalid⟩
        else return .range span first last
  | some _ => classMember first

def asciiClassNames : List String :=
  ["alnum", "alpha", "ascii", "blank", "cntrl", "digit", "graph", "lower", "print", "punct",
    "space", "upper", "word", "xdigit"]

/-- A named class such as `[:alpha:]`, if one comes next. -/
def asciiClass? : Parser (Option ClassTerm) := do
  let cur ← get
  let skipCaret : List Char → Bool × List Char
    | '^' :: rest => (true, rest)
    | rest => (false, rest)
  match cur.rest with
  | '[' :: ':' :: rest =>
    let (negated, rest) := skipCaret rest
    let name := rest.takeWhile (· ≠ ':')
    match rest.drop name.length with
    | ':' :: ']' :: rest =>
      let name := String.ofList name
      if asciiClassNames.contains name then
        let stop := cur.offset + (cur.rest.length - rest.length)
        set { cur with offset := stop, rest }
        return some (.ascii ⟨cur.offset, stop⟩ negated name)
      else return none
    | _ => return none
  | _ => return none

/-- Hyphens that come first between brackets stand for themselves. -/
def leadingHyphens (start : Nat) : Nat → Parser (List ClassTerm)
  | 0 => return []
  | fuel + 1 => do
    if (← next?) = some '-' then
      let place ← offset
      stepOver
      if ← atEnd then failAt start start .classUnclosed
      return .literal ⟨⟨place, place + 1⟩, '-', false⟩ :: (← leadingHyphens start fuel)
    else return []

/-- What opens brackets: whether they are negated, and the items that are literal because they
come first. -/
def openClass : Parser (Span × Bool × List ClassTerm) := do
  let start ← offset
  stepOver
  if ← atEnd then failFrom start .classUnclosed
  let negated := (← next?) = some '^'
  if negated then
    stepOver
    if ← atEnd then failFrom start .classUnclosed
  let hyphens ← leadingHyphens start (← get).rest.length
  if hyphens.isEmpty && (← next?) = some ']' then
    let place ← offset
    stepOver
    if ← atEnd then failFrom start .classUnclosed
    return (⟨start, ← offset⟩, negated, [.literal ⟨⟨place, place + 1⟩, ']', false⟩])
  else return (⟨start, ← offset⟩, negated, hyphens)

/-- One item stands for itself. `start` is where the items begin. -/
def unionOf (start : Nat) (items : List ClassTerm) : ClassTerm :=
  match items with
  | [] => .union ⟨start, start⟩ []
  | [item] => item
  | first :: rest =>
    .union ⟨first.span.start, ((rest.getLast?.map ClassTerm.span).getD first.span).stop⟩ items

/-- Joins the items after an operator with what stands before it. -/
def joined (left : Option (SetOperator × ClassTerm)) (right : ClassTerm) : ClassTerm :=
  match left with
  | none => right
  | some (operator, left) => .binary ⟨left.span.start, right.span.stop⟩ operator left right

def setOperator? : Parser (Option SetOperator) := do
  match (← get).rest with
  | '&' :: '&' :: _ => return some .intersection
  | '-' :: '-' :: _ => return some .difference
  | '~' :: '~' :: _ => return some .symmetricDifference
  | _ => return none

/-- The rest of a class that opened at `opened`: `left` is what stands before the last operator,
and `items`, last first, what has been read since `start`. Every round reads a character. -/
def classBody :
    Nat → Span → Bool → Option (SetOperator × ClassTerm) → Nat → List ClassTerm →
      Parser ClassTerm
  | 0, opened, _, _, _, _ => throw ⟨opened, .classUnclosed⟩
  | fuel + 1, opened, negated, left, start, items => do
    skipSpace
    match ← next? with
    | none => throw ⟨opened, .classUnclosed⟩
    | some '[' =>
      match ← asciiClass? with
      | some item => classBody fuel opened negated left start (item :: items)
      | none =>
        let (inner, innerNegated, first) ← openClass
        let item ← classBody fuel inner innerNegated none (← offset) first.reverse
        classBody fuel opened negated left start (item :: items)
    | some ']' =>
      step
      return .bracketed ⟨opened.start, ← offset⟩ negated
        (joined left (unionOf start items.reverse))
    | some c =>
      match ← setOperator? with
      | some operator =>
        step
        step
        let left := joined left (unionOf start items.reverse)
        classBody fuel opened negated (some (operator, left)) (← offset) []
      | none =>
        let item ← classItem opened c
        classBody fuel opened negated left start (item :: items)

/-- A class, at its opening bracket. -/
def bracketedClass : Parser Term := do
  let fuel := (← get).rest.length
  let (opened, negated, first) ← openClass
  match ← classBody fuel opened negated none (← offset) first.reverse with
  | .bracketed span negated inner => return .bracketed span negated inner
  | other => return .bracketed other.span false other

def flag? : Char → Option Flag
  | 'i' => some .ignoreCase
  | 'm' => some .multiLine
  | 's' => some .dotMatchesNewLine
  | 'U' => some .swapGreed
  | 'u' => some .unicode
  | 'R' => some .crlf
  | 'x' => some .ignoreSpace
  | _ => none

/-- Flags up to a colon or a closing parenthesis. `seen` holds the flags read with their spans,
last first, and `minus` the span of the negation. -/
def flagsFrom : Nat → List (Flag × Span) → Option Span → Bool → Parser FlagChanges
  | 0, _, _, _ => failHere .flagEnd
  | fuel + 1, seen, minus, dangling => do
    match ← next? with
    | none => failHere .flagEnd
    | some c =>
      if c = ':' || c = ')' then
        match minus with
        | some span =>
          if dangling then throw ⟨span, .flagDanglingNegation⟩
          let (off, on) := seen.reverse.partition fun entry => span.start < entry.2.start
          return ⟨on.map (·.1), off.map (·.1)⟩
        | none => return ⟨seen.reverse.map (·.1), []⟩
      else
        let span : Span := ⟨← offset, (← offset) + 1⟩
        if c = '-' then
          if let some earlier := minus then failOnNext (.flagRepeatedNegation earlier)
          step
          flagsFrom fuel seen (some span) true
        else
          match flag? c with
          | none => failOnNext .flagUnrecognized
          | some flag =>
            if let some earlier := seen.lookup flag then failOnNext (.flagDuplicate earlier)
            step
            flagsFrom fuel ((flag, span) :: seen) minus false

def isNameChar (first : Bool) (c : Char) : Bool :=
  c = '_' || Unicode.nameLetters.holds c
    || (!first && (c = '.' || c = '[' || c = ']' || Unicode.nameNumbers.holds c))

def nameChars : Nat → Bool → Parser (List Char)
  | 0, _ => return []
  | fuel + 1, first => do
    match ← next? with
    | none => return []
    | some '>' => return []
    | some c =>
      if !isNameChar first c then failOnNext .nameInvalid
      step
      return c :: (← nameChars fuel false)

/-- The name of a group, which no other group has. -/
def groupName : Parser Unit := do
  if ← atEnd then failHere .nameEnd
  let start ← offset
  let name ← nameChars (← get).rest.length true
  let span : Span := ⟨start, ← offset⟩
  if ← atEnd then failHere .nameEnd
  step
  if name.isEmpty then failAt start start .nameEmpty
  let name := String.ofList name
  let cur ← get
  match cur.names.lookup name with
  | some earlier => throw ⟨span, .nameDuplicate earlier⟩
  | none => set { cur with names := cur.names ++ [(name, span)] }

/-- What a parenthesis opens. -/
inductive Opening where
  | flags (changes : FlagChanges)
  | capture
  | group (changes : FlagChanges)

def lookAroundMarks : List (List Char) :=
  [['?', '='], ['?', '!'], ['?', '<', '='], ['?', '<', '!']]

def skipAnyText? : List (List Char) → Parser Bool
  | [] => return false
  | text :: rest => do
    if ← skipText? text then return true else skipAnyText? rest

/-- An opening parenthesis with what belongs to it. -/
def opening : Parser Opening := do
  let start ← offset
  stepOver
  if ← skipAnyText? lookAroundMarks then failFrom start .lookAround
  let inner ← offset
  if ← skipAnyText? [['?', 'P', '<'], ['?', '<']] then
    groupName
    return .capture
  else if ← skipText? ['?'] then
    if ← atEnd then failAt start (start + 1) .groupUnclosed
    let changes ← flagsFrom ((← get).rest.length + 1) [] none false
    let closed := (← next?) = some ')'
    step
    if closed then
      if changes.on.isEmpty && changes.off.isEmpty then failAt inner inner .repetitionMissing
      return .flags changes
    else return .group changes
  else return .capture

/-- A part of a pattern between parentheses while it is read: the branches before the last bar and
the terms since, last first, with the places where the first branch and the present one start. -/
structure Draft where
  start : Nat
  branches : List Term := []
  branchStart : Nat
  terms : List Term := []

def Draft.branch (draft : Draft) (stop : Nat) : Term :=
  match draft.terms with
  | [] => .empty ⟨draft.branchStart, stop⟩
  | [term] => term
  | terms => .concat ⟨draft.branchStart, stop⟩ terms.reverse

def Draft.finish (draft : Draft) (stop : Nat) : Term :=
  match draft.branches with
  | [] => draft.branch stop
  | branches => .alternation ⟨draft.start, stop⟩ (branches.reverse ++ [draft.branch stop])

def Draft.add (draft : Draft) (term : Term) : Draft := { draft with terms := term :: draft.terms }

/-- Repeats the last term, at the operator. -/
def Draft.repeatLast (draft : Draft) (operator : Parser Count) : Parser Draft := do
  match draft.terms with
  | [] => failHere .repetitionMissing
  | .empty _ :: _ => failHere .repetitionMissing
  | .flags _ _ :: _ => failHere .repetitionMissing
  | term :: rest =>
    let count ← operator
    let repeated := Term.repetition ⟨term.span.start, ← offset⟩ term count
    return { draft with terms := repeated :: rest }

def oneMark (least : Nat) (most : Option Nat) : Parser Count := do
  step
  return ⟨least, most, ← greedyMark⟩

def setIgnoreSpace (value : Bool) : Parser Unit :=
  modify fun cur => { cur with ignoreSpace := value }

/-- A pattern up to its end, or up to the parenthesis that closes the one at `opened`. Every round
reads a character, so the length of the text bounds the rounds. -/
def body : Nat → Option Span → Draft → Parser Term
  | 0, _, draft => return draft.finish (← offset)
  | fuel + 1, opened, draft => do
    skipSpace
    match ← next? with
    | none =>
      match opened with
      | some span => throw ⟨span, .groupUnclosed⟩
      | none => return draft.finish (← offset)
    | some '(' =>
      let start ← offset
      let ignoreSpace := (← get).ignoreSpace
      match ← opening with
      | .flags changes =>
        setIgnoreSpace ((changes.state? .ignoreSpace).getD ignoreSpace)
        body fuel opened (draft.add (.flags ⟨start, ← offset⟩ changes))
      | .capture =>
        let first ← offset
        let inner ← body fuel (some ⟨start, start + 1⟩) ⟨first, [], first, []⟩
        setIgnoreSpace ignoreSpace
        step
        body fuel opened (draft.add (.capture ⟨start, ← offset⟩ inner))
      | .group changes =>
        setIgnoreSpace ((changes.state? .ignoreSpace).getD ignoreSpace)
        let first ← offset
        let inner ← body fuel (some ⟨start, start + 1⟩) ⟨first, [], first, []⟩
        setIgnoreSpace ignoreSpace
        step
        body fuel opened (draft.add (.group ⟨start, ← offset⟩ changes inner))
    | some ')' =>
      match opened with
      | some _ => return draft.finish (← offset)
      | none => failOnNext .groupUnopened
    | some '|' =>
      let branch := draft.branch (← offset)
      step
      body fuel opened
        { draft with branches := branch :: draft.branches, branchStart := ← offset, terms := [] }
    | some '[' => body fuel opened (draft.add (← bracketedClass))
    | some '?' => body fuel opened (← draft.repeatLast (oneMark 0 (some 1)))
    | some '*' => body fuel opened (← draft.repeatLast (oneMark 0 none))
    | some '+' => body fuel opened (← draft.repeatLast (oneMark 1 none))
    | some '\x7b' => body fuel opened (← draft.repeatLast countedRepetition)
    | some c => body fuel opened (draft.add (← primitive c))

end Parser

/-- The term that a pattern spells. -/
def parse (source : String) : Except Fault Term := do
  let pattern := source.toList
  let (term, _) ← (Parser.body (pattern.length + 1) none ⟨0, [], 0, []⟩).run ⟨0, pattern, false, []⟩
  match term.tooDeep? 0 with
  | some span => throw ⟨span, .nestLimitExceeded⟩
  | none => return term

end DataSchema.Pattern
