import DataSchema.CommandLine.FileReading

/-!
Glob patterns: paths with wildcards in their names. `*` stands for any characters, `?` for one, a
bracket for one of several, and `**` for any directories one below another.
-/
namespace DataSchema

namespace Glob

/-- What a bracket lists: characters and ranges of them. -/
inductive Span where
  | char (c : Char)
  | range (first last : Char)
deriving DecidableEq, Repr

inductive Token where
  | char (c : Char)
  | anyChar
  | anyChars
  | directories
  | within (spans : List Span)
  | except (spans : List Span)
deriving DecidableEq, Repr

inductive FaultKind where
  | tooManyStars | mixedStars | badRange
deriving DecidableEq, Repr

/-- A fault and the number of characters before it. -/
structure Fault where
  kind : FaultKind
  place : Nat
deriving DecidableEq, Repr

def FaultKind.text : FaultKind → String
  | .tooManyStars => "wildcards are either regular `*` or recursive `**`"
  | .mixedStars => "recursive wildcards must form a single path component"
  | .badRange => "invalid range pattern"

def Fault.text (f : Fault) : String :=
  s!"Pattern syntax error near position {f.place}: " ++ f.kind.text

def spansOf : List Char → List Span
  | first :: '-' :: last :: rest => .range first last :: spansOf rest
  | c :: rest => .char c :: spansOf rest
  | [] => []

/-- The text of a bracket and what follows it. The first character never closes it. -/
def bracketText : List Char → Option (List Char × List Char)
  | [] => none
  | first :: rest =>
    match rest.span (· != ']') with
    | (_, []) => none
    | (more, _ :: after) => some (first :: more, after)

/-- A bracket from after its opening. -/
def bracket? : List Char → Option (Token × List Char)
  | '!' :: rest => (bracketText rest).map fun (text, after) => (.except (spansOf text), after)
  | rest => (bracketText rest).map fun (text, after) => (.within (spansOf text), after)

/-- Reads tokens. `place` counts the characters before, and `start` tells that they end a name. -/
def tokens : Nat → Nat → Bool → List Char → Except Fault (List Token)
  | 0, _, _, _ => .ok []
  | fuel + 1, place, start, cs =>
    let next (token : Token) (place : Nat) (start : Bool) (rest : List Char) :
        Except Fault (List Token) :=
      (tokens fuel place start rest).map (token :: ·)
    match cs with
    | [] => .ok []
    | '?' :: rest => next .anyChar (place + 1) false rest
    | '*' :: '*' :: '*' :: _ => .error ⟨.tooManyStars, place + 2⟩
    | '*' :: '*' :: rest =>
      if !start then .error ⟨.mixedStars, place - 1⟩
      else
        match rest with
        | [] => .ok [.directories]
        | '/' :: rest => next .directories (place + 3) true rest
        | _ => .error ⟨.mixedStars, place + 2⟩
    | '*' :: rest => next .anyChars (place + 1) false rest
    | '[' :: rest =>
      match bracket? rest with
      | none => .error ⟨.badRange, place⟩
      | some (token, after) => next token (place + 1 + (rest.length - after.length)) false after
    | c :: rest => next (.char c) (place + 1) (c == '/') rest

def tokensOf (text : List Char) : Except Fault (List Token) :=
  tokens (text.length + 1) 0 true text

def Span.holds (c : Char) : Span → Bool
  | .char d => c == d
  | .range first last => first ≤ c && c ≤ last

/-- A token that stands for one character stands for this one. -/
def Token.holds (c : Char) : Token → Bool
  | .char d => c == d
  | .within spans => spans.any (Span.holds c)
  | .except spans => !spans.any (Span.holds c)
  | .anyChar => true
  | .anyChars | .directories => false

def matchesAll : List Token → List Char → Bool
  | [], cs => cs.isEmpty
  | .anyChars :: tokens, [] => matchesAll tokens []
  | .anyChars :: tokens, c :: cs =>
    matchesAll tokens (c :: cs) || matchesAll (.anyChars :: tokens) cs
  | _ :: _, [] => false
  | token :: tokens, c :: cs => token.holds c && matchesAll tokens cs
termination_by tokens cs => tokens.length + cs.length

def Token.literal? : Token → Option Char
  | .char c => some c
  | _ => none

/-- The one name that tokens without wildcards stand for. -/
def literal? (tokens : List Token) : Option String :=
  (tokens.mapM Token.literal?).map String.ofList

abbrev Name := List Token

def isRecursive (name : Name) : Bool := name.contains .directories

end Glob

/-- The names of a path with wildcards. A slash at its end asks for directories. -/
structure Glob where
  rooted : Bool
  names : List Glob.Name
  onlyDirectories : Bool
deriving Repr

namespace Glob

def hasWildcards (path : String) : Bool :=
  path.toList.any fun c => c == '*' || c == '?' || c == '[' || c == '\x7b'

/-- Reads a pattern, first as a whole and then name by name. -/
def ofText (text : String) : Except Fault Glob := do
  let _ ← tokensOf text.toList
  let rooted := PathText.isRooted text
  let parts := Text.parts (· == '/') (if rooted then text.toList.tail else text.toList)
  let named := if parts.getLast? == some [] then parts.dropLast else parts
  .ok ⟨rooted, ← named.mapM tokensOf, text.toList.getLast? == some '/'⟩

section Search

variable {m : Type → Type} [Monad m] [FileReading m]

/-- How a search goes on below a path. -/
abbrev Search (m : Type → Type) := List Name → String → m (List String)

/-- Goes on below a path that has been found; it is a result if no names are left. -/
def onward (onlyDirectories : Bool) (search : Search m) (rest : List Name) (path : String) :
    m (List String) := do
  if !rest.isEmpty then search rest path
  else if onlyDirectories && !(← FileReading.isDirectory path) then pure []
  else pure [path]

def matchName (onlyDirectories : Bool) (search : Search m) (names : List Name)
    (name path : String) : m (List String) :=
  match names with
  | first :: rest =>
    if matchesAll first name.toList then onward onlyDirectories search rest path else pure []
  | [] => pure []

/-- Results at and below an entry of a directory. A `**` is also passed over, and takes in
directories of any depth. -/
def visit (onlyDirectories : Bool) (search : Search m) (names : List Name) (name path : String) :
    m (List String) :=
  match names with
  | [] => pure []
  | first :: rest =>
    if isRecursive first then do
      let rest := rest.dropWhile isRecursive
      let below ← if ← FileReading.isDirectory path then search (first :: rest) path else pure []
      if !rest.isEmpty then
        let own ← matchName onlyDirectories search rest name path
        pure (own ++ below)
      else if ← FileReading.isDirectory path then pure (path :: below)
      else pure []
    else matchName onlyDirectories search (first :: rest) name path

/-- Results below a path, at most so many names deep. A name without wildcards is not searched
for, and one with a dot in front may stand for `.` and `..` too. -/
def searchBelow (onlyDirectories : Bool) : Nat → Search m
  | 0, _, _ => pure []
  | _ + 1, [], _ => pure []
  | depth + 1, first :: rest, path => do
    let search := searchBelow onlyDirectories depth
    let inside (name : String) : String :=
      if PathText.isHere path then name else PathText.join path name
    match literal? first with
    | some name =>
      let isThere ←
        if name == "." || name == ".." then FileReading.isDirectory path
        else FileReading.isThere (inside name)
      if isThere then onward onlyDirectories search rest (inside name) else pure []
    | none =>
      if ← FileReading.isDirectory path then
        let dots := if first.head? = some (.char '.') then ["..", "."] else []
        let special ← (dots.filter fun name => matchesAll first name.toList).mapM fun name =>
          onward onlyDirectories search rest (PathText.join path name)
        let found ← (← FileReading.names path).mapM fun name =>
          visit onlyDirectories search (first :: rest) name (inside name)
        pure (special.flatten ++ found.flatten)
      else pure []

/-- A path of more names than this is too long to be used. -/
def deepest : Nat := 4096

/-- The paths that a pattern stands for. -/
def paths (g : Glob) : m (List String) :=
  searchBelow g.onlyDirectories (deepest + g.names.length) g.names (if g.rooted then "/" else ".")

end Search

end Glob
end DataSchema
