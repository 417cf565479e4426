import DataSchema.Pattern.LiteralTree
import DataSchema.Pattern.Machine
import DataSchema.Pattern.Regex

/-!
The size of a compiled pattern. A pattern compiles to a machine that reads UTF-8 forwards and to
one that reads it backwards; neither may be larger than the limit.
-/
namespace DataSchema.Pattern

open Unicode (CodeSet)

/-- What is added to a machine, in order. -/
inductive Fragment where
  /-- States whose size does not depend on those before them. -/
  | fixed (states links : Nat)
  | forwardSet (tree : ByteTree)
  | backwardSet (sequences : List ByteRanges)
  | row (parts : List Fragment)
  | copies (count : Nat) (body : Fragment)

namespace Fragment

/-- A state that leads to one other. -/
def plain : Fragment := .fixed 1 0

/-- A state that leads to two others without a byte. -/
def fork : Fragment := .fixed 1 (2 * alternateSize)

/-- Adds something a number of times, up to the limit. -/
def times? (step : Machine → Option Machine) : Nat → Machine → Option Machine
  | 0, m => some m
  | count + 1, m =>
    match step m with
    | some next => times? step count next
    | none => none

mutual

def build? : Fragment → Machine → Option Machine
  | .fixed states links, m => m.add? states links
  | .forwardSet tree, m => m.forwardSet? tree
  | .backwardSet sequences, m => m.backwardSet? sequences
  | .row parts, m => buildAll? parts m
  | .copies count body, m => times? (build? body) count m

def buildAll? : List Fragment → Machine → Option Machine
  | [], m => some m
  | part :: rest, m =>
    match build? part m with
    | some next => buildAll? rest next
    | none => none

end

/-- A sparse state for ranges of bytes, and the state after it. -/
def ofBytes (ranges : Nat) : Fragment := .fixed 2 (ranges * transitionSize)

def ofSet (backward : Bool) (s : CodeSet) : Fragment :=
  if s.isAscii then ofBytes s.ranges.length
  else if backward then .backwardSet (encodings s)
  else .forwardSet (.ofSequences longestEncoding (encodings s))

/-- The states of a place in a tree of literals: one that leads to every chunk and, for each
literal that ends here, to the end, and one for each chunk. -/
def ofChunks (ends : Nat) (keys : List (Nat × Nat)) : Fragment :=
  let chunks := (keys.map Prod.fst).eraseDups
  let lengths := chunks.map fun chunk => keys.countP fun key => key.1 == chunk
  .row (.fixed 1 ((chunks.length + ends) * alternateSize)
    :: lengths.map fun n => .fixed 1 (if n = 1 then 0 else n * transitionSize))

mutual

def ofLiteralTree : LiteralTree → Fragment
  | .node _ [] => .row []
  | .node ends branches =>
    .row (ofChunks ends (branches.map Prod.fst) :: ofLiteralTrees branches)

def ofLiteralTrees : List ((Nat × Nat) × LiteralTree) → List Fragment
  | [] => []
  | (_, child) :: rest => ofLiteralTree child :: ofLiteralTrees rest

end

/-- A body that may be empty needs two forks to be left out or repeated at will. -/
def ofRepetition (consumes : Bool) (body : Fragment) (count : Count) : Fragment :=
  match count.min, count.max with
  | 0, some 1 => .row [fork, body, plain]
  | 0, none => if consumes then .row [fork, body] else .row [body, fork, fork, plain]
  | min, none => .row [.copies min body, fork]
  | min, some max =>
    let fixed := if min = 0 then plain else .copies min body
    if min = max then fixed else .row [fixed, plain, .copies (max - min) (.row [fork, body])]

/-- The first two branches come before the state that leads to all, and the others after it. -/
def ofAlternatives : List Fragment → Fragment
  | first :: second :: rest =>
    .row (first :: second :: .fixed 2 ((rest.length + 2) * alternateSize) :: rest)
  | branches => .row branches

end Fragment

namespace Regex

def literal? : Regex → Option (List Nat)
  | .literal chars => some (chars.flatMap fun c => utf8Bytes c.toNat)
  | _ => none

/-- Every match has a character. -/
def consumes (r : Regex) : Bool := r.fewest?.any (0 < ·)

mutual

/-- What a regular expression adds to a machine. Only machines that read forwards know where groups
begin and end. -/
def fragment (backward : Bool) : Regex → Fragment
  | .empty => .plain
  | .literal chars => .fixed (chars.flatMap fun c => utf8Bytes c.toNat).length 0
  | .set _ s => .ofSet backward s
  | .look _ => .plain
  | .concat parts =>
    let fragments := allFragments backward parts
    .row (if backward then fragments.reverse else fragments)
  | .alternation branches =>
    match branches.mapM literal? with
    | some literals =>
      let ordered := if backward then literals.map List.reverse else literals
      .row [.plain, .ofLiteralTree (.ofLiterals ordered)]
    | none => .ofAlternatives (allFragments backward branches)
  | .repetition body count => .ofRepetition body.consumes (body.fragment backward) count
  | .capture body =>
    if backward then body.fragment backward
    else .row [.plain, body.fragment backward, .plain]

def allFragments (backward : Bool) : List Regex → List Fragment
  | [] => []
  | regex :: rest => regex.fragment backward :: allFragments backward rest

end

/-- Whether one of the first parts holds an assertion, up to the first part that has characters.
A part is given by whether it does, and whether it has no characters. -/
def leads : List (Bool × Bool) → Bool
  | [] => false
  | (holds, blank) :: rest => holds || (blank && leads rest)

mutual

/-- An assertion holds where every match begins, or where it ends when it is read backwards. -/
def asserts (backward : Bool) (look : Look) : Regex → Bool
  | .empty => false
  | .literal _ => false
  | .set _ _ => false
  | .look l => l == look
  | .concat parts =>
    let all := allAssert backward look parts
    leads (if backward then all.reverse else all)
  | .alternation branches => (allAssert backward look branches).all (·.1)
  | .repetition body count => 0 < count.min && body.asserts backward look
  | .capture body => body.asserts backward look

def allAssert (backward : Bool) (look : Look) : List Regex → List (Bool × Bool)
  | [] => []
  | regex :: rest =>
    (regex.asserts backward look, regex.isBlank) :: allAssert backward look rest

end

/-- The search for a place to begin: a state, or a loop over all bytes unless the place is known. -/
def searchFragment (backward : Bool) (r : Regex) : Fragment :=
  if r.asserts backward (if backward then .textEnd else .textStart) then .plain
  else .row [.fork, .ofBytes 1]

/-- The whole machine: the search, the match as a group of its own, and its end. -/
def wholeFragment (backward : Bool) (r : Regex) : Fragment :=
  .row [r.searchFragment backward, (Regex.capture r).fragment backward, .plain]

def exceedsLimit (r : Regex) : Bool :=
  ((r.wholeFragment false).build? {}).isNone || ((r.wholeFragment true).build? {}).isNone

end Regex
end DataSchema.Pattern
