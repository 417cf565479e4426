import DataSchema.Pattern.Resolve

/-!
Matching. A set of places in a text is a number whose bit `i` stands for the place before the
character with index `i`, so a regular expression is a map from sets of starts to sets of ends.
-/
namespace DataSchema.Pattern

open Unicode (CodeSet)

/-- Bits of the places where a test holds, the first place being `place`. -/
def bitsFrom (test : Option Char → Option Char → Bool) :
    Nat → Option Char → List Char → Nat
  | place, before, [] => if test before none then Nat.pow 2 place else 0
  | place, before, c :: rest =>
    (if test before (some c) then Nat.pow 2 place else 0)
      ||| bitsFrom test (place + 1) (some c) rest

/-- The places of a text where a test of the characters before and after holds. -/
def placesWhere (text : List Char) (test : Option Char → Option Char → Bool) : Nat :=
  bitsFrom test 0 none text

def wordSet (unicode : Bool) : CodeSet := if unicode then Unicode.wordCharacters else asciiWord

def WordEdge.holds (edge : WordEdge) (before after : Bool) : Bool :=
  match edge with
  | .boundary => before != after
  | .noBoundary => before == after
  | .start => !before && after
  | .stop => before && !after
  | .startHalf => !before
  | .stopHalf => !after

/-- Whether an assertion holds between two characters. -/
def Look.holds : Look → Option Char → Option Char → Bool
  | .textStart, before, _ => before.isNone
  | .textEnd, _, after => after.isNone
  | .lineStart false, before, _ => before.isNone || before == some '\n'
  | .lineStart true, before, after =>
    before.isNone || before == some '\n' || (before == some '\r' && after != some '\n')
  | .lineEnd false, _, after => after.isNone || after == some '\n'
  | .lineEnd true, before, after =>
    after.isNone || after == some '\r' || (after == some '\n' && before != some '\r')
  | .word edge unicode, before, after =>
    let word := wordSet unicode
    edge.holds (before.any word.holds) (after.any word.holds)

/-- A regular expression over one text: sets of characters and assertions as the places where they
hold. -/
inductive Moves where
  | stay
  | advance (places : Nat)
  | keep (places : Nat)
  | concat (parts : List Moves)
  | alternation (branches : List Moves)
  | repetition (body : Moves) (count : Count)

mutual

def Regex.over (text : List Char) : Regex → Moves
  | .empty => .stay
  | .literal chars =>
    .concat (chars.map fun c => .advance (placesWhere text fun _ after => after == some c))
  | .set _ s => .advance (placesWhere text fun _ after => after.any s.holds)
  | .look l => .keep (placesWhere text l.holds)
  | .concat parts => .concat (Regex.allOver text parts)
  | .alternation branches => .alternation (Regex.allOver text branches)
  | .repetition body count => .repetition (body.over text) count
  | .capture body => body.over text

def Regex.allOver (text : List Char) : List Regex → List Moves
  | [] => []
  | regex :: rest => regex.over text :: Regex.allOver text rest

end

/-- Applies a map a number of times, or until it changes nothing. -/
def applyTimes (step : Nat → Nat) : Nat → Nat → Nat
  | 0, places => places
  | times + 1, places =>
    let next := step places
    if next == places then places else applyTimes step times next

/-- The union of what up to a number of applications give. -/
def applyUpTo (step : Nat → Nat) : Nat → Nat → Nat → Nat
  | 0, _, all => all
  | times + 1, places, all =>
    let next := step places
    if next == 0 || next == places then all ||| next
    else applyUpTo step times next (all ||| next)

/-- Applies a map to what is new until nothing is. -/
def closure (step : Nat → Nat) : Nat → Nat → Nat → Nat
  | 0, _, all => all
  | rounds + 1, fresh, all =>
    let next := step fresh
    let all' := all ||| next
    if all' == all then all else closure step rounds next all'

mutual

/-- The ends of matches that start at given places of a text with `size` places. -/
def Moves.ends (size : Nat) : Moves → Nat → Nat
  | .stay, places => places
  | .advance here, places => (places &&& here) <<< 1
  | .keep here, places => places &&& here
  | .concat parts, places => Moves.endsOfAll size parts places
  | .alternation branches, places => Moves.endsOfAny size branches places
  | .repetition body count, places =>
    let step := body.ends size
    let first := applyTimes step count.min places
    match count.max with
    | none => closure step size first first
    | some max => applyUpTo step (max - count.min) first first

def Moves.endsOfAll (size : Nat) : List Moves → Nat → Nat
  | [], places => places
  | part :: rest, places => Moves.endsOfAll size rest (part.ends size places)

def Moves.endsOfAny (size : Nat) : List Moves → Nat → Nat
  | [], _ => 0
  | branch :: rest, places => branch.ends size places ||| Moves.endsOfAny size rest places

end

/-- A match somewhere in the text. -/
def Regex.foundIn (regex : Regex) (text : List Char) : Bool :=
  let size := text.length + 1
  (regex.over text).ends size (Nat.pow 2 size - 1) != 0

end DataSchema.Pattern
