import DataSchema.Pattern.Term
import DataSchema.Unicode.Property

/-!
Regular expressions with their flags worked in, in a normal form: characters in a row are one
literal, no concatenation stands directly in another and no alternation in another, and what the
branches of an alternation begin with in common stands before it. The functions that build normal
forms are `ofSet`, `ofParts`, `ofBranches` and `repeated`.
-/
namespace DataSchema.Pattern

open Unicode (CodeSet)

/-- What an assertion on words asks of the characters around a place. -/
inductive WordEdge where
  | boundary | noBoundary | start | stop | startHalf | stopHalf
deriving DecidableEq, Repr

inductive Look where
  | textStart
  | textEnd
  /-- With `crlf`, a carriage return ends a line as well, and together with a line feed ends one. -/
  | lineStart (crlf : Bool)
  | lineEnd (crlf : Bool)
  | word (edge : WordEdge) (unicode : Bool)
deriving DecidableEq, Repr

inductive Regex where
  | empty
  | literal (chars : List Char)
  /-- A set of bytes is told apart from a set of characters, though it matches the same texts. -/
  | set (bytes : Bool) (set : CodeSet)
  | look (look : Look)
  | concat (parts : List Regex)
  | alternation (branches : List Regex)
  | repetition (body : Regex) (count : Count)
  | capture (body : Regex)
deriving Repr

namespace Regex

mutual

/-- Matches have no characters. -/
def isBlank : Regex → Bool
  | .empty => true
  | .literal chars => chars.isEmpty
  | .set _ _ => false
  | .look _ => true
  | .concat parts => areBlank parts
  | .alternation branches => areBlank branches
  | .repetition body _ => body.isBlank
  | .capture body => body.isBlank

def areBlank : List Regex → Bool
  | [] => true
  | part :: rest => part.isBlank && areBlank rest

end

mutual

/-- The number of characters that every match has at least, if every part can match. -/
def fewest? : Regex → Option Nat
  | .empty => some 0
  | .literal chars => some chars.length
  | .set _ s => if s.ranges.isEmpty then none else some 1
  | .look _ => some 0
  | .concat parts => fewestOfAll? parts
  | .alternation branches => fewestOfAny? branches
  | .repetition body count => body.fewest?.map (· * count.min)
  | .capture body => body.fewest?

def fewestOfAll? : List Regex → Option Nat
  | [] => some 0
  | part :: rest => part.fewest?.bind fun m => (fewestOfAll? rest).map fun n => m + n

def fewestOfAny? : List Regex → Option Nat
  | [] => none
  | [branch] => branch.fewest?
  | branch :: rest => branch.fewest?.bind fun m => (fewestOfAny? rest).map fun n => Nat.min m n

end

mutual

/-- Equal forms. Groups that capture are all different, since each has a number of its own. -/
def same : Regex → Regex → Bool
  | .empty, .empty => true
  | .literal a, .literal b => a == b
  | .set a s, .set b t => a == b && s == t
  | .look a, .look b => a == b
  | .concat as, .concat bs => sameAll as bs
  | .alternation as, .alternation bs => sameAll as bs
  | .repetition a m, .repetition b n => m == n && a.same b
  | _, _ => false

def sameAll : List Regex → List Regex → Bool
  | [], [] => true
  | a :: as, b :: bs => a.same b && sameAll as bs
  | _, _ => false

end

/-- A set, or what is simpler: one character is a literal, and no character a set of no bytes. -/
def ofSet (bytes : Bool) (s : CodeSet) : Regex :=
  if s.ranges.isEmpty then .set true s
  else
    match s.single? with
    | some code => .literal [Char.ofNat code]
    | none => .set bytes s

/-- The parts of a concatenation, without those that are empty. -/
def parts : Regex → List Regex
  | .empty => []
  | .concat parts => parts
  | part => [part]

/-- Makes one literal of literals that follow each other. -/
def joinLiterals : List Regex → List Regex
  | [] => []
  | .literal chars :: rest =>
    match joinLiterals rest with
    | .literal more :: others => .literal (chars ++ more) :: others
    | others => .literal chars :: others
  | part :: rest => part :: joinLiterals rest

def ofParts (all : List Regex) : Regex :=
  match joinLiterals (all.flatMap parts) with
  | [] => .empty
  | [part] => part
  | parts => .concat parts

/-- The branches of an alternation. -/
def branches : Regex → List Regex
  | .alternation branches => branches
  | branch => [branch]

def single? : Regex → Option CodeSet
  | .literal [c] => some (.ofChar c)
  | _ => none

def set? : Regex → Option CodeSet
  | .set _ s => some s
  | _ => none

/-- Branches that are all single characters, or all sets, make one set. -/
def joined (branches : List Regex) : Regex :=
  match branches with
  | [] => .set true .empty
  | [branch] => branch
  | branches =>
    match branches.mapM single? <|> branches.mapM set? with
    | some sets => ofSet false (CodeSet.unions sets)
    | none => .alternation branches

def shared : List Regex → List Regex → List Regex
  | a :: as, b :: bs => if a.same b then a :: shared as bs else []
  | _, _ => []

def concatenated? : Regex → Option (List Regex)
  | .concat parts => some parts
  | _ => none

/-- Puts what concatenations begin with in common before an alternation of what is left of them. -/
def factored? (rows : List (List Regex)) : Option Regex :=
  match rows with
  | first :: rest =>
    let common := rest.foldl shared first
    let others := rows.map fun row => ofParts (row.drop common.length)
    if common.isEmpty then none
    else some (ofParts (common ++ [joined (others.flatMap branches)]))
  | [] => none

def ofBranches (all : List Regex) : Regex :=
  match joined (all.flatMap branches) with
  | .alternation branches =>
    ((branches.mapM concatenated?).bind factored?).getD (.alternation branches)
  | regex => regex

/-- Repeating what has no characters once is enough, and no repetition at all is empty. -/
def repeated (body : Regex) (count : Count) : Regex :=
  let most := if body.isBlank then some (Nat.min (count.max.getD 1) 1) else count.max
  let least := if body.isBlank then Nat.min count.min 1 else count.min
  if most = some 0 then .empty
  else if least = 1 && most = some 1 then body
  else .repetition body ⟨least, most, count.greedy⟩

end Regex
end DataSchema.Pattern
