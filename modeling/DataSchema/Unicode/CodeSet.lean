import DataSchema.Text.Digit
import DataSchema.Text.Part

/-!
Sets of characters as ranges of code points. The ranges of a set stand in ascending order with a
gap between any two, and begin and end with characters; surrogates may be inside a range, since
no character is one.
-/
namespace DataSchema.Unicode

structure CodeSet where
  ranges : List (Nat × Nat)
deriving DecidableEq, Repr, Inhabited

namespace CodeSet

def lastCode : Nat := 0x10FFFF

def inRanges : List (Nat × Nat) → Nat → Bool
  | [], _ => false
  | (lo, hi) :: rest, c => if c < lo then false else c ≤ hi || inRanges rest c

def holds (s : CodeSet) (c : Char) : Bool := inRanges s.ranges c.toNat

def empty : CodeSet := ⟨[]⟩
def all : CodeSet := ⟨[(0, lastCode)]⟩

/-- Joins ranges that overlap or touch; the list is ordered by the lower ends. -/
def joinFrom : Nat × Nat → List (Nat × Nat) → List (Nat × Nat)
  | current, [] => [current]
  | (a, b), (c, d) :: rest =>
    if c ≤ b + 1 then joinFrom (a, max b d) rest else (a, b) :: joinFrom (c, d) rest

def ofRanges (ranges : List (Nat × Nat)) : CodeSet :=
  match ranges.mergeSort (fun r s => r.1 ≤ s.1) with
  | [] => ⟨[]⟩
  | first :: rest => ⟨joinFrom first rest⟩

def ofRange (lo hi : Nat) : CodeSet := ⟨[(lo, hi)]⟩
def ofChar (c : Char) : CodeSet := ofRange c.toNat c.toNat

def union (s t : CodeSet) : CodeSet :=
  if s.ranges.isEmpty then t
  else if t.ranges.isEmpty then s
  else ofRanges (s.ranges ++ t.ranges)

def unions (sets : List CodeSet) : CodeSet := ofRanges (sets.flatMap CodeSet.ranges)

/-- The characters of a range, without surrogates at its ends. -/
def betweenSurrogates (lo hi : Nat) : List (Nat × Nat) :=
  let lo := if 0xD800 ≤ lo && lo ≤ 0xDFFF then 0xE000 else lo
  let hi := if 0xD800 ≤ hi && hi ≤ 0xDFFF then 0xD7FF else hi
  if lo ≤ hi then [(lo, hi)] else []

def gapsFrom : Nat → List (Nat × Nat) → List (Nat × Nat)
  | next, [] => betweenSurrogates next lastCode
  | next, (lo, hi) :: rest =>
    (if next < lo then betweenSurrogates next (lo - 1) else []) ++ gapsFrom (hi + 1) rest

def complement (s : CodeSet) : CodeSet := ⟨gapsFrom 0 s.ranges⟩

def inter (s t : CodeSet) : CodeSet := (s.complement.union t.complement).complement

def difference (s t : CodeSet) : CodeSet := s.inter t.complement

def symmetricDifference (s t : CodeSet) : CodeSet := (s.union t).difference (s.inter t)

def isAscii (s : CodeSet) : Bool := s.ranges.all fun r => r.2 < 0x80

/-- The only member, if there is just one. -/
def single? (s : CodeSet) : Option Nat :=
  match s.ranges with
  | [(lo, hi)] => if lo = hi then some lo else none
  | _ => none

/-- Reads a row of a property table: ranges `41-5A` and single code points `B5`, in hexadecimal
and ascending, with blanks between them. -/
def ofTable (row : String) : CodeSet :=
  ⟨(Text.words row.toList).filterMap fun word =>
    match (Text.parts (· == '-') word).map Text.ofHexDigits with
    | [code] => some (code, code)
    | [lo, hi] => some (lo, hi)
    | _ => none⟩

end CodeSet
end DataSchema.Unicode
