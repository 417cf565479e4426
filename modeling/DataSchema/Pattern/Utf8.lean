import DataSchema.Unicode.CodeSet

/-!
The bytes that encode the characters of a set. A set is a list of sequences of byte ranges: a
character is in the set when one of the sequences has its bytes in its ranges. The sequences are
in ascending order.
-/
namespace DataSchema.Pattern

open Unicode (CodeSet)

/-- Ranges of bytes, one for each byte of an encoded character. -/
abbrev ByteRanges := List (Nat × Nat)

def utf8Bytes (code : Nat) : List Nat :=
  if code < 0x80 then [code]
  else if code < 0x800 then [0xC0 + code / 0x40, 0x80 + code % 0x40]
  else if code < 0x10000 then
    [0xE0 + code / 0x1000, 0x80 + code / 0x40 % 0x40, 0x80 + code % 0x40]
  else
    [0xF0 + code / 0x40000, 0x80 + code / 0x1000 % 0x40, 0x80 + code / 0x40 % 0x40,
      0x80 + code % 0x40]

/-- Where a range has to be cut so that each part is a product of byte ranges: the last code of the
first part. `tail` is the number of codes that share all bytes but the last few. -/
def cutAtTail? (lo hi tail : Nat) : Option Nat :=
  if lo / tail = hi / tail then none
  else if lo % tail ≠ 0 then some (lo / tail * tail + tail - 1)
  else if hi % tail ≠ tail - 1 then some (hi / tail * tail - 1)
  else none

/-- Cuts come between lengths of encodings first. -/
def cut? (lo hi : Nat) : Option Nat :=
  match [0x7F, 0x7FF, 0xFFFF].find? fun last => lo ≤ last && last < hi with
  | some last => some last
  | none =>
    if hi < 0x80 then none
    else [0x40, 0x1000, 0x40000].findSome? (cutAtTail? lo hi)

/-- The products of byte ranges that make up a range without surrogates. -/
def byteSequences : Nat → Nat → Nat → List ByteRanges
  | 0, _, _ => []
  | fuel + 1, lo, hi =>
    match cut? lo hi with
    | some last => byteSequences fuel lo last ++ byteSequences fuel (last + 1) hi
    | none => [(utf8Bytes lo).zip (utf8Bytes hi)]

/-- Parts of a range outside the surrogates. -/
def withoutSurrogates (range : Nat × Nat) : List (Nat × Nat) :=
  let (lo, hi) := range
  if hi < 0xD800 || 0xDFFF < lo then [(lo, hi)]
  else
    (if lo < 0xD800 then [(lo, 0xD7FF)] else []) ++ (if 0xDFFF < hi then [(0xE000, hi)] else [])

/-- A range is cut fewer times than this. -/
def mostCuts : Nat := 32

def encodings (s : CodeSet) : List ByteRanges :=
  (s.ranges.flatMap withoutSurrogates).flatMap fun (lo, hi) => byteSequences mostCuts lo hi

/-- The most bytes of an encoded character. -/
def longestEncoding : Nat := 4

/-- A tree of byte ranges, its branches in order. -/
inductive ByteTree where
  | node (branches : List ((Nat × Nat) × ByteTree))
deriving Inhabited

/-- The first range of a sequence and the ranges after it. -/
def ByteRanges.split? : ByteRanges → Option ((Nat × Nat) × ByteRanges)
  | [] => none
  | range :: rest => some (range, rest)

/-- The tree of sequences with up to a number of bytes: sequences that follow each other share what
they begin with. -/
def ByteTree.ofSequences : Nat → List ByteRanges → ByteTree
  | 0, _ => .node []
  | depth + 1, sequences =>
    let groups := (sequences.filterMap ByteRanges.split?).splitBy fun a b => a.1 == b.1
    .node (groups.filterMap fun group =>
      group.head?.map fun first => (first.1, .ofSequences depth (group.map (·.2))))

end DataSchema.Pattern
