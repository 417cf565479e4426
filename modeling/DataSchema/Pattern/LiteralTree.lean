/-!
Trees of literals: an alternation of literals is one tree of their bytes. At every place of the
tree the literals that end there part those that go on into chunks, since what comes first is
preferred, and only literals of one chunk share what they go on with.
-/
namespace DataSchema.Pattern

/-- `ends` counts the chunks that are finished; a branch is known by its chunk and its byte. -/
inductive LiteralTree where
  | node (ends : Nat) (branches : List ((Nat × Nat) × LiteralTree))
deriving Inhabited

namespace LiteralTree

def leaf : LiteralTree := .node 0 []

/-- Marks the end of a literal. Where no literal goes on, a second end adds nothing. -/
def close : LiteralTree → LiteralTree
  | .node ends branches => .node (if branches.isEmpty then 1 else ends + 1) branches

/-- Adds the bytes of a literal. -/
def add : List Nat → LiteralTree → LiteralTree
  | [], tree => tree.close
  | byte :: rest, .node ends branches =>
    match branches.lookup (ends, byte) with
    | none => .node ends (branches ++ [((ends, byte), add rest leaf)])
    | some child =>
      let longer := add rest child
      .node ends (branches.map fun entry =>
        if entry.1 = (ends, byte) then ((ends, byte), longer) else entry)

def ofLiterals (literals : List (List Nat)) : LiteralTree :=
  literals.foldl (fun tree bytes => tree.add bytes) leaf

end LiteralTree
end DataSchema.Pattern
