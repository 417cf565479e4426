import DataSchema.Text.Part

/-!
Paths of files: names with slashes between them.
-/
namespace DataSchema.PathText

/-- The parts of a path between slashes. -/
def parts (path : String) : List String :=
  (Text.parts (· == '/') path.toList).map String.ofList

/-- The names that a path goes through. -/
def names (path : String) : List String :=
  (parts path).filter fun part => part != "" && part != "."

/-- The path starts at the root of all files. -/
def isRooted (path : String) : Bool := path.toList.head? == some '/'

/-- The path leads to where it starts. -/
def isHere (path : String) : Bool := !path.isEmpty && !isRooted path && (names path).isEmpty

/-- The path can only be one of a directory. -/
def meansDirectory (path : String) : Bool :=
  match (parts path).getLast? with
  | some part => part == "" || part == "."
  | none => false

def join (path name : String) : String :=
  if path.isEmpty || path.toList.getLast? == some '/' then path ++ name else path ++ "/" ++ name

end DataSchema.PathText
