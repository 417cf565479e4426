import DataSchema.Json.Pointer

/-!
References to schemas of the same document.
-/
namespace DataSchema.Reference

/-- Places under which a document may keep its schemas; the first is the one that is written. -/
def roots : List (List Char) :=
  ["#/components/schemas/".toList, "#/$defs/".toList, "#/definitions/".toList]

def text (name : String) : String :=
  "#/components/schemas/" ++ Json.Pointer.escape name

/-- The rest of a text after a beginning. -/
def after? : List Char → List Char → Option (List Char)
  | [], rest => some rest
  | _ :: _, [] => none
  | c :: start, d :: rest => if c = d then after? start rest else none

/-- The name under one of the roots, or the whole reference if it is a plain name. Names under a
root are not empty and have no further segment. -/
def name? (reference : String) : Option String :=
  let cs := reference.toList
  match roots.findSome? fun root => after? root cs with
  | some rest =>
    if rest.isEmpty || rest.contains '/' then none
    else some (String.ofList (Json.Pointer.unescapeChars rest))
  | none =>
    if cs.isEmpty || cs.contains '#' || cs.contains '/' then none
    else some (String.ofList (Json.Pointer.unescapeChars cs))

end DataSchema.Reference
