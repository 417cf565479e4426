/-!
Parts of a text between separators.
-/
namespace DataSchema.Text

/-- The parts around every separator; there is always one, which may be empty. -/
def parts (separates : Char → Bool) : List Char → List (List Char)
  | [] => [[]]
  | c :: rest =>
    if separates c then [] :: parts separates rest
    else
      match parts separates rest with
      | [] => [[c]]
      | part :: more => (c :: part) :: more

/-- The parts between spaces and line breaks. -/
def words (cs : List Char) : List (List Char) :=
  (parts (fun c => c == ' ' || c == '\n') cs).filter fun word => !word.isEmpty

end DataSchema.Text
