import DataSchema.Text.Calendar
import DataSchema.Text.Identifier

/-!
Formats of strings that are enforced.
-/
namespace DataSchema

inductive TextFormat where
  | uuid | email | uri | dateTime | date
deriving DecidableEq, Repr

namespace TextFormat

def all : List TextFormat := [.uuid, .email, .uri, .dateTime, .date]

def name : TextFormat → String
  | .uuid => "uuid"
  | .email => "email"
  | .uri => "uri"
  | .dateTime => "date-time"
  | .date => "date"

def ofName? (name : String) : Option TextFormat := all.find? (·.name == name)

def accepts (format : TextFormat) (s : String) : Bool :=
  match format with
  | .uuid => Text.isUuid s.toList
  | .email => Text.isEmail s.toList
  | .uri => Text.isUri s.toList
  | .dateTime => Text.isDateTime s
  | .date => Text.isDate s

end TextFormat
end DataSchema
