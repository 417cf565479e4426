import DataSchema.Json.Reader

/-!
Options of a registry, and their JSON form.
-/
namespace DataSchema

/-- What becomes of undeclared members that an object allows. -/
inductive UnknownKeys where
  | passthrough | strip
deriving DecidableEq, Repr

def UnknownKeys.name : UnknownKeys → String
  | .passthrough => "passthrough"
  | .strip => "strip"

/-- `maxDepth` bounds how deep a value may be nested, references included. -/
structure Options where
  maxDepth : Nat := 128
  unknownKeys : UnknownKeys := .passthrough
deriving DecidableEq, Repr

namespace Options

open Json (Reader)

def unknownKeysReader : Reader UnknownKeys :=
  Reader.choice [("passthrough", .passthrough), ("strip", .strip)]

/-- Members that are missing keep their defaults. -/
def reader : Reader Options :=
  Reader.record "CompileOptions"
    [Reader.Field.of "maxDepth" false (Reader.count "usize")
        fun value options => { options with maxDepth := value },
      Reader.Field.of "unknownKeys" false unknownKeysReader
        fun value options => { options with unknownKeys := value }]
    {}

def ofText (source : String) : Except TextError Options := Reader.atStart reader source

def toJson (o : Options) : Json :=
  .object [("maxDepth", .nat o.maxDepth), ("unknownKeys", .string o.unknownKeys.name)]

end Options
end DataSchema
