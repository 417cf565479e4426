import DataSchema.CommandLine.FileTree

/-!
Monads in which files can be read. Reading a file tree changes nothing in it.
-/
namespace DataSchema

class FileReading (m : Type → Type) where
  read : String → m (Except FileError String)
  isThere : String → m Bool
  isDirectory : String → m Bool
  /-- Names in a directory, in ascending order. -/
  names : String → m (List String)

instance : FileReading (ReaderM FileTree) where
  read path := fun tree => tree.read path
  isThere path := fun tree => tree.isThere path
  isDirectory path := fun tree => tree.isDirectory path
  names path := fun tree => tree.names path

end DataSchema
