import DataSchema.CommandLine.PathText

/-!
File trees: what lies below a working directory. The directories above it are there, with nothing
else in them.
-/
namespace DataSchema

/-- Why a path cannot be used. -/
inductive FileError where
  | notFound | alreadyExists | notDirectory | isDirectory
  | other (text : String)
deriving DecidableEq, Repr

def FileError.text : FileError → String
  | .notFound => "No such file or directory (os error 2)"
  | .alreadyExists => "File exists (os error 17)"
  | .notDirectory => "Not a directory (os error 20)"
  | .isDirectory => "Is a directory (os error 21)"
  | .other text => text

inductive FileEntry where
  | file (text : String)
  | directory
deriving DecidableEq, Repr

/-- Files and directories by the names that lead to them. The directories on the way to a file are
listed too. -/
structure FileTree where
  files : List (List String × String) := []
  directories : List (List String) := []
deriving Repr

namespace FileTree

/-- Paths from the root of all files lead out of the tree, and the empty path leads nowhere. -/
def leadsNowhere (path : String) : Bool := path.isEmpty || PathText.isRooted path

/-- The place is that of the root or of a directory above it. -/
def isAbove (place : List String) : Bool := place.all (· == "..")

def entry? (t : FileTree) (place : List String) : Option FileEntry :=
  match t.files.lookup place with
  | some text => some (.file text)
  | none => if isAbove place || t.directories.contains place then some .directory else none

/-- One name further. -/
def enter (place : List String) (name : String) : List String :=
  if name == ".." && !isAbove place then place.dropLast else place ++ [name]

/-- Goes through directories from a place. -/
def follow (t : FileTree) : List String → List String → Except FileError (List String × FileEntry)
  | place, [] =>
    match t.entry? place with
    | some entry => .ok (place, entry)
    | none => .error .notFound
  | place, name :: rest =>
    match t.entry? place with
    | some .directory => follow t (enter place name) rest
    | some (.file _) => .error .notDirectory
    | none => .error .notFound

def locate (t : FileTree) (path : String) : Except FileError (List String × FileEntry) := do
  if leadsNowhere path then .error .notFound
  else
    match ← t.follow [] (PathText.names path) with
    | (place, .directory) => .ok (place, .directory)
    | (place, .file text) =>
      if PathText.meansDirectory path then .error .notDirectory else .ok (place, .file text)

def read (t : FileTree) (path : String) : Except FileError String := do
  match ← t.locate path with
  | (_, .file text) => .ok text
  | (_, .directory) => .error .isDirectory

def isThere (t : FileTree) (path : String) : Bool := (t.locate path).isOk

def isDirectory (t : FileTree) (path : String) : Bool :=
  match t.locate path with
  | .ok (_, .directory) => true
  | _ => false

/-- The name of an entry that lies in a directory. -/
def nameIn (place : List String) (entry : List String) : Option String :=
  if entry.dropLast == place then entry.getLast? else none

/-- Names in a directory, in ascending order. -/
def names (t : FileTree) (path : String) : List String :=
  match t.locate path with
  | .ok (place, .directory) =>
    ((t.files.map (·.1) ++ t.directories).filterMap (nameIn place)).eraseDups.mergeSort
      fun a b => !(b < a)
  | _ => []

def makeDirectory (t : FileTree) (path : List String) : Except FileError FileTree := do
  match path.getLast? with
  | none => .error .alreadyExists
  | some name =>
    match ← t.follow [] path.dropLast with
    | (_, .file _) => .error .notDirectory
    | (place, .directory) =>
      let place := enter place name
      if (t.entry? place).isSome then .error .alreadyExists
      else .ok { t with directories := t.directories ++ [place] }

/-- There is a directory at the end of these names. -/
def leadsToDirectory (t : FileTree) (path : List String) : Bool :=
  match t.follow [] path with
  | .ok (_, .directory) => true
  | _ => false

/-- Makes a directory and those on the way to it, as far as that goes. The names come innermost
first. -/
def ensureDirectory (t : FileTree) : List String → FileTree × Option FileError
  | [] => (t, none)
  | name :: outer =>
    let path := (name :: outer).reverse
    let settle (t : FileTree) (error : FileError) : FileTree × Option FileError :=
      (t, if t.leadsToDirectory path then none else some error)
    match t.makeDirectory path with
    | .ok made => (made, none)
    | .error .notFound =>
      match t.ensureDirectory outer with
      | (t, some error) => (t, some error)
      | (t, none) =>
        match t.makeDirectory path with
        | .ok made => (made, none)
        | .error error => settle t error
    | .error error => settle t error

/-- Sets the text of a file, the last one at its place. -/
def putFile (t : FileTree) (place : List String) (text : String) : FileTree :=
  { t with files := (place, text) :: t.files.filter fun file => file.1 != place }

def write (t : FileTree) (path text : String) : Except FileError FileTree := do
  let names := PathText.names path
  match names.getLast? with
  | none => .error .isDirectory
  | some name =>
    match ← t.follow [] names.dropLast with
    | (_, .file _) => .error .notDirectory
    | (place, .directory) =>
      let place := enter place name
      match t.entry? place with
      | some .directory => .error .isDirectory
      | _ =>
        if PathText.meansDirectory path then .error .isDirectory
        else .ok (t.putFile place text)

/-- Writes a file in a directory that is made if it is not there. A failure has its text; the
directories that were made stay. -/
def save (t : FileTree) (path text : String) : FileTree × Option String :=
  let failed (error : FileError) : String := s!"failed to write {path}: {error.text}"
  if leadsNowhere path then (t, some (failed .notFound))
  else
    match t.ensureDirectory (PathText.names path).dropLast.reverse with
    | (t, some error) => (t, some error.text)
    | (t, none) =>
      match t.write path text with
      | .ok written => (written, none)
      | .error error => (t, some (failed error))

/-- A tree of files given by their paths. -/
def ofFiles (files : List (String × String)) : FileTree :=
  files.foldl (fun t (path, text) => (t.save path text).1) {}

/-- The text of a file, if there is one. -/
def text? (t : FileTree) (path : String) : Option String := (t.read path).toOption

end FileTree
end DataSchema
