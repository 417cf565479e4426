import DataSchema.Unicode.Age
import DataSchema.Unicode.Binary
import DataSchema.Unicode.CaseFolding
import DataSchema.Unicode.Category
import DataSchema.Unicode.CodeSet
import DataSchema.Unicode.PropertyName
import DataSchema.Unicode.Recent
import DataSchema.Unicode.Script
import DataSchema.Unicode.Segmentation

/-!
Character properties by name. Names are compared loosely: case, spaces, hyphens, underscores and
a leading "is" do not count.
-/
namespace DataSchema.Unicode

/-- Why a property query names no set. -/
inductive PropertyError where
  | unknownProperty | unknownValue
deriving DecidableEq, Repr

def toLowerAscii (c : Char) : Char :=
  if 'A' ≤ c && c ≤ 'Z' then Char.ofNat (c.toNat + 32) else c

/-- The form in which names are compared. A lone `c` left after "is" is the name "isc". -/
def looseName (name : String) : String :=
  let bare (cs : List Char) : List Char :=
    (cs.filter fun c => c.toNat < 0x80 && c != ' ' && c != '_' && c != '-').map toLowerAscii
  match name.toList with
  | i :: s :: rest =>
    if toLowerAscii i == 'i' && toLowerAscii s == 's' then
      if bare rest == ['c'] then "isc" else String.ofList (bare rest)
    else String.ofList (bare (i :: s :: rest))
  | cs => String.ofList (bare cs)

def findRow (table : List (List String × String)) (loose : String) : Option String :=
  (table.find? fun entry => entry.1.any fun name => looseName name == loose).map (·.2)

def category? (loose : String) : Option CodeSet :=
  match loose with
  | "any" => some CodeSet.all
  | "ascii" => some (CodeSet.ofRange 0 0x7F)
  | "assigned" => (findRow categoryTable "cn").map fun row => (CodeSet.ofTable row).complement
  | _ => (findRow categoryTable loose).map CodeSet.ofTable

def binary? (loose : String) : Option CodeSet := (findRow binaryTable loose).map CodeSet.ofTable

def isOtherProperty (loose : String) : Bool :=
  (Text.words otherPropertyNames.toList).any fun name => looseName (String.ofList name) == loose

def nonempty (s : CodeSet) : Except PropertyError CodeSet :=
  if s.ranges.isEmpty then .error .unknownValue else .ok s

/-- The set of a lone name: a binary property, else a category, else a script. Three names that
also abbreviate other properties are categories only. -/
def namedSet (name : String) : Except PropertyError CodeSet :=
  let loose := looseName name
  let asBinary := if loose == "cf" || loose == "sc" || loose == "lc" then none else binary? loose
  match asBinary with
  | some s => .ok s
  | none =>
    match category? loose with
    | some s => nonempty s
    | none =>
      match findRow scriptTable loose with
      | some row => nonempty (CodeSet.ofTable row)
      | none => .error .unknownProperty

/-- The characters assigned up to a version. -/
def agedSet (loose : String) : Option CodeSet :=
  let isThis (entry : List String × String) : Bool :=
    entry.1.any fun name => looseName name == loose
  if ageTable.any isThis then
    let older := ageTable.takeWhile fun entry => !isThis entry
    let this := (ageTable.find? isThis).toList
    some (CodeSet.unions ((older ++ this).map fun entry => CodeSet.ofTable entry.2))
  else none

/-- The set of a property and a value. A property that is known has no values besides those listed,
and one that is not known is the first fault. -/
def valuedSet (property value : String) : Except PropertyError CodeSet :=
  let loose := looseName value
  let row (table : List (List String × String)) : Except PropertyError CodeSet :=
    match findRow table loose with
    | some row => nonempty (CodeSet.ofTable row)
    | none => .error .unknownValue
  let name := looseName property
  match name with
  | "gc" | "generalcategory" => ((category? loose).map nonempty).getD (.error .unknownValue)
  | "sc" | "script" => row scriptTable
  | "scx" | "scriptextensions" => row scriptExtensionTable
  | "age" => ((agedSet loose).map .ok).getD (.error .unknownValue)
  | "gcb" | "graphemeclusterbreak" => row graphemeBreakTable
  | "wb" | "wordbreak" => row wordBreakTable
  | "sb" | "sentencebreak" => row sentenceBreakTable
  | _ =>
    if (binary? name).isSome || isOtherProperty name then .error .unknownValue
    else .error .unknownProperty

def categorySet (name : String) : CodeSet := (category? (looseName name)).getD CodeSet.empty
def binarySet (name : String) : CodeSet := (binary? (looseName name)).getD CodeSet.empty

def whiteSpace : CodeSet := binarySet "White_Space"
def decimalDigits : CodeSet := categorySet "Nd"
def alphabetic : CodeSet := binarySet "Alphabetic"
def numeric : CodeSet := categorySet "N"

/-- Characters of words: letters, marks, decimal digits, connectors and joiners. -/
def wordCharacters : CodeSet :=
  CodeSet.unions [alphabetic, categorySet "M", decimalDigits, categorySet "Pc",
    binarySet "Join_Control"]

/-- Characters that may begin the name of a group, besides the underscore. -/
def nameLetters : CodeSet := alphabetic.union (.ofTable recentAlphabetic)

/-- Numbers that may follow in the name of a group. -/
def nameNumbers : CodeSet := numeric.union (.ofTable recentNumeric)

def isWhiteSpace (c : Char) : Bool := whiteSpace.holds c

/-- Two marks of voice that extend the character before but are seen by themselves. -/
def halfwidthMarks : CodeSet := .ofRange 0xFF9E 0xFF9F

/-- Characters that are not shown as themselves in quoted text: controls, formats, private and
unassigned ones, separators other than the space, those that extend the one before, and those
that take no room. -/
def hidden : CodeSet :=
  let extending := (binarySet "Grapheme_Extend").difference halfwidthMarks
  let unseen := CodeSet.unions
    [categorySet "C", categorySet "Z", extending, binarySet "Default_Ignorable_Code_Point"]
  unseen.difference (CodeSet.union (.ofTable recentVisible) (.ofRange 0x20 0x20))

def caseClasses : List (List Nat) :=
  (Text.words caseFoldingTable.toList).map fun word =>
    (Text.parts (· == '=') word).map Text.ofHexDigits

/-- Adds every character that differs from a member in case only. -/
def CodeSet.foldCase (s : CodeSet) : CodeSet :=
  let added := caseClasses.filter fun codes => codes.any (inRanges s.ranges)
  if added.isEmpty then s
  else ofRanges (s.ranges ++ added.flatten.map fun code => (code, code))

end DataSchema.Unicode
