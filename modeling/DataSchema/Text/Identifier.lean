import DataSchema.Text.Digit
import DataSchema.Text.Part
import DataSchema.Unicode.Property

/-!
Universally unique identifiers, mail addresses and resource identifiers. Each is decided by
splitting the text at its separators.
-/
namespace DataSchema.Text

/-- The text before the first separator and the text after it. -/
def cutAt? (separator : Char) : List Char → Option (List Char × List Char)
  | [] => none
  | c :: rest =>
    if c = separator then some ([], rest)
    else (cutAt? separator rest).map fun (before, after) => (c :: before, after)

/-- Hexadecimal digits in groups of 8, 4, 4, 4 and 12, hyphens between them. -/
def isUuid (cs : List Char) : Bool :=
  let groups := parts (· == '-') cs
  groups.map List.length == [8, 4, 4, 4, 12] && groups.all (·.all isHex)

def isAtomChar (c : Char) : Bool :=
  isAsciiAlphanumeric c || ("!#$%&'*+/=?^_`\x7b|\x7d~-".toList).contains c

def isAtom (cs : List Char) : Bool := !cs.isEmpty && cs.all isAtomChar

/-- Letters, digits and hyphens, with a letter or digit at both ends. -/
def isLabel (cs : List Char) : Bool :=
  (cs.head?.any isAsciiAlphanumeric) && (cs.getLast?.any isAsciiAlphanumeric)
    && cs.all fun c => isAsciiAlphanumeric c || c == '-'

/-- Atoms joined by dots, an at sign, and two or more labels joined by dots. -/
def isEmail (cs : List Char) : Bool :=
  match cutAt? '@' cs with
  | none => false
  | some (localPart, domain) =>
    let labels := parts (· == '.') domain
    (parts (· == '.') localPart).all isAtom && 2 ≤ labels.length && labels.all isLabel

def isSchemeChar (c : Char) : Bool :=
  isAsciiAlphanumeric c || c == '+' || c == '.' || c == '-'

/-- A scheme, a colon, and something without white space. -/
def isUri (cs : List Char) : Bool :=
  match cutAt? ':' cs with
  | none => false
  | some (scheme, rest) =>
    scheme.head?.any isAsciiLetter && scheme.all isSchemeChar && !rest.isEmpty
      && rest.all fun c => !Unicode.isWhiteSpace c

end DataSchema.Text
