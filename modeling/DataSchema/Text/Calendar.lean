import DataSchema.Text.Digit
import DataSchema.Unicode.Property

/-!
Dates, and dates with a time and an offset, in the proleptic Gregorian calendar.
-/
namespace DataSchema.Text

def isLeapYear (year : Int) : Bool := year % 4 = 0 && (year % 100 ≠ 0 || year % 400 = 0)

def monthLength (year : Int) (month : Nat) : Nat :=
  match month with
  | 2 => if isLeapYear year then 29 else 28
  | 4 | 6 | 9 | 11 => 30
  | _ => 31

def isDay (year : Int) (month day : Nat) : Bool :=
  1 ≤ month && month ≤ 12 && 1 ≤ day && day ≤ monthLength year month

/-- Reads from `least` to `most` digits. -/
def number? (least most : Nat) (cs : List Char) : Option (Nat × List Char) :=
  let digits := (cs.take most).takeWhile isDecimal
  if digits.length < least then none
  else some (ofDecimalDigits digits, cs.drop digits.length)

def mark? (c : Char) : List Char → Option (List Char)
  | [] => none
  | d :: rest => if d = c then some rest else none

def skipWhite (cs : List Char) : List Char := cs.dropWhile Unicode.isWhiteSpace

/-- A year after white space. One with a sign may have any number of digits. -/
def year? (cs : List Char) : Option (Int × List Char) :=
  match skipWhite cs with
  | '-' :: rest => (number? 1 rest.length rest).map fun (year, rest) => (-(year : Int), rest)
  | '+' :: rest => (number? 1 rest.length rest).map fun (year, rest) => ((year : Int), rest)
  | rest => (number? 1 4 rest).map fun (year, rest) => ((year : Int), rest)

/-- Year, month and day with hyphens between them, white space before each being skipped. -/
def lenientDate (cs : List Char) : Bool :=
  (do
    let (year, cs) ← year? cs
    let cs ← mark? '-' cs
    let (month, cs) ← number? 1 2 (skipWhite cs)
    let cs ← mark? '-' cs
    let (day, cs) ← number? 1 2 (skipWhite cs)
    return cs.isEmpty && isDay year month day : Option Bool).getD false

/-- A date of ten bytes. -/
def isDate (s : String) : Bool := s.utf8ByteSize == 10 && lenientDate s.toList

/-- The fraction of a second has a digit or more. -/
def fraction? : List Char → Option (List Char)
  | '.' :: rest =>
    match rest.takeWhile isDecimal with
    | [] => none
    | _ => some (rest.dropWhile isDecimal)
  | rest => some rest

def minusSign : Char := '\u2212'

/-- `Z`, or a sign with hours and minutes short of a day. -/
def offset? : List Char → Option (List Char)
  | [] => none
  | c :: rest =>
    if c == 'Z' || c == 'z' then some rest
    else if c == '+' || c == '-' || c == minusSign then do
      let (hours, rest) ← number? 2 2 rest
      let rest ← mark? ':' rest
      let (minutes, rest) ← number? 2 2 rest
      if hours ≤ 23 && minutes ≤ 59 then some rest else none
    else none

/-- A date and a time of day with an offset. A second may be a leap second. -/
def isDateTime (s : String) : Bool :=
  (do
    let (year, cs) ← number? 4 4 s.toList
    let cs ← mark? '-' cs
    let (month, cs) ← number? 2 2 cs
    let cs ← mark? '-' cs
    let (day, cs) ← number? 2 2 cs
    let cs ← mark? 'T' cs <|> mark? 't' cs <|> mark? ' ' cs
    let (hour, cs) ← number? 2 2 cs
    let cs ← mark? ':' cs
    let (minute, cs) ← number? 2 2 cs
    let cs ← mark? ':' cs
    let (second, cs) ← number? 2 2 cs
    let cs ← fraction? cs
    let cs ← offset? cs
    return cs.isEmpty && isDay year month day && hour ≤ 23 && minute ≤ 59 && second ≤ 60
      : Option Bool).getD false

end DataSchema.Text
