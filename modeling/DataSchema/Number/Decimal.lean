import DataSchema.Number.Binary64

/-!
Decimal text of binary64 numbers: the fewest digits that read back, and of those the digits
nearest to the number, with a rule for ties.
-/
namespace DataSchema

/-- The number `digits[0].digits[1]… * 10 ^ exponent`. -/
structure Decimal where
  digits : List Char
  exponent : Int
deriving DecidableEq, Repr

namespace Decimal

/-- Which of two decimals is taken when both are equally near: the one with an even last digit, or
the one further from zero. -/
inductive Tie where
  | even | away
deriving DecidableEq, Repr

def Tie.choose (below : Nat) : Tie → Nat
  | .even => below + below % 2
  | .away => below + 1

/-- A number with the ends of the interval that rounds to it, in quarters of a unit: the ends lie
half a step away, and half a step below a power of two is a quarter of a step above it. -/
structure Neighbourhood where
  centre : Nat
  low : Nat
  high : Nat
  closed : Bool

/-- The numbers that round to `units`, in quarter units; the ends belong to it when the
significand is even. -/
def neighbourhood (units : Nat) : Neighbourhood :=
  let spare := units.log2 + 1 - Binary64.precision
  let step := Nat.pow 2 spare
  let significand := units / step
  let lowStep := if significand = Nat.pow 2 52 ∧ 0 < spare then step else 2 * step
  ⟨4 * units, 4 * units - lowStep, 4 * units + 2 * step, significand % 2 == 0⟩

/-- Numerator and denominator of `10 ^ e` quarter units. -/
def gridStep (e : Int) : Nat × Nat :=
  if 0 ≤ e then (4 * Nat.pow 10 e.toNat * Binary64.unitsPerOne, 1)
  else (4 * Binary64.unitsPerOne, Nat.pow 10 (-e).toNat)

def Neighbourhood.holds (n : Neighbourhood) (step : Nat × Nat) (count : Nat) : Bool :=
  let num := count * step.1
  if n.closed then n.low * step.2 ≤ num && num ≤ n.high * step.2
  else n.low * step.2 < num && num < n.high * step.2

/-- The multiple of the step `10 ^ e` that lies in the neighbourhood and is nearest to its
centre. -/
def Neighbourhood.nearest? (n : Neighbourhood) (tie : Tie) (e : Int) : Option Nat :=
  let step := gridStep e
  let below := n.centre * step.2 / step.1
  let rest := n.centre * step.2 % step.1
  match n.holds step below && below != 0, n.holds step (below + 1) with
  | true, true =>
    if 2 * rest < step.1 then some below
    else if step.1 < 2 * rest then some (below + 1)
    else some (tie.choose below)
  | true, false => some below
  | false, true => some (below + 1)
  | false, false => none

/-- The exponent of the first significant digit: the largest `e` with `10 ^ e` not above the
number, found by stepping from a first guess. -/
def leadingExponent (units : Nat) : Int :=
  let guess : Int := (((units.log2 : Int) - 1074) * 30103).fdiv 100000
  let fits (e : Int) : Bool :=
    let step := gridStep e
    step.1 ≤ 4 * units * step.2
  if fits (guess + 1) then guess + 1 else if fits guess then guess else guess - 1

/-- Tries one digit, then two, and so on; 17 always suffice. -/
def shortestFrom (n : Neighbourhood) (tie : Tie) : Nat → Int → Nat × Int
  | 0, e => ((n.nearest? tie e).getD 0, e)
  | fuel + 1, e =>
    match n.nearest? tie e with
    | some count => (count, e)
    | none => shortestFrom n tie fuel (e - 1)

def dropTrailingZeros (digits : List Char) : List Char :=
  (digits.reverse.dropWhile (· == '0')).reverse

/-- The shortest decimal of a positive number of units. -/
def ofUnits (tie : Tie) (units : Nat) : Decimal :=
  let (count, e) := shortestFrom (neighbourhood units) tie 17 (leadingExponent units)
  let digits := Nat.toDigits 10 count
  ⟨dropTrailingZeros digits, e + digits.length - 1⟩

/-- How a number is laid out. -/
structure Layout where
  tie : Tie
  /-- Exponents written without an exponent mark. -/
  positional : Int → Bool
  /-- What follows the digits of an integral number. -/
  integralTail : String
  nan : String
  infinite : String

def zeros (n : Nat) : List Char := List.replicate n '0'

def positionalText (d : Decimal) (tail : String) : List Char :=
  if d.exponent < 0 then '0' :: '.' :: zeros (-d.exponent - 1).toNat ++ d.digits
  else
    let whole := d.exponent.toNat + 1
    if d.digits.length ≤ whole then
      d.digits ++ zeros (whole - d.digits.length) ++ tail.toList
    else d.digits.take whole ++ '.' :: d.digits.drop whole

def exponentText (d : Decimal) : List Char :=
  let mark := if d.exponent < 0 then ['e', '-'] else ['e', '+']
  let exponent := mark ++ Nat.toDigits 10 d.exponent.natAbs
  match d.digits with
  | [] => exponent
  | [c] => c :: exponent
  | c :: rest => c :: '.' :: rest ++ exponent

def text (layout : Layout) (d : Decimal) : List Char :=
  if layout.positional d.exponent then positionalText d layout.integralTail else exponentText d

end Decimal

/-- The text of a number under a layout. -/
def Binary64.format (layout : Decimal.Layout) : Binary64 → String
  | .nan => layout.nan
  | .infinite negative => if negative then "-" ++ layout.infinite else layout.infinite
  | .finite negative units =>
    let body :=
      if units = 0 then Decimal.text layout ⟨['0'], 0⟩
      else Decimal.text layout (Decimal.ofUnits layout.tie units)
    String.ofList (if negative then '-' :: body else body)

/-- JSON numbers: a fraction or an exponent is always there, and exponents outside -5 to 15 are
written with a mark. A number that is not finite has no JSON text and is written as null. -/
def Decimal.Layout.json : Decimal.Layout :=
  { tie := .even
    positional := fun e => -5 ≤ e && e ≤ 15
    integralTail := ".0"
    nan := "null"
    infinite := "null" }

/-- Bounds in messages: never an exponent, no fraction on an integral number. -/
def Decimal.Layout.plain : Decimal.Layout :=
  { tie := .away
    positional := fun _ => true
    integralTail := ""
    nan := "NaN"
    infinite := "inf" }

end DataSchema
