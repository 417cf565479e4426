import DataSchema.Number.Binary64

/-!
Numbers from decimal digits. The digits that 64 bits hold make a significand, and all others only
move its exponent. The significand is rounded to a binary64 number, which a power of ten then
scales, so the result may be a neighbour of the number nearest to the decimal.
-/
namespace DataSchema

/-- The number `significand * 10 ^ exponent`. -/
structure Scientific where
  significand : Nat
  exponent : Int
deriving DecidableEq, Repr

namespace Scientific

def largestSignificand : Nat := 0xFFFFFFFFFFFFFFFF

/-- Puts a digit after the others if the significand has room for it. -/
def push? (s : Scientific) (digit : Nat) : Option Scientific :=
  let significand := 10 * s.significand + digit
  if significand ≤ largestSignificand then some { s with significand } else none

def shift (s : Scientific) (places : Int) : Scientific :=
  { s with exponent := s.exponent + places }

/-- The exponent of the largest power of ten that is finite. -/
def largestPower : Nat := 308

def power (exponent : Nat) : Binary64 := .ofDecimal false 1 exponent

/-- Divides by a power of ten, in steps where no power is large enough. Two steps leave nothing of
a significand, so the fuel never runs out. -/
def divided : Nat → Binary64 → Nat → Binary64
  | 0, _, _ => .zero
  | fuel + 1, value, exponent =>
    if exponent ≤ largestPower then value.div (power exponent)
    else if value = .zero then .zero
    else divided fuel (value.div (power largestPower)) (exponent - largestPower)

/-- The number without its sign, unless it is too large. -/
def magnitude? (s : Scientific) : Option Binary64 :=
  let value := Binary64.ofNat s.significand
  if s.exponent < 0 then some (divided 4 value s.exponent.natAbs)
  else if s.exponent ≤ largestPower then
    let scaled := value.mul (power s.exponent.toNat)
    if scaled.isFinite then some scaled else none
  else if value = .zero then some .zero
  else none

def toBinary64? (negative : Bool) (s : Scientific) : Option Binary64 :=
  s.magnitude?.map fun value => if negative then value.neg else value

end Scientific
end DataSchema
