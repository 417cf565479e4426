/-!
Binary64 numbers with exact arithmetic on `Nat`. A finite number is a sign and a count of
units of 2^-1074, the smallest positive one, so comparison and remainder are comparison and
remainder of integers; only the operations that leave the 53-bit grid round.
-/
namespace DataSchema

inductive Binary64 where
  | nan
  | infinite (negative : Bool)
  | finite (negative : Bool) (units : Nat)
deriving DecidableEq, Repr

namespace Binary64

/-- Bits of a significand. -/
def precision : Nat := 53

/-- One is 2^1074 units. -/
def unitsPerOne : Nat := Nat.pow 2 1074

/-- Magnitudes from 2^1024 on are infinite. -/
def overflowUnits : Nat := Nat.pow 2 2098

/-- The integer nearest to `num / den`; a tie goes to the even one. -/
def divNearestEven (num den : Nat) : Nat :=
  let q := num / den
  let r := num % den
  if 2 * r < den then q
  else if den < 2 * r then q + 1
  else q + q % 2

/-- The unit count with at most 53 significant bits that is nearest to `num / den`. -/
def roundUnits (num den : Nat) : Nat :=
  let spare := (num / den).log2 + 1 - precision
  divNearestEven num (den * Nat.pow 2 spare) * Nat.pow 2 spare

/-- The number nearest to `num / den` units. -/
def ofRatio (negative : Bool) (num den : Nat) : Binary64 :=
  let units := roundUnits num den
  if units < overflowUnits then .finite negative units else .infinite negative

def ofNat (n : Nat) : Binary64 := ofRatio false (n * unitsPerOne) 1

def ofInt (i : Int) : Binary64 := ofRatio (i < 0) (i.natAbs * unitsPerOne) 1

/-- The number nearest to `digits * 10 ^ exponent`. An exponent far outside the range is cut off
before a power of ten is built. -/
def ofDecimal (negative : Bool) (digits : Nat) (exponent : Int) : Binary64 :=
  let magnitude : Int := digits.log2 / 3 + exponent
  if digits = 0 then .finite negative 0
  else if 400 < exponent then .infinite negative
  else if magnitude < -400 then .finite negative 0
  else if 0 ≤ exponent then
    ofRatio negative (digits * Nat.pow 10 exponent.toNat * unitsPerOne) 1
  else ofRatio negative (digits * unitsPerOne) (Nat.pow 10 (-exponent).toNat)

def zero : Binary64 := .finite false 0
def one : Binary64 := .finite false unitsPerOne

def isFinite : Binary64 → Bool
  | .finite _ _ => true
  | _ => false

/-- Units with their sign; both zeros are 0. -/
def signedUnits (negative : Bool) (units : Nat) : Int := if negative then -(units : Int) else units

def lt : Binary64 → Binary64 → Bool
  | .nan, _ | _, .nan => false
  | .infinite a, .infinite b => a && !b
  | .infinite a, .finite _ _ => a
  | .finite _ _, .infinite b => !b
  | .finite s m, .finite t n => signedUnits s m < signedUnits t n

/-- Numeric equality: the zeros are equal and nan is not equal to itself. -/
def eq : Binary64 → Binary64 → Bool
  | .infinite a, .infinite b => a == b
  | .finite s m, .finite t n => signedUnits s m == signedUnits t n
  | _, _ => false

def le (x y : Binary64) : Bool := lt x y || eq x y

/-- The total order with nan last and equal to itself. -/
def order (x y : Binary64) : Ordering :=
  match x, y with
  | .nan, .nan => .eq
  | .nan, _ => .gt
  | _, .nan => .lt
  | x, y => if lt x y then .lt else if lt y x then .gt else .eq

def abs : Binary64 → Binary64
  | .nan => .nan
  | .infinite _ => .infinite false
  | .finite _ units => .finite false units

def neg : Binary64 → Binary64
  | .nan => .nan
  | .infinite negative => .infinite (!negative)
  | .finite negative units => .finite (!negative) units

/-- The larger of two numbers; nan gives way to the other one. -/
def max (x y : Binary64) : Binary64 :=
  match x with
  | .nan => y
  | x => if lt x y then y else x

def mul : Binary64 → Binary64 → Binary64
  | .nan, _ | _, .nan => .nan
  | .infinite a, .infinite b => .infinite (a != b)
  | .infinite a, .finite b units | .finite b units, .infinite a =>
    if units = 0 then .nan else .infinite (a != b)
  | .finite s m, .finite t n => ofRatio (s != t) (m * n) unitsPerOne

def div : Binary64 → Binary64 → Binary64
  | .nan, _ | _, .nan | .infinite _, .infinite _ => .nan
  | .infinite a, .finite b _ => .infinite (a != b)
  | .finite a _, .infinite b => .finite (a != b) 0
  | .finite s m, .finite t n =>
    if n ≠ 0 then ofRatio (s != t) (m * unitsPerOne) n
    else if m = 0 then .nan
    else .infinite (s != t)

def sub : Binary64 → Binary64 → Binary64
  | .nan, _ | _, .nan => .nan
  | .infinite a, .infinite b => if a == b then .nan else .infinite a
  | .infinite a, .finite _ _ => .infinite a
  | .finite _ _, .infinite b => .infinite (!b)
  | .finite s m, .finite t n =>
    let difference := signedUnits s m - signedUnits t n
    if difference = 0 then .finite (s && !t) 0
    else ofRatio (difference < 0) difference.natAbs 1

/-- The remainder of the quotient cut off toward zero. It has the sign of `x` and is exact. -/
def rem : Binary64 → Binary64 → Binary64
  | .nan, _ | _, .nan | .infinite _, _ => .nan
  | .finite s m, .infinite _ => .finite s m
  | .finite s m, .finite _ n => if n = 0 then .nan else .finite s (m % n)

def isIntegral : Binary64 → Bool
  | .finite _ units => units % unitsPerOne == 0
  | _ => false

end Binary64
end DataSchema
