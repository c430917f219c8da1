/-!
# Binary floating-point numbers

Numbers with 53 significant bits, held exactly, and the rounding of a decimal
number to the nearest of them.
-/

namespace SchemaSheet

/-- A number with 53 significant bits.  A finite one is
`mantissa * 2 ^ exponent` with a sign; its mantissa is below `2 ^ 53`, and at
least `2 ^ 52` unless the exponent is the least one, `-1074`. -/
inductive Binary64 where
  | nan
  | infinite (negative : Bool)
  | finite (negative : Bool) (mantissa : Nat) (exponent : Int)
  deriving DecidableEq, Repr

namespace Binary64

def minExponent : Int := -1074

def maxExponent : Int := 971

def zero (negative : Bool) : Binary64 := .finite negative 0 minExponent

/-- The quotient to the nearest whole number, a half to the even neighbour. -/
def divNearest (numerator denominator : Nat) : Nat :=
  let quotient := numerator / denominator
  let twice := 2 * (numerator % denominator)
  if twice < denominator then quotient
  else if denominator < twice then quotient + 1
  else quotient + quotient % 2

/-- The greatest `power` with `2 ^ power ≤ numerator / denominator`. -/
def floorLog2 (numerator denominator : Nat) : Int :=
  let guess : Int := (Nat.log2 numerator : Int) - Nat.log2 denominator
  let reached :=
    if guess < 0 then denominator ≤ numerator * Nat.pow 2 guess.natAbs
    else denominator * Nat.pow 2 guess.natAbs ≤ numerator
  if reached then guess else guess - 1

/-- A positive fraction in units of `2 ^ exponent`, rounded. -/
def inUnits (numerator denominator : Nat) (exponent : Int) : Nat :=
  if exponent < 0 then
    divNearest (numerator * Nat.pow 2 exponent.natAbs) denominator
  else divNearest numerator (denominator * Nat.pow 2 exponent.natAbs)

/-- The number nearest to a positive fraction. -/
def ofFraction (negative : Bool) (numerator denominator : Nat) : Binary64 :=
  let exponent := max (floorLog2 numerator denominator - 52) minExponent
  let mantissa := inUnits numerator denominator exponent
  let carried := mantissa = Nat.pow 2 53
  let exponent := if carried then exponent + 1 else exponent
  let mantissa := if carried then Nat.pow 2 52 else mantissa
  if maxExponent < exponent then .infinite negative
  else .finite negative mantissa exponent

/-- The number nearest to `digits * 10 ^ scale`.  Numbers beyond all bounds are
recognised by the count of their digits. -/
def ofDecimal (negative : Bool) (digits : Nat) (scale : Int) : Binary64 :=
  let size : Int := (Nat.toDigits 10 digits).length + scale
  if digits = 0 ∨ size < -330 then zero negative
  else if 320 < size then .infinite negative
  else if scale < 0 then ofFraction negative digits (Nat.pow 10 scale.natAbs)
  else ofFraction negative (digits * Nat.pow 10 scale.natAbs) 1

/-- The number is zero, whatever its sign. -/
def isZero : Binary64 → Bool
  | .finite _ mantissa _ => mantissa == 0
  | _ => false

end Binary64

end SchemaSheet
