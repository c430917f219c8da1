import SchemaSheet.Number.Binary64

/-!
# The shortest decimal

The shortest decimal that reads back as a given number, and of the shortest
ones the nearest.  `AmountFormat` says how it is written.
-/

namespace SchemaSheet

namespace Binary64

/-- A positive fraction with the bounds of all decimals that read back as the
same number.  All three have the same denominator. -/
structure Interval where
  low : Nat
  value : Nat
  high : Nat
  denominator : Nat
  closed : Bool

/-- The decimals that read back as `mantissa * 2 ^ exponent`.  Below a power of
two the neighbour is only half as far away. -/
def interval (mantissa : Nat) (exponent : Int) : Interval :=
  let below :=
    if mantissa = Nat.pow 2 52 ∧ minExponent < exponent then 1 else 2
  let scale := if exponent < 0 then 1 else Nat.pow 2 exponent.natAbs
  { low := (4 * mantissa - below) * scale
    value := 4 * mantissa * scale
    high := (4 * mantissa + 2) * scale
    denominator := 4 * (if exponent < 0 then Nat.pow 2 exponent.natAbs else 1)
    closed := mantissa % 2 == 0 }

namespace Interval

def contains (bounds : Interval) (numerator denominator : Nat) : Bool :=
  let scaled := numerator * bounds.denominator
  let low := bounds.low * denominator
  let high := bounds.high * denominator
  if bounds.closed then low ≤ scaled && scaled ≤ high
  else low < scaled && scaled < high

/-- Digits of the fraction before its decimal point; for a fraction below one,
its zeros behind the point, counted down from nought. -/
def magnitude (bounds : Interval) : Int :=
  if bounds.denominator ≤ bounds.value then
    ((Nat.toDigits 10 (bounds.value / bounds.denominator)).length : Int)
  else
    let zeros := (List.range 400).find? fun zeros =>
      bounds.denominator ≤ bounds.value * Nat.pow 10 (zeros + 1)
    Int.negOfNat (zeros.getD 400)

/-- The nearest decimal with `count` digits that lies in the interval, as a
whole number of units `10 ^ (magnitude - count)`. -/
def nearest? (bounds : Interval) (magnitude : Int) (count : Nat) :
    Option Nat :=
  let unit : Int := magnitude - count
  let up := if unit < 0 then Nat.pow 10 unit.natAbs else 1
  let down := if unit < 0 then 1 else Nat.pow 10 unit.natAbs
  let divisor := bounds.denominator * down
  let floor := bounds.value * up / divisor
  let remainder := bounds.value * up % divisor
  let lower := bounds.contains (floor * down) up
  let upper := bounds.contains ((floor + 1) * down) up
  let upperNearer :=
    divisor < 2 * remainder ∨ (2 * remainder = divisor ∧ floor % 2 = 1)
  match lower, upper with
  | false, false => none
  | true, false => some floor
  | false, true => some (floor + 1)
  | true, true => some (if upperNearer then floor + 1 else floor)

/-- The shortest decimal of the interval: its digits, and how many of them
stand before the point. -/
def shortest (bounds : Interval) : List Char × Int :=
  let magnitude := bounds.magnitude
  let counts := (List.range 17).map (· + 1)
  let found := counts.findSome? fun count =>
    (bounds.nearest? magnitude count).map fun units => (units, count)
  match found with
  | none => (['0'], 1)
  | some (units, count) =>
      let digits := Nat.toDigits 10 units
      let kept := (digits.reverse.dropWhile (· == '0')).reverse
      (kept, magnitude + ((digits.length : Int) - count))

end Interval

end Binary64

/-- How numbers are written: the sizes that are written without an exponent,
and the least count of digits of an exponent. -/
structure AmountFormat where
  /-- A number with this many zeros behind its point takes an exponent. -/
  zeroLimit : Nat
  /-- A number with more digits before its point takes an exponent. -/
  digitLimit : Nat
  /-- Digits of an exponent, at least. -/
  exponentDigits : Nat

namespace AmountFormat

/-- Numbers from `0.0001` and below `10 ^ 16` are written without an exponent;
an exponent has two digits at least. -/
def standard : AmountFormat := ⟨4, 16, 2⟩

/-- The digits of a number, with zeros in front up to a least count. -/
def padded (count number : Nat) : List Char :=
  let digits := Nat.toDigits 10 number
  List.replicate (count - digits.length) '0' ++ digits

/-- Digits of which `point` stand before the decimal point. -/
def write (format : AmountFormat) (digits : List Char) (point : Int) :
    List Char :=
  let places := point.natAbs
  if 0 < point ∧ places ≤ format.digitLimit then
    if digits.length ≤ places then
      digits ++ List.replicate (places - digits.length) '0' ++ ['.', '0']
    else digits.take places ++ ['.'] ++ digits.drop places
  else if point ≤ 0 ∧ places < format.zeroLimit then
    ['0', '.'] ++ List.replicate places '0' ++ digits
  else
    let exponent := point - 1
    let fraction := digits.drop 1
    digits.take 1 ++ (if fraction.isEmpty then [] else '.' :: fraction)
      ++ ['e', if exponent < 0 then '-' else '+']
      ++ padded format.exponentDigits exponent.natAbs

end AmountFormat

namespace Binary64

def display : Binary64 → List Char
  | .nan => "nan".toList
  | .infinite negative => (if negative then "-inf" else "inf").toList
  | .finite negative mantissa exponent =>
      let signless :=
        if mantissa = 0 then ['0', '.', '0']
        else
          let (digits, point) := (interval mantissa exponent).shortest
          AmountFormat.standard.write digits point
      if negative then '-' :: signless else signless

end Binary64

end SchemaSheet
