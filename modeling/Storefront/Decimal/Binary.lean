/-!
# Binary floats taken apart

A finite float is a whole number times a power of two. `Binary.ofFloat?` gives that exact value,
on which rounding, text and comparisons with integers are computed without floats.
-/

namespace Storefront.Decimal

/-- An exact value `± mantissa * 2 ^ exponent`. -/
structure Binary where
  negative : Bool
  mantissa : Nat
  exponent : Int
  /-- The gap to the float below is half the gap to the float above. -/
  narrowBelow : Bool
  deriving DecidableEq

/-- What a float stands for. -/
inductive Reading where
  | finite (value : Binary)
  | infinite (negative : Bool)
  | undefined
  deriving DecidableEq

/-- The meaning of a float's bits. -/
def Reading.ofFloat (x : Float) : Reading :=
  let bits := x.toBits
  let negative := bits >>> 63 == 1
  let exponent := ((bits >>> 52) &&& 0x7FF).toNat
  let fraction := (bits &&& 0xFFFFFFFFFFFFF).toNat
  if exponent == 0x7FF then
    if fraction == 0 then .infinite negative else .undefined
  else if exponent == 0 then
    .finite ⟨negative, fraction, -1074, false⟩
  else
    .finite ⟨negative, 0x10000000000000 + fraction, (exponent : Int) - 1075, fraction == 0 && exponent > 1⟩

namespace Binary

/-- The magnitude as a quotient of naturals with a positive denominator. -/
def quotient (value : Binary) : Nat × Nat :=
  (value.mantissa <<< value.exponent.toNat, 1 <<< (-value.exponent).toNat)

/-- The value, if it is a whole number. -/
def toInt? (value : Binary) : Option Int :=
  let (numerator, denominator) := value.quotient
  if numerator % denominator = 0 then
    let magnitude : Int := (numerator / denominator : Nat)
    some (if value.negative then -magnitude else magnitude)
  else
    none

/-- The whole part, toward zero. -/
def truncate (value : Binary) : Int :=
  let (numerator, denominator) := value.quotient
  let magnitude : Int := (numerator / denominator : Nat)
  if value.negative then -magnitude else magnitude

/-- The value as a rational number. -/
def toRat (value : Binary) : Rat :=
  mkRat (if value.negative then -(value.quotient.1 : Int) else value.quotient.1) value.quotient.2

end Binary

/-- The whole number a float stands for, if it does. -/
def wholeNumber? (x : Float) : Option Int :=
  match Reading.ofFloat x with
  | .finite value => value.toInt?
  | _ => none

/-- Round a quotient to the nearest whole number, a half to the even neighbour. -/
def roundHalfEven (numerator denominator : Nat) : Nat :=
  let whole := numerator / denominator
  let twice := 2 * (numerator % denominator)
  if twice < denominator then whole
  else if denominator < twice then whole + 1
  else if whole % 2 = 0 then whole else whole + 1

/-- The float nearest to an integer, or nothing when the integer is beyond the largest float. -/
def nearestFloat? (n : Int) : Option Float :=
  let magnitude := Float.ofScientific n.natAbs false 0
  if magnitude.isInf then none else some (if n < 0 then -magnitude else magnitude)

end Storefront.Decimal
