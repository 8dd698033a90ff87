import Storefront.Decimal.Binary
/-!
# Decimals with a fixed number of places

The exact value of a float is rounded once, a half to the even neighbour, and written
positionally; no exponent is ever used.
-/

namespace Storefront.Decimal

/-- The digits of a natural, padded on the left with zeros to a least width. -/
def paddedDigits (width n : Nat) : String :=
  let digits := toString n
  String.ofList (List.replicate (width - digits.length) '0') ++ digits

/-- A natural number of units of `10 ^ -places` as text. -/
def pointed (places units : Nat) : String :=
  if places = 0 then toString units
  else
    let unit := Nat.pow 10 places
    toString (units / unit) ++ "." ++ paddedDigits places (units % unit)

/-- A float with a set number of places after the point. -/
def fixed (places : Nat) (x : Float) : String :=
  match Reading.ofFloat x with
  | .undefined => "nan"
  | .infinite negative => if negative then "-inf" else "inf"
  | .finite value =>
    let (numerator, denominator) := value.quotient
    let text := pointed places (roundHalfEven (numerator * Nat.pow 10 places) denominator)
    if value.negative then "-" ++ text else text

end Storefront.Decimal
