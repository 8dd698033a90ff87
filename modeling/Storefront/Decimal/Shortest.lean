import Storefront.Decimal.Binary
/-!
# The shortest decimal of a float

Among the decimals that read back to a float, the one with the fewest digits is selected, and of
several the nearest. The search runs over one, two, … seventeen digits in exact arithmetic.
-/

namespace Storefront.Decimal

/-- A point `digits * 10 ^ exponent` of a decimal grid. -/
structure GridPoint where
  digits : Nat
  exponent : Int
  deriving DecidableEq

/-- Compare `a * 10 ^ i` with `n * 2 ^ j`. -/
def compareScaled (a : Nat) (i : Int) (n : Nat) (j : Int) : Ordering :=
  compare (a * Nat.pow 10 i.toNat <<< (-j).toNat) (n * Nat.pow 10 (-i).toNat <<< j.toNat)

/-- Whether a decimal lies among the reals that round to the float. -/
def Binary.readsBack (value : Binary) (decimal : GridPoint) : Bool :=
  let lower := if value.narrowBelow then 4 * value.mantissa - 1 else 4 * value.mantissa - 2
  let upper := 4 * value.mantissa + 2
  let closed := value.mantissa % 2 == 0
  let atLower := compareScaled decimal.digits decimal.exponent lower (value.exponent - 2)
  let atUpper := compareScaled decimal.digits decimal.exponent upper (value.exponent - 2)
  (atLower == .gt || (closed && atLower == .eq)) && (atUpper == .lt || (closed && atUpper == .eq))

/-- The least `k` with the magnitude below `10 ^ k`, corrected upward from a low estimate. -/
def Binary.magnitudeBelow (value : Binary) : Int :=
  let estimate := (((value.mantissa.log2 : Int) + value.exponent) * 30103) / 100000 - 1
  let candidates := (List.range 4).map fun (step : Nat) => estimate + (step : Int)
  (candidates.find? fun k => compareScaled 1 k value.mantissa value.exponent == .gt).getD
    (estimate + 4)

/-- The nearer of the two neighbours on a decimal grid that reads back, if one does. -/
def Binary.onGrid (value : Binary) (exponent : Int) : Option GridPoint :=
  let (numerator, denominator) := value.quotient
  let scaledUp := numerator * Nat.pow 10 (-exponent).toNat
  let scaledDown := denominator * Nat.pow 10 exponent.toNat
  let below : GridPoint := ⟨scaledUp / scaledDown, exponent⟩
  let above : GridPoint := ⟨scaledUp / scaledDown + 1, exponent⟩
  match value.readsBack below, value.readsBack above with
  | true, false => some below
  | false, true => some above
  | false, false => none
  | true, true =>
    match compare (2 * scaledUp) ((below.digits + above.digits) * scaledDown) with
    | .lt => some below
    | .gt => some above
    | .eq => some (if below.digits % 2 = 0 then below else above)

/-- Move trailing zeros of the digits into the exponent. -/
def GridPoint.strip (decimal : GridPoint) : Nat → GridPoint
  | 0 => decimal
  | fuel + 1 =>
    if decimal.digits ≠ 0 ∧ decimal.digits % 10 = 0 then
      GridPoint.strip ⟨decimal.digits / 10, decimal.exponent + 1⟩ fuel
    else
      decimal

/-- The shortest decimal that reads back to a value other than zero. -/
def Binary.shortest (value : Binary) : GridPoint :=
  let top := value.magnitudeBelow
  let grids := (List.range 17).map fun (digits : Nat) => top - ((digits : Int) + 1)
  let whole := value.mantissa * Nat.pow 5 (-value.exponent).toNat <<< value.exponent.toNat
  let selected := (grids.findSome? value.onGrid).getD ⟨whole, min value.exponent 0⟩
  selected.strip 400

/-- How a selected decimal is laid out as text. -/
structure NumberStyle where
  /-- The leading digit's exponent is positional from here … -/
  plainFrom : Int
  /-- … and below here. -/
  plainBelow : Int
  /-- The least number of digits of an exponent. -/
  exponentWidth : Nat

/-- Zeros as text. -/
def zeros (count : Nat) : String := String.ofList (List.replicate count '0')

/-- Lay out a decimal: positionally with at least one place, or with a signed exponent. -/
def NumberStyle.layout (style : NumberStyle) (decimal : GridPoint) : String :=
  let digits := toString decimal.digits
  let leading := decimal.exponent + digits.length - 1
  if style.plainFrom ≤ leading ∧ leading < style.plainBelow then
    if 0 ≤ decimal.exponent then
      digits ++ zeros decimal.exponent.toNat ++ ".0"
    else
      let places := (-decimal.exponent).toNat
      if places < digits.length then
        (digits.take (digits.length - places)).toString ++ "." ++
          (digits.drop (digits.length - places)).toString
      else
        "0." ++ zeros (places - digits.length) ++ digits
  else
    let first := (digits.take 1).toString
    let rest := (digits.drop 1).toString
    let mantissa := if rest.isEmpty then first else first ++ "." ++ rest
    let sign := if leading < 0 then "-" else "+"
    let size := toString leading.natAbs
    mantissa ++ "e" ++ sign ++ zeros (style.exponentWidth - size.length) ++ size

/-- A float as text in a style. -/
def NumberStyle.render (style : NumberStyle) (x : Float) : String :=
  match Reading.ofFloat x with
  | .undefined => "nan"
  | .infinite negative => if negative then "-inf" else "inf"
  | .finite value =>
    let text := if value.mantissa = 0 then "0.0" else style.layout value.shortest
    if value.negative then "-" ++ text else text

/-- Numbers in identifiers and tags: positional from `0.0001` up to sixteen digits, otherwise with
a signed exponent of at least two digits. -/
def plainNumber : NumberStyle where
  plainFrom := -4
  plainBelow := 16
  exponentWidth := 2

end Storefront.Decimal
