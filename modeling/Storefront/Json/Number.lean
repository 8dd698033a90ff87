import Storefront.Json.Basic
import Storefront.Numeral
import Storefront.Fault
/-!
# Numbers in free-form values

Reading a float or a whole number out of a value of any kind, equality of values in which numbers
and truth values of equal size are equal, and the order tests that free-form values admit.
-/

namespace Storefront.Json

/-- A value as a float: numbers, truth values, and text that writes a number. -/
def toFloat : Json → Except Fault Float
  | .float value => .ok value
  | .int value =>
    match Decimal.nearestFloat? value with
    | some value => .ok value
    | none => .error .beyondFloats
  | .bool value => .ok (if value then 1.0 else 0.0)
  | .str text =>
    match Numeral.freeFloat? text with
    | some value => .ok value
    | none => .error (.unreadableFloat text)
  | value => .error (.notAFloat value.kindName)

/-- A value as a whole number: floats lose their fraction. -/
def toInt : Json → Except Fault Int
  | .int value => .ok value
  | .bool value => .ok (if value then 1 else 0)
  | .float value =>
    match Decimal.Reading.ofFloat value with
    | .finite exact => .ok exact.truncate
    | .infinite _ => .error .infiniteInt
    | .undefined => .error .undefinedInt
  | .str text =>
    match Numeral.freeInt? text with
    | some value => .ok value
    | none => .error (.unreadableInt text)
  | value => .error (.notAnInt value.kindName)

/-- A number that is a value of its own kind: truth values count as zero and one. -/
inductive Amount where
  | whole (value : Int)
  | real (value : Float)

/-- The number a value is, without reading text. -/
def amount? : Json → Option Amount
  | .int value => some (.whole value)
  | .bool value => some (.whole (if value then 1 else 0))
  | .float value => some (.real value)
  | _ => none

namespace Amount

/-- The order of a whole number and a float, exactly. -/
def compareWhole (n : Int) (x : Float) : Option Ordering :=
  match Decimal.Reading.ofFloat x with
  | .undefined => none
  | .infinite negative => some (if negative then .gt else .lt)
  | .finite value =>
    let (numerator, denominator) := value.quotient
    let scaled : Int := if value.negative then -(numerator : Int) else numerator
    some (compare (n * denominator) scaled)

/-- The order of two numbers; an undefined number has none. -/
def compare? : Amount → Amount → Option Ordering
  | .whole m, .whole n => some (compare m n)
  | .whole n, .real x => compareWhole n x
  | .real x, .whole n => (compareWhole n x).map Ordering.swap
  | .real x, .real y =>
    if x < y then some .lt else if y < x then some .gt else if x == y then some .eq else none

/-- Whether the first number is at most the second. -/
def atMost (a b : Amount) : Bool := compare? a b == some .lt || compare? a b == some .eq

/-- Whether the first number is below the second. -/
def below (a b : Amount) : Bool := compare? a b == some .lt

end Amount

mutual

/-- Equality of values: numbers by size, objects regardless of the order of their entries. -/
def same : Json → Json → Bool
  | .null, .null => true
  | .str a, .str b => a == b
  | .arr xs, .arr ys => sameItems xs ys
  | .obj xs, .obj ys => xs.length == ys.length && sameEntries xs ys
  | a, b =>
    match a.amount?, b.amount? with
    | some m, some n => Amount.compare? m n == some .eq
    | _, _ => false

def sameItems : List Json → List Json → Bool
  | [], [] => true
  | x :: xs, y :: ys => same x y && sameItems xs ys
  | _, _ => false

def sameEntries : List (String × Json) → List (String × Json) → Bool
  | [], _ => true
  | (key, value) :: rest, ys =>
    (match ys.lookup key with
      | some other => same value other
      | none => false) && sameEntries rest ys

end

mutual

/-- Whether one value is below another; values of unlike kinds, truth values and numbers apart,
have no order, and neither have objects and nulls. -/
def less (operator : String) : Json → Json → Except Fault Bool
  | .str a, .str b => .ok (decide (a < b))
  | .arr xs, .arr ys => lessItems operator xs ys
  | a, b =>
    match a.amount?, b.amount? with
    | some m, some n => .ok (Amount.below m n)
    | _, _ => .error (.unordered operator a.kindName b.kindName)

def lessItems (operator : String) : List Json → List Json → Except Fault Bool
  | [], [] => .ok false
  | [], _ :: _ => .ok true
  | _ :: _, [] => .ok false
  | x :: xs, y :: ys => if same x y then lessItems operator xs ys else less operator x y

end

/-- Whether a value is a number at most a bound; only numbers can be compared with it. -/
def atMost (value : Json) (bound : Amount) : Except Fault Bool :=
  match value.amount? with
  | some number => .ok (Amount.atMost number bound)
  | none =>
    let boundKind := match bound with
      | .whole _ => "int"
      | .real _ => "float"
    .error (.unordered "<=" value.kindName boundKind)

end Storefront.Json
