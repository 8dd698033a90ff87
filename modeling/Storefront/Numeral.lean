import Storefront.Text.Blank
import Storefront.Text.Digit
import Storefront.Decimal.Binary
/-!
# Numbers read from text

Two readers of numbers. *Free* text takes digits of every script and single underscores between
digits, inside white space. A *field* of a record takes plain digits, with its own rules on underscores.
Both share one grammar of signed decimals with an optional exponent, and the names of infinity
and of the undefined number.
-/

namespace Storefront.Numeral

open Storefront.Text

/-- The leading plain digits of a text and the rest. -/
def takeDigits (cs : List Char) : List Nat × List Char :=
  ((cs.takeWhile (plainDigit? · |>.isSome)).filterMap plainDigit?,
    cs.dropWhile (plainDigit? · |>.isSome))

/-- The number written by some digits. -/
def valueOf (digits : List Nat) : Nat := digits.foldl (fun value digit => 10 * value + digit) 0

/-- An optional sign and the rest; `true` is a minus. -/
def takeSign : List Char → Bool × List Char
  | '-' :: rest => (true, rest)
  | '+' :: rest => (false, rest)
  | rest => (false, rest)

/-- The float nearest to `mantissa * 10 ^ exponent`. Exponents far beyond the range of floats are
answered without computing the power. -/
def scaled (mantissa : Nat) (exponent : Int) : Float :=
  let size : Int := (toString mantissa).length
  if mantissa = 0 then 0.0
  else if 400 < size + exponent then 1.0 / 0.0
  else if size + exponent < -400 then 0.0
  else Float.ofScientific mantissa (exponent < 0) exponent.natAbs

/-- An exponent mark with its digits, or nothing; an unfinished exponent is no number. -/
def takeExponent : List Char → Option (Int × List Char)
  | [] => some (0, [])
  | mark :: rest =>
    if mark = 'e' || mark = 'E' then
      let (negative, body) := takeSign rest
      match takeDigits body with
      | ([], _) => none
      | (digits, after) =>
        let size : Int := valueOf digits
        some (if negative then -size else size, after)
    else
      some (0, mark :: rest)

/-- A signless decimal that takes up the whole text. -/
def magnitude? (cs : List Char) : Option Float :=
  let (whole, afterWhole) := takeDigits cs
  let (places, afterPlaces) :=
    match afterWhole with
    | '.' :: rest => takeDigits rest
    | rest => ([], rest)
  if whole.isEmpty && places.isEmpty then none
  else
    match takeExponent afterPlaces with
    | some (exponent, []) => some (scaled (valueOf (whole ++ places)) (exponent - places.length))
    | _ => none

/-- The names of numbers that digits cannot write. -/
def named? (cs : List Char) : Option Float :=
  match String.ofList (cs.map Char.toLower) with
  | "inf" | "infinity" => some (1.0 / 0.0)
  | "nan" => some (0.0 / 0.0)
  | _ => none

/-- A signed decimal, or a named number, that takes up the whole text. -/
def decimal? (cs : List Char) : Option Float :=
  let (negative, body) := takeSign cs
  let size? := (magnitude? body).orElse fun _ => named? body
  size?.map fun size => if negative then -size else size

/-- A digit of any script as a plain digit; other characters stay. -/
def plain (c : Char) : Char :=
  match digitValue? c with
  | some value => Char.ofNat ('0'.toNat + value)
  | none => c

/-- The text without underscores, if every underscore stands between two plain digits. -/
def joinGroups? (afterDigit : Bool) : List Char → Option (List Char)
  | [] => some []
  | '_' :: rest =>
    match rest with
    | c :: _ => if afterDigit && c.isDigit then joinGroups? false rest else none
    | [] => none
  | c :: rest => (joinGroups? c.isDigit rest).map (c :: ·)

/-- Free text as a float. -/
def freeFloat? (text : String) : Option Float :=
  (joinGroups? false ((trimBy isSpace text.toList).map plain)).bind decimal?

/-- Plain digits, at least one, as a number. -/
def digits? (cs : List Char) : Option Nat :=
  match takeDigits cs with
  | ([], _) => none
  | (digits, []) => some (valueOf digits)
  | _ => none

/-- A signed whole number that takes up the whole text. -/
def integer? (cs : List Char) : Option Int :=
  let (negative, body) := takeSign cs
  (digits? body).map fun size => if negative then -(size : Int) else size

/-- Free text as a whole number. -/
def freeInt? (text : String) : Option Int :=
  (joinGroups? false ((trimBy isSpace text.toList).map plain)).bind integer?

/-- Whether a text has an underscore at an end, or two in a row. -/
def hasLooseUnderscore : List Char → Bool
  | [] => false
  | ['_'] => true
  | '_' :: '_' :: _ => true
  | _ :: rest => hasLooseUnderscore rest

/-- The text without its underscores, if none is loose. -/
def withoutUnderscores? (cs : List Char) : Option (List Char) :=
  if cs.head? = some '_' || hasLooseUnderscore cs then none else some (cs.filter (· != '_'))

/-- A field's text as a float. Underscores are tried only when the trimmed text is no number, and
then on the untrimmed text. -/
def fieldFloat? (text : String) : Option Float :=
  (decimal? (trimBy isSpace text.toList)).orElse fun _ =>
    (withoutUnderscores? text.toList).bind decimal?

/-- A field's text as a whole number: a fraction is allowed if it consists of zeros. -/
def fieldInt? (text : String) : Option Int :=
  let cs := trimBy isSpace text.toList
  let (negative, body) := takeSign cs
  let whole := body.takeWhile (· != '.')
  let fraction := (body.dropWhile (· != '.')).drop 1
  if fraction.all (· == '0') then
    ((withoutUnderscores? whole).bind digits?).map fun size =>
      if negative then -(size : Int) else size
  else
    none

end Storefront.Numeral
