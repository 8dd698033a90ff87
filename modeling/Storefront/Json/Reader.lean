import Storefront.Json.Basic
import Storefront.Numeral
/-!
# Reading JSON text

A whole text is read as one value. Besides the standard grammar, `NaN`, `Infinity` and
`-Infinity` are numbers. A number is a float exactly when its text has a point or an exponent; a
whole number of too many digits is refused. Of a repeated key the last value counts. Unpaired
surrogates in escapes become the replacement character. Lists and objects are read however deep they
are nested: that an interpreter gives up at a depth which its stack leaves room for is not modelled.
-/

namespace Storefront.Json

/-- Drop the blanks that may stand between tokens. -/
def skipBlanks : List Char → List Char :=
  List.dropWhile fun c => c = ' ' || c = '\t' || c = '\n' || c = '\r'

/-- Drop a fixed text from the front. -/
def dropText? : List Char → List Char → Option (List Char)
  | [], rest => some rest
  | c :: expected, d :: rest => if c = d then dropText? expected rest else none
  | _ :: _, [] => none

/-- The value of a hexadecimal digit. -/
def hexDigit? (c : Char) : Option Nat :=
  if '0' ≤ c ∧ c ≤ '9' then some (c.toNat - '0'.toNat)
  else if 'a' ≤ c ∧ c ≤ 'f' then some (c.toNat - 'a'.toNat + 10)
  else if 'A' ≤ c ∧ c ≤ 'F' then some (c.toNat - 'A'.toNat + 10)
  else none

/-- Four hexadecimal digits and the rest. -/
def takeUnit? : List Char → Option (Nat × List Char)
  | a :: b :: c :: d :: rest => do
    let a ← hexDigit? a
    let b ← hexDigit? b
    let c ← hexDigit? c
    let d ← hexDigit? d
    pure (((a * 16 + b) * 16 + c) * 16 + d, rest)
  | _ => none

/-- The character of one or two 16-bit units, and the rest after them. -/
def joinUnits (unit : Nat) (rest : List Char) : Char × List Char :=
  if 0xD800 ≤ unit ∧ unit < 0xDC00 then
    match rest with
    | '\\' :: 'u' :: after =>
      match takeUnit? after with
      | some (second, afterSecond) =>
        if 0xDC00 ≤ second ∧ second < 0xE000 then
          (Char.ofNat (0x10000 + (unit - 0xD800) * 0x400 + (second - 0xDC00)), afterSecond)
        else ('\uFFFD', rest)
      | none => ('\uFFFD', rest)
    | _ => ('\uFFFD', rest)
  else if 0xDC00 ≤ unit ∧ unit < 0xE000 then ('\uFFFD', rest)
  else (Char.ofNat unit, rest)

/-- The character an escape letter stands for. -/
def unescape? : Char → Option Char
  | '"' => some '"'
  | '\\' => some '\\'
  | '/' => some '/'
  | 'b' => some '\x08'
  | 'f' => some '\x0c'
  | 'n' => some '\n'
  | 'r' => some '\r'
  | 't' => some '\t'
  | _ => none

/-- The rest of a text after its opening quote, with the characters read so far in reverse. -/
def takeText? : Nat → List Char → List Char → Option (String × List Char)
  | 0, _, _ => none
  | fuel + 1, read, cs =>
    match cs with
    | [] => none
    | '"' :: rest => some (String.ofList read.reverse, rest)
    | '\\' :: 'u' :: rest => do
      let (unit, after) ← takeUnit? rest
      let (c, after) := joinUnits unit after
      takeText? fuel (c :: read) after
    | '\\' :: letter :: rest => do
      let c ← unescape? letter
      takeText? fuel (c :: read) rest
    | c :: rest => if c.toNat < 0x20 then none else takeText? fuel (c :: read) rest

/-- The most digits that a whole number may have. -/
def maxDigits : Nat := 4300

/-- A number and the rest. -/
def takeNumber? (cs : List Char) : Option (Json × List Char) :=
  let (negative, body) :=
    match cs with
    | '-' :: rest => (true, rest)
    | rest => (false, rest)
  let (whole, afterWhole) := Numeral.takeDigits body
  let wellFormed := match whole with
    | [] => false
    | [_] => true
    | first :: _ => first != 0
  if !wellFormed then none
  else
    let (places, afterPlaces) :=
      match afterWhole with
      | '.' :: rest =>
        match Numeral.takeDigits rest with
        | ([], _) => ([], afterWhole)
        | found => found
      | rest => ([], rest)
    let (exponent, rest) :=
      match afterPlaces with
      | mark :: rest =>
        if mark = 'e' || mark = 'E' then
          let (down, digits) := Numeral.takeSign rest
          match Numeral.takeDigits digits with
          | ([], _) => (none, afterPlaces)
          | (digits, after) =>
            let size : Int := Numeral.valueOf digits
            (some (if down then -size else size), after)
        else (none, afterPlaces)
      | [] => (none, [])
    if places.isEmpty && exponent.isNone then
      let size : Int := Numeral.valueOf whole
      if maxDigits < whole.length then none
      else some (.int (if negative then -size else size), rest)
    else
      let size :=
        Numeral.scaled (Numeral.valueOf (whole ++ places)) (exponent.getD 0 - places.length)
      some (.float (if negative then -size else size), rest)

mutual

/-- A value and the rest; blanks before it are already gone. -/
def takeValue? : Nat → List Char → Option (Json × List Char)
  | 0, _ => none
  | fuel + 1, cs =>
    match cs with
    | [] => none
    | '"' :: rest => (takeText? (fuel + 1) [] rest).map fun (text, rest) => (.str text, rest)
    | '{' :: rest =>
      match skipBlanks rest with
      | '}' :: after => some (.obj [], after)
      | inner => (takeEntries? fuel [] inner).map fun (entries, rest) => (.obj entries, rest)
    | '[' :: rest =>
      match skipBlanks rest with
      | ']' :: after => some (.arr [], after)
      | inner => (takeItems? fuel [] inner).map fun (items, rest) => (.arr items, rest)
    | 'n' :: rest => (dropText? "ull".toList rest).map (.null, ·)
    | 't' :: rest => (dropText? "rue".toList rest).map (.bool true, ·)
    | 'f' :: rest => (dropText? "alse".toList rest).map (.bool false, ·)
    | 'N' :: rest => (dropText? "aN".toList rest).map (.float (0.0 / 0.0), ·)
    | 'I' :: rest => (dropText? "nfinity".toList rest).map (.float (1.0 / 0.0), ·)
    | '-' :: 'I' :: rest => (dropText? "nfinity".toList rest).map (.float (-(1.0 / 0.0)), ·)
    | _ => takeNumber? cs

/-- The items of a list up to its closing bracket, with those read so far in reverse. -/
def takeItems? : Nat → List Json → List Char → Option (List Json × List Char)
  | 0, _, _ => none
  | fuel + 1, read, cs => do
    let (item, rest) ← takeValue? fuel cs
    match skipBlanks rest with
    | ']' :: after => pure ((item :: read).reverse, after)
    | ',' :: after => takeItems? fuel (item :: read) (skipBlanks after)
    | _ => none

/-- The entries of an object up to its closing brace, with those read so far in reverse. -/
def takeEntries? : Nat → List (String × Json) → List Char → Option (Row × List Char)
  | 0, _, _ => none
  | fuel + 1, read, cs =>
    match cs with
    | '"' :: rest => do
      let (key, rest) ← takeText? (fuel + 1) [] rest
      match skipBlanks rest with
      | ':' :: after =>
        let (value, rest) ← takeValue? fuel (skipBlanks after)
        match skipBlanks rest with
        | '}' :: after => pure (Row.ofEntries ((key, value) :: read).reverse, after)
        | ',' :: after => takeEntries? fuel ((key, value) :: read) (skipBlanks after)
        | _ => none
      | _ => none
    | _ => none

end

/-- A whole text as one value, or nothing if it is no JSON. -/
def parse? (text : String) : Option Json :=
  let cs := skipBlanks text.toList
  match takeValue? (cs.length + 1) cs with
  | some (value, rest) => if (skipBlanks rest).isEmpty then some value else none
  | none => none

end Storefront.Json
