import Storefront.Time.Moment
import Storefront.Text.Digit
import Storefront.Numeral
import Storefront.Decimal.Fixed
/-!
# Moments as text

Writing is unique: seconds are always there, microseconds only when they are not zero and then
with six digits. Reading also takes a blank in place of the `T`, moments without seconds, shorter
and longer fractions, bare dates, and counts of seconds or milliseconds since 1970.
-/

namespace Storefront.Moment

open Storefront.Calendar Storefront.Text

/-- How an offset of zero is written. -/
inductive UtcMark where
  | letter
  | digits

/-- An offset as text. -/
def offsetText (mark : UtcMark) (offset : Int) : String :=
  match mark, offset with
  | .letter, 0 => "Z"
  | _, _ =>
    let minutes := offset.natAbs / 60
    (if offset < 0 then "-" else "+") ++ Decimal.paddedDigits 2 (minutes / 60) ++ ":" ++
      Decimal.paddedDigits 2 (minutes % 60)

/-- A moment as text. -/
def toText (mark : UtcMark) (moment : Moment) : String :=
  let micros := (moment.wall % perSecond).toNat
  let seconds := (moment.wall / perSecond).toNat
  let date := Date.ofDays (seconds / 86400)
  let clock := seconds % 86400
  let two := Decimal.paddedDigits 2
  Decimal.paddedDigits 4 date.year ++ "-" ++ two date.month ++ "-" ++ two date.day ++ "T" ++
    two (clock / 3600) ++ ":" ++ two (clock / 60 % 60) ++ ":" ++ two (clock % 60) ++
    (if micros = 0 then "" else "." ++ Decimal.paddedDigits 6 micros) ++
    (moment.offset.map (offsetText mark)).getD ""

/-- Text with `Z` for UTC, as records hold it. -/
def toRecordText (moment : Moment) : String := moment.toText .letter

/-- Text with `+00:00` for UTC, as queries hold it. -/
def toQueryText (moment : Moment) : String := moment.toText .digits

/-- A fixed number of plain digits and the rest. -/
def takeNumber? (width : Nat) (cs : List Char) : Option (Nat × List Char) :=
  let digits := (cs.take width).filterMap plainDigit?
  if digits.length = width then some (Numeral.valueOf digits, cs.drop width) else none

/-- A required character. -/
def dropChar? (expected : Char) : List Char → Option (List Char)
  | c :: rest => if c = expected then some rest else none
  | [] => none

/-- `YYYY-MM-DD` and the rest. -/
def takeDate? (cs : List Char) : Option (Date × List Char) := do
  let (year, cs) ← takeNumber? 4 cs
  let cs ← dropChar? '-' cs
  let (month, cs) ← takeNumber? 2 cs
  let cs ← dropChar? '-' cs
  let (day, cs) ← takeNumber? 2 cs
  let date : Date := ⟨year, month, day⟩
  if date.isValid then pure (date, cs) else none

/-- Microseconds from the digits of a fraction; digits after the sixth are dropped. -/
def fractionMicros (digits : List Nat) : Nat :=
  Numeral.valueOf ((digits ++ List.replicate 6 0).take 6)

/-- An optional fraction of a second and the rest. -/
def takeFraction? : List Char → Option (Nat × List Char)
  | mark :: rest =>
    if mark = '.' || mark = ',' then
      match Numeral.takeDigits rest with
      | ([], _) => none
      | (digits, after) => some (fractionMicros digits, after)
    else some (0, mark :: rest)
  | [] => some (0, [])

/-- Optional seconds with their fraction, as seconds and microseconds, and the rest. -/
def takeSeconds? : List Char → Option (Nat × Nat × List Char)
  | ':' :: rest => do
    let (second, rest) ← takeNumber? 2 rest
    let (micros, rest) ← takeFraction? rest
    if second < 60 then pure (second, micros, rest) else none
  | rest => some (0, 0, rest)

/-- An offset that takes up the rest of the text: nothing, `Z`, or hours and minutes. -/
def offset? : List Char → Option (Option Int)
  | [] => some none
  | ['Z'] => some (some 0)
  | ['z'] => some (some 0)
  | sign :: rest => do
    let negative ← if sign = '+' then some false
      else if sign = '-' || sign = '−' then some true else none
    let (hours, rest) ← takeNumber? 2 rest
    let (minutes, rest) ← takeNumber? 2 ((dropChar? ':' rest).getD rest)
    let seconds : Int := (hours * 60 + minutes) * 60
    if rest.isEmpty && minutes < 60 && hours < 24 then
      pure (some (if negative then -seconds else seconds))
    else none

/-- A date with a time of day. -/
def ofClockText? (cs : List Char) : Option Moment := do
  let (date, rest) ← takeDate? cs
  match rest with
  | [] => none
  | mark :: rest =>
    if mark = 'T' || mark = 't' || mark = ' ' || mark = '_' then
      let (hour, rest) ← takeNumber? 2 rest
      let rest ← dropChar? ':' rest
      let (minute, rest) ← takeNumber? 2 rest
      let (second, micros, rest) ← takeSeconds? rest
      let offset ← offset? rest
      if hour < 24 ∧ minute < 60 then pure (ofParts date hour minute second micros offset) else none
    else none

/-- A bare date, as its midnight. -/
def ofDateText? (cs : List Char) : Option Moment :=
  match takeDate? cs with
  | some (date, []) => some (ofParts date 0 0 0 0 none)
  | _ => none

/-- A date with or without a time of day. -/
def ofText? (text : String) : Option Moment :=
  (ofClockText? text.toList).orElse fun _ => ofDateText? text.toList

/-- Counts above this size are milliseconds. -/
def millisecondsFrom : Int := 20000000000

/-- The first and the last second since 1970 that a count may stand for: the years 1600 to 9999. -/
def countBounds : Int × Int := (-11676096000, 253402300799)

/-- A count of seconds, or of milliseconds when it is large, and some microseconds more. Whole
seconds of the microseconds count for the bounds. -/
def ofCount? (count : Int) (micros : Int) : Option Moment :=
  let (seconds, micros) :=
    if count.natAbs ≤ millisecondsFrom.natAbs then (count, micros)
    else (count / 1000, count % 1000 * 1000 + micros)
  let second := seconds + micros / perSecond
  if countBounds.1 ≤ second ∧ second ≤ countBounds.2 then
    some (ofEpochMicros (seconds * perSecond + micros))
  else none

/-- A count with a fraction: its whole part from below, and the digits of the fraction as
microseconds, rounded to the nearest. -/
def ofFraction? (count : Float) : Option Moment :=
  match Decimal.Reading.ofFloat count with
  | .finite value =>
    let (numerator, denominator) := value.quotient
    let whole : Int := numerator / denominator
    let rest := numerator % denominator
    let micros : Int := (2 * rest * 1000000 + denominator) / (2 * denominator)
    let floor := if !value.negative then whole else if rest = 0 then -whole else -whole - 1
    ofCount? floor micros
  | _ => none

/-- A count with a fraction, written in digits with an optional sign and a point. -/
def ofPointText? (text : String) : Option Moment := do
  let (negative, body) := Numeral.takeSign text.toList
  let (whole, rest) := Numeral.takeDigits body
  let rest ← dropChar? '.' rest
  let (places, after) := Numeral.takeDigits rest
  let size := Numeral.scaled (Numeral.valueOf (whole ++ places)) (-(places.length : Int))
  if whole.isEmpty || !after.isEmpty then none
  else ofFraction? (if negative then -size else size)

/-- A moment as a record's text field holds it: a date, a date with a time, or a count. -/
def ofFieldText? (text : String) : Option Moment :=
  (ofText? text).orElse fun _ =>
    match Numeral.integer? text.toList with
    | some count => ofCount? count 0
    | none => ofPointText? text

end Storefront.Moment
