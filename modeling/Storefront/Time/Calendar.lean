/-!
# The calendar

Days of the Gregorian calendar, extended to the years 1 to 9999, numbered from the first of
January of year 1, which is day 0.
-/

namespace Storefront.Calendar

/-- A calendar date. -/
structure Date where
  year : Nat
  month : Nat
  day : Nat
  deriving DecidableEq, Repr

/-- Whether a year has a twenty-ninth of February. -/
def isLeap (year : Nat) : Bool := year % 4 = 0 && (year % 100 != 0 || year % 400 = 0)

/-- The number of days of a month. -/
def monthLength (year month : Nat) : Nat :=
  if month = 2 then (if isLeap year then 29 else 28)
  else if month = 4 || month = 6 || month = 9 || month = 11 then 30
  else 31

/-- The number of days before the first of January of a year. -/
def daysBeforeYear (year : Nat) : Nat :=
  let past := year - 1
  past * 365 + past / 4 - past / 100 + past / 400

/-- The number of days of a year before the first of a month. -/
def daysBeforeMonth (year month : Nat) : Nat :=
  (List.range (month - 1)).foldl (fun days earlier => days + monthLength year (earlier + 1)) 0

/-- Whether the date exists in the years 1 to 9999. -/
def Date.isValid (date : Date) : Bool :=
  1 ≤ date.year && date.year ≤ 9999 && 1 ≤ date.month && date.month ≤ 12 &&
    1 ≤ date.day && date.day ≤ monthLength date.year date.month

/-- The number of a date's day. -/
def Date.toDays (date : Date) : Nat :=
  daysBeforeYear date.year + daysBeforeMonth date.year date.month + (date.day - 1)

/-- Find the month of a day of a year, counting months from `month`. -/
def monthOf (year dayOfYear : Nat) : Nat → Nat → Nat × Nat
  | 0, month => (month, dayOfYear)
  | remaining + 1, month =>
    let length := monthLength year month
    if dayOfYear < length then (month, dayOfYear)
    else monthOf year (dayOfYear - length) remaining (month + 1)

/-- The date of a day. -/
def Date.ofDays (days : Nat) : Date :=
  let era := days / 146097
  let inEra := days % 146097
  let century := min (inEra / 36524) 3
  let inCentury := inEra - century * 36524
  let cycle := inCentury / 1461
  let inCycle := inCentury % 1461
  let yearOfCycle := min (inCycle / 365) 3
  let dayOfYear := inCycle - yearOfCycle * 365
  let year := era * 400 + century * 100 + cycle * 4 + yearOfCycle + 1
  let (month, day) := monthOf year dayOfYear 11 1
  ⟨year, month, day + 1⟩

/-- The days of the years 1 to 9999. -/
def dayCount : Nat := daysBeforeYear 10000

end Storefront.Calendar
