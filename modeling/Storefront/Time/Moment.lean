import Storefront.Time.Calendar
/-!
# Moments

A moment is a reading of a wall clock to the microsecond, with or without its distance from UTC.
Two moments compare by what they mean in UTC when both have an offset, by their wall clocks when
neither has, and not at all otherwise.
-/

namespace Storefront

/-- A wall-clock reading, in microseconds from the start of year 1, and the clock's offset in
seconds east of UTC, if it is known. -/
structure Moment where
  wall : Int
  offset : Option Int
  deriving DecidableEq, Repr, Inhabited

namespace Moment

/-- Microseconds of a second. -/
def perSecond : Int := 1000000

/-- Microseconds of a day. -/
def perDay : Int := 86400 * perSecond

/-- The first microsecond after the last representable wall clock. -/
def wallEnd : Int := Calendar.dayCount * perDay

/-- Microseconds from the start of year 1 in UTC; a clock without an offset is read as UTC. -/
def instant (moment : Moment) : Int := moment.wall - moment.offset.getD 0 * perSecond

/-- The same wall clock, in UTC if it had no offset. -/
def assumingUtc (moment : Moment) : Moment := ⟨moment.wall, some (moment.offset.getD 0)⟩

/-- The same instant on a clock in UTC. -/
def toUtc (moment : Moment) : Moment := ⟨moment.instant, some 0⟩

/-- Whether two moments can be compared. -/
def comparable (first second : Moment) : Bool := first.offset.isSome == second.offset.isSome

/-- The first moment is strictly earlier; only meaningful between comparable moments. -/
def isBefore (first second : Moment) : Bool := decide (first.instant < second.instant)

/-- The wall clock some days earlier, if it is still representable. -/
def minusDays? (moment : Moment) (days : Int) : Option Moment :=
  let wall := moment.wall - days * perDay
  if 0 ≤ wall ∧ wall < wallEnd then some { moment with wall } else none

/-- A wall clock from its parts. -/
def ofParts (date : Calendar.Date) (hour minute second micros : Nat) (offset : Option Int) :
    Moment :=
  let seconds : Int := ((date.toDays * 24 + hour) * 60 + minute) * 60 + second
  ⟨seconds * perSecond + micros, offset⟩

/-- Seconds from the start of year 1 to the start of 1970. -/
def epochSeconds : Int := (Calendar.daysBeforeYear 1970 : Int) * 86400

/-- The moment some microseconds after the start of 1970, in UTC. -/
def ofEpochMicros (micros : Int) : Moment := ⟨epochSeconds * perSecond + micros, some 0⟩

end Moment

end Storefront
