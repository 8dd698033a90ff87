import Storefront.Event.Basic
import Storefront.Sequence
/-!
# The event log

Events in the order in which they were appended. Reading gives the events of one user, the newest
first; events of one moment keep the order in which they were appended.
-/

namespace Storefront

/-- The events that were recorded, the first one first. -/
abbrev EventLog := List Event

namespace EventLog

/-- Append an event. -/
def append (log : EventLog) (event : Event) : EventLog := log ++ [event]

/-- Whether an event happened at a moment or after it. -/
def isSince (since : Moment) (event : Event) : Bool :=
  !(event.timestamp.isBefore since.assumingUtc)

/-- A user's events from a moment on. -/
def ofUser (log : EventLog) (userId : String) (since : Option Moment) : List Event :=
  log.filter fun event => event.userId == userId && since.all fun since => isSince since event

/-- A user's events, the newest first, at most so many. -/
def recent (log : EventLog) (userId : String) (limit : Int) (since : Option Moment) : List Event :=
  Sequence.cut limit
    (Sequence.descending (fun a b => a.timestamp.isBefore b.timestamp) (log.ofUser userId since))

end EventLog

end Storefront
