import Storefront.Collaborators
import Storefront.Event.Counter
/-!
# Recording events

An event is counted and then appended to the log. Every hundredth event is worth a line about the
counts so far.
-/

namespace Storefront.Ingestion

variable {σ : Type}

/-- How many events lie between two lines about the counts. -/
def reportInterval : Nat := 100

/-- A state with the counts of the events that came in. -/
structure Counted (σ : Type) where
  counter : EventCounter
  rest : σ

/-- The line that is due after an event, if one is. -/
def reportDue (counter : EventCounter) : Option EventCounter :=
  if counter.total % reportInterval = 0 then some counter else none

/-- Count an event and append it to the log; the count stands even if the log cannot take it. -/
def record (append : Event → Call σ Unit) (event : Event) : Call (Counted σ) Event :=
  Call.ofOutcome fun state =>
    let (appended, rest) := (append event).outcome state.rest
    (appended.map fun _ => event, ⟨state.counter.increment event.type.name, rest⟩)

end Storefront.Ingestion
