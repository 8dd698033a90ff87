import Storefront.Json.Basic
/-!
# Counting events

How many events of every type have come in. Types are listed in the order of their first event.
-/

namespace Storefront

/-- The counts of the event types seen so far. -/
structure EventCounter where
  total : Nat
  counts : List (String × Nat)

namespace EventCounter

/-- Nothing counted. -/
def zero : EventCounter := ⟨0, []⟩

/-- One more event of a type in a list of counts. -/
def countIn (type : String) : List (String × Nat) → List (String × Nat)
  | [] => [(type, 1)]
  | (name, count) :: rest =>
    if name = type then (name, count + 1) :: rest else (name, count) :: countIn type rest

/-- Count one event of a type. -/
def increment (counter : EventCounter) (type : String) : EventCounter :=
  ⟨counter.total + 1, countIn type counter.counts⟩

/-- The count of a type. -/
def countOf (counter : EventCounter) (type : String) : Nat := (counter.counts.lookup type).getD 0

/-- The counts as a record. -/
def countsToRow (counter : EventCounter) : Row :=
  counter.counts.map fun (type, count) => (type, .int count)

end EventCounter

end Storefront
