import Storefront.Event.Basic
import Storefront.Fault
import Storefront.Scalar
import Storefront.Sequence
/-!
# Offline evaluation

How many of the recorded clicks and conversions fall on the first `k` recommendations, as a share
of all clicks and of all conversions, and how varied these recommendations are.
-/

namespace Storefront.Evaluation

/-- What an evaluation looks at in a recommendation. -/
structure Recommendation where
  id : String
  vendor : String
  kind : String
  deriving DecidableEq

/-- The outcome of an evaluation. -/
structure Metrics (R : Type) where
  clickRate : R
  conversionRate : R
  uniqueVendors : Nat
  uniqueKinds : Nat

/-- The metrics as a row. -/
def Metrics.toRow (metrics : Metrics Float) : Row :=
  [("ctr_at_k", .float metrics.clickRate), ("conversion_at_k", .float metrics.conversionRate),
    ("diversity", .obj
      [("unique_vendors", .int metrics.uniqueVendors),
        ("unique_categories", .int metrics.uniqueKinds)])]

/-- A share of a total; of nothing the share is zero. -/
def ratio {R : Type} [Scalar R] (part total : Nat) : R :=
  if total = 0 then Scalar.zero else Scalar.ofInt part / Scalar.ofInt total

/-- Whether an event's item is among some ids. A list or an object is no id and cannot be looked
up. -/
def isHit (ids : List String) (event : Event) : Except Fault Bool :=
  match event.itemReference.given? with
  | none => .ok false
  | some (.str id) => .ok (ids.contains id)
  | some (.arr items) => .error (.unhashable (Json.arr items).kindName)
  | some (.obj entries) => .error (.unhashable (Json.obj entries).kindName)
  | some _ => .ok false

/-- How many events fall on some ids. -/
def hits (ids : List String) : List Event → Except Fault Nat
  | [] => .ok 0
  | event :: rest => do
    let hit ← isHit ids event
    let others ← hits ids rest
    pure (if hit then others + 1 else others)

/-- The share of some events that falls on some ids. -/
def hitRate {R : Type} [Scalar R] (ids : List String) (events : List Event) : Except Fault R :=
  (hits ids events).map fun found => ratio found events.length

/-- Evaluate the first `k` recommendations. -/
def compute {R : Type} [Scalar R] (recommendations : List Recommendation) (events : List Event)
    (k : Int) : Except Fault (Metrics R) := do
  let top := recommendations.take k.toNat
  let ids := top.map (·.id)
  let clickRate ← hitRate ids (events.filter fun event => event.type = .clickItem)
  let conversionRate ← hitRate ids (events.filter fun event => event.type.isConversion)
  pure {
    clickRate
    conversionRate
    uniqueVendors := Sequence.distinctCount (top.map (·.vendor))
    uniqueKinds := Sequence.distinctCount (top.map (·.kind)) }

/-- Evaluate all recommendations. -/
def computeAll {R : Type} [Scalar R] (recommendations : List Recommendation)
    (events : List Event) : Except Fault (Metrics R) :=
  compute recommendations events recommendations.length

end Storefront.Evaluation
