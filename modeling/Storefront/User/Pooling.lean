import Storefront.Event.Basic
import Storefront.Fault
import Storefront.Vector
/-!
# Pooling events into a vector

Every event weighs in with the style of its item, by its type and its age. The weighted styles are
added up and made one long. Nothing is left when no event contributes; contributions that cancel
leave the zero vector.
-/

namespace Storefront

variable {R : Type} [Analytic R]

/-- The weight of a fresh event. Negative weights push away; types that are not named say nothing
about style. -/
def EventType.baseWeight : EventType → R
  | .purchase => 5.0
  | .addToCart => 3.0
  | .saveItem => 2.0
  | .clickItem => 1.0
  | .viewItem => 0.5
  | .notInterested => -6.0
  | .hideBusiness => -10.0
  | _ => Scalar.zero

namespace Event

/-- How fast weights decay with every day. -/
def decayRate : R := 0.05

/-- The age of an event in days; events of the future are fresh. -/
def ageDays (now : Moment) (event : Event) : R :=
  let micros := now.instant - event.timestamp.instant
  let days : R := Scalar.ofInt micros / Scalar.ofInt Moment.perSecond / Scalar.ofInt 86400
  if Scalar.lt days Scalar.zero then Scalar.zero else days

/-- The weight of an event: the weight of its type, decayed by its age. -/
def weight (now : Moment) (event : Event) : R :=
  let base : R := event.type.baseWeight
  if Scalar.isZero base then Scalar.zero
  else base * Analytic.exp (-ageDays now event * decayRate)

/-- The weight of an event at a moment that must have an offset if it matters. -/
def weightAt (now : Moment) (event : Event) : Except Fault R :=
  if Scalar.isZero (event.type.baseWeight : R) || now.comparable event.timestamp then
    .ok (event.weight now)
  else .error .mixedOffsetsSubtracted

end Event

namespace Pooling

/-- A weighted sum in the making. -/
structure Pool (R : Type) where
  sum : List R
  /-- The sum of the sizes of all weights. -/
  total : R

/-- Nothing pooled yet. -/
def Pool.empty (dim : Nat) : Pool R := ⟨List.replicate dim Scalar.zero, Scalar.zero⟩

/-- Add a style with a weight. -/
def Pool.add (pool : Pool R) (style : List R) (weight : R) : Pool R :=
  ⟨Vector.add pool.sum ((Vector.fit pool.sum.length style).map (· * weight)),
    pool.total + Scalar.magnitude weight⟩

/-- The direction of the sum, if anything was added. -/
def Pool.direction? (pool : Pool R) : Option (List R) :=
  if Scalar.isZero pool.total then none else some (Vector.normalize pool.sum)

/-- Where the styles of items are looked up. -/
abbrev Styles (R : Type) := Slot → Option (List R)

/-- The style of an event's item, if the item has one. -/
def styleOf? (styles : Styles R) (event : Event) : Option (List R) :=
  (event.itemKey?.bind fun key => styles key.slot).filter (! ·.isEmpty)

/-- Add one event to a pool; an event without a style or a weight adds nothing. -/
def addEvent (styles : Styles R) (now : Moment) (pool : Pool R) (event : Event) :
    Except Fault (Pool R) :=
  match styleOf? styles event with
  | none => .ok pool
  | some style =>
    match event.weightAt now with
    | .error fault => .error fault
    | .ok weight => .ok (if Scalar.isZero weight then pool else pool.add style weight)

/-- Add events to a pool, one after the other. -/
def addEvents (styles : Styles R) (now : Moment) (pool : Pool R) : List Event → Except Fault (Pool R)
  | [] => .ok pool
  | event :: rest =>
    match addEvent styles now pool event with
    | .error fault => .error fault
    | .ok pool => addEvents styles now pool rest

/-- The direction of some events. -/
def direction (styles : Styles R) (dim : Nat) (now : Moment) (events : List Event) :
    Except Fault (Option (List R)) :=
  (addEvents styles now (Pool.empty dim) events).map Pool.direction?

/-- What can be looked up among some values: the first list or object is a fault. -/
def checkReferences : List Json → Except Fault Unit
  | [] => .ok ()
  | .arr items :: _ => .error (.unhashable (Json.arr items).kindName)
  | .obj entries :: _ => .error (.unhashable (Json.obj entries).kindName)
  | _ :: rest => checkReferences rest

/-- What some events refer to as their items, as far as it counts as given. -/
def references (events : List Event) : List Json := events.filterMap (·.itemReference.given?)

/-- The different keys that some events name their items by, in the order of first occurrence. -/
def itemKeys (events : List Event) : List Key :=
  Sequence.firstsBy Key.slot (events.filterMap (·.itemKey?))

end Pooling

end Storefront
