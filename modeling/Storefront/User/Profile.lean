import Storefront.Collaborators
import Storefront.Json.Number
import Storefront.User.Pooling
/-!
# User profiles

A user's style vector blends what the user has stated with what the user has done. It is computed
anew on every request and kept. A session's vector comes from the events of the session alone and
is never kept.
-/

namespace Storefront.Profile

variable {σ : Type}

/-- What profiles are computed with. -/
structure Config where
  /-- The number of entries of style vectors. -/
  dim : Nat
  now : Moment

/-- How many recent events a profile looks at. -/
def eventLimit : Int := 100

/-- How many events of a session count. -/
def sessionLimit : Int := 30

/-- The share of the behaviour in a profile, and of the session in a request. -/
def blendShare : Float := 0.7

/-- The number of entries of fit vectors. -/
def fitDim : Int := 16

/-- The size that a measurement is compared with. -/
def measurementScale : Float := 200.0

/-- A number moved into the range from zero to one; an undefined number stays. -/
def clamp (x : Float) : Float :=
  let raised := if x < 0.0 then 0.0 else x
  if 1.0 < raised then 1.0 else raised

/-- A measurement as a share of a scale; a value that is no number counts as absent. -/
def measurementShare (scale : Float) (hasRoom : Bool) (value : Json) : Except Fault Float :=
  match value.toFloat with
  | .ok size =>
    if scale == 0.0 then .error .dividedByZero
    else if hasRoom then .ok (clamp (size / scale))
    else .error .outsideVector
  | .error .beyondFloats => .error .beyondFloats
  | .error _ => .ok 0.0

/-- The shares of several measurements. -/
def measurementShares (scale : Float) (hasRoom : Bool) : List Json → Except Fault (List Float)
  | [] => .ok []
  | value :: rest => do
    let share ← measurementShare scale hasRoom value
    let others ← measurementShares scale hasRoom rest
    pure (share :: others)

/-- A set of measurements as a vector with a set number of entries. A negative number leaves off
measurements from the end but makes a vector without room for the others. -/
def fitVector (measurements : List Json) (dim : Int) (scale : Float) : Except Fault (List Float) :=
  (measurementShares scale (decide (0 ≤ dim)) (Sequence.cut dim measurements)).map fun shares =>
    (shares ++ List.replicate (dim.toNat - shares.length) 0.0).take dim.toNat

/-- The fit vector of stated measurements, which are floats already. -/
def statedFit (preferences : Preferences) : Option (List Float) :=
  if preferences.measurements.isEmpty then none
  else
    let shares := (Sequence.cut fitDim preferences.measurements).map fun entry =>
      clamp (entry.2 / measurementScale)
    some (shares ++ List.replicate (fitDim.toNat - shares.length) 0.0)

/-- The most recent events of a user, or none if the log cannot answer. -/
def recentEvents (world : Collaborators σ) (userId : String) (limit : Int) : StateM σ (List Event) :=
  (world.recentEvents userId limit none).orElse []

/-- Look up items by keys; keys that fail or find nothing are left out. -/
def loadItems (world : Collaborators σ) : List Key → StateM σ (List (Slot × Item))
  | [] => pure []
  | key :: rest => do
    let found ← (world.findItem key).orElse none
    let others ← loadItems world rest
    pure ((found.toList.map (key.slot, ·)) ++ others)

/-- The direction of some events, with the styles of their items looked up. -/
def ofEvents (world : Collaborators σ) (config : Config) (now : Moment) (events : List Event) :
    Call σ (Option (List Float)) := do
  if events.isEmpty then pure none
  else
    Call.ofExcept (Pooling.checkReferences (Pooling.references events))
    let items ← Call.ofState (loadItems world (Pooling.itemKeys events))
    let styles : Pooling.Styles Float := fun slot => (items.lookup slot).bind (·.styleVector?)
    Call.ofExcept (Pooling.direction styles config.dim now events)

/-- The embedded text of stated preferences, if there is a text and a service that embeds it. -/
def statedStyle (world : Collaborators σ) (preferences : Preferences) :
    StateM σ (Option (List Float)) :=
  match preferences.text?, world.embed with
  | some text, some embed => (embed text).orElse none
  | _, _ => pure none

/-- A user's stated preferences, or none if they cannot be loaded. -/
def statedPreferences (world : Collaborators σ) (userId : String) : StateM σ (Option Preferences) :=
  match world.preferences with
  | none => pure none
  | some load => (load userId).orElse none

/-- The record of a computed profile. -/
def toRecord (config : Config) (userId : String) (style fit : Option (List Float))
    (fitPreference : Option String) : ProfileRecord where
  userId := userId
  style := style.getD []
  fit := fit
  scalars := ((fitPreference.filter (! ·.isEmpty)).toList.map fun kind =>
    ("fit_preference", Json.str kind))
  version := ProfileRecord.currentVersion
  lastUpdated := config.now

/-- Keep a profile, if the store can; a profile without a style and without a fit is not kept. -/
def keep (world : Collaborators σ) (config : Config) (userId : String)
    (style fit : Option (List Float)) (fitPreference : Option String) : StateM σ Unit :=
  if style.isNone && fit.isNone then pure ()
  else (world.saveProfile (toRecord config userId style fit fitPreference)).orElse ()

/-- Compute and keep a user's style vector. -/
def computeStyle (world : Collaborators σ) (config : Config) (userId : String) :
    Call σ (Option (List Float)) := do
  let events ← Call.ofState (recentEvents world userId eventLimit)
  let preferences ← Call.ofState (statedPreferences world userId)
  let stated ← Call.ofState <| match preferences with
    | none => pure none
    | some preferences => statedStyle world preferences
  let behaviour ← ofEvents world config config.now events
  let style := Vector.blend blendShare stated behaviour
  Call.ofState (keep world config userId style (preferences.bind statedFit)
    (preferences.bind (·.bodyFit.head?)))
  pure style

/-- The events of a session, most recent first, at most so many. -/
def sessionEvents (events : List Event) (sessionId : String) (limit : Int) : List Event :=
  Sequence.cut limit (events.filter fun event => Json.same event.sessionReference (.str sessionId))

/-- The style vector of a session. -/
def sessionStyle (world : Collaborators σ) (config : Config) (userId sessionId : String)
    (limit : Int) : Call σ (Option (List Float)) := do
  let events ← Call.ofState (recentEvents world userId eventLimit)
  ofEvents world config config.now (sessionEvents events sessionId limit)

/-- The style vector kept of a user, unless there is none or it is empty. -/
def keptStyle (world : Collaborators σ) (userId : String) : Call σ (Option (List Float)) := do
  let kept ← world.loadProfile userId
  pure ((kept.map (·.style)).filter (! ·.isEmpty))

/-- Compute a user's profile again and return what is kept of it. -/
def refresh (world : Collaborators σ) (config : Config) (userId : String) :
    Call σ (Option ProfileRecord) := do
  match ← computeStyle world config userId with
  | none => pure none
  | some _ => world.loadProfile userId

/-- How much is known about the user of a request. -/
inductive Warmth where
  | cold
  | warmSession
  | hot
  deriving DecidableEq, Repr

namespace Warmth

/-- The name of a level in responses. -/
def name : Warmth → String
  | .cold => "cold"
  | .warmSession => "warm_session"
  | .hot => "hot"

/-- The level of a request with these vectors. -/
def ofVectors (profile session : Option (List Float)) : Warmth :=
  if profile.isSome then .hot else if session.isSome then .warmSession else .cold

end Warmth

end Storefront.Profile
