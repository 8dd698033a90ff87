import Storefront.Collaborators
/-!
# Outages

Collaborators that fail on demand. An interrupted collaborator fails without a change of the state
while it is down and behaves as before when it is up; the same stores can be seen from a larger
state.
-/

namespace Storefront

/-- The operations of the collaborators that can fail. -/
inductive Operation where
  | listItems
  | findItem
  | addItem
  | updateItem
  | search
  | logEvent
  | recentEvents
  | preferences
  | saveProfile
  | loadProfile
  | vendor
  deriving DecidableEq, Repr

namespace Operation

/-- The store that an operation belongs to. -/
def store : Operation → String
  | .listItems | .findItem | .addItem | .updateItem => "catalog"
  | .search => "vector_search"
  | .logEvent | .recentEvents => "events"
  | .preferences => "user_profiles"
  | .saveProfile | .loadProfile => "user_embeddings"
  | .vendor => "vendor_trust"

/-- All operations. -/
def all : List Operation :=
  [.listItems, .findItem, .addItem, .updateItem, .search, .logEvent, .recentEvents, .preferences,
    .saveProfile, .loadProfile, .vendor]

/-- What an operation says while it is down. -/
def outage (operation : Operation) : Fault := .unavailable (operation.store ++ " down")

end Operation

namespace Call

variable {σ τ α : Type}

/-- A call that fails without a change in the states that `down` gives a fault for. -/
def interrupted (down : σ → Option Fault) (call : Call σ α) : Call σ α :=
  ofOutcome fun state =>
    match down state with
    | some fault => (.error fault, state)
    | none => call.outcome state

/-- A call seen from a larger state. -/
def within (part : τ → σ) (replace : σ → τ → τ) (call : Call σ α) : Call τ α :=
  ofOutcome fun state =>
    let (answer, changed) := call.outcome (part state)
    (answer, replace changed state)

end Call

namespace Collaborators

variable {σ τ : Type}

/-- A lookup that fails while it is down. -/
def interruptedLookup (down : σ → Option Fault) (lookUp : String → StateM σ LookupOutcome)
    (vendor : String) : StateM σ LookupOutcome := do
  match down (← get) with
  | some _ => pure .failed
  | none => lookUp vendor

/-- Collaborators whose operations fail while they are down. -/
def interrupted (down : Operation → σ → Option Fault) (world : Collaborators σ) :
    Collaborators σ where
  listItems query := (world.listItems query).interrupted (down .listItems)
  findItem key := (world.findItem key).interrupted (down .findItem)
  addItem item := (world.addItem item).interrupted (down .addItem)
  updateItem id changes := (world.updateItem id changes).interrupted (down .updateItem)
  search := world.search.map fun search query => (search query).interrupted (down .search)
  logEvent event := (world.logEvent event).interrupted (down .logEvent)
  recentEvents userId limit since :=
    (world.recentEvents userId limit since).interrupted (down .recentEvents)
  preferences := world.preferences.map fun load userId =>
    (load userId).interrupted (down .preferences)
  embed := world.embed
  saveProfile profile := (world.saveProfile profile).interrupted (down .saveProfile)
  loadProfile userId := (world.loadProfile userId).interrupted (down .loadProfile)
  vendor := world.vendor.map (interruptedLookup (down .vendor))

/-- A lookup seen from a larger state. -/
def lookupWithin (part : τ → σ) (replace : σ → τ → τ) (lookUp : String → StateM σ LookupOutcome)
    (vendor : String) : StateM τ LookupOutcome := fun state =>
  let (outcome, changed) := lookUp vendor (part state)
  (outcome, replace changed state)

/-- Collaborators seen from a larger state. -/
def within (part : τ → σ) (replace : σ → τ → τ) (world : Collaborators σ) : Collaborators τ where
  listItems query := (world.listItems query).within part replace
  findItem key := (world.findItem key).within part replace
  addItem item := (world.addItem item).within part replace
  updateItem id changes := (world.updateItem id changes).within part replace
  search := world.search.map fun search query => (search query).within part replace
  logEvent event := (world.logEvent event).within part replace
  recentEvents userId limit since := (world.recentEvents userId limit since).within part replace
  preferences := world.preferences.map fun load userId => (load userId).within part replace
  embed := world.embed.map fun embed text => (embed text).within part replace
  saveProfile profile := (world.saveProfile profile).within part replace
  loadProfile userId := (world.loadProfile userId).within part replace
  vendor := world.vendor.map (lookupWithin part replace)

end Collaborators

end Storefront
