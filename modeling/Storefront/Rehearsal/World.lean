import Storefront.Event.Ingestion
import Storefront.Feed.Stage
import Storefront.Rehearsal.Outage
import Storefront.Rehearsal.Script
import Storefront.Remote.Query
import Storefront.Store.Memory
/-!
# Rehearsals

A storefront over stores in memory in which failures can be rehearsed: single operations can be
taken down and brought up again, lookups of chosen vendors fail or hang, and texts are embedded by
a table or by a scripted assistant. The clock stands still until it is set.
-/

namespace Storefront.Rehearsal

/-- Where the vectors of texts come from. -/
inductive Embedder where
  | none
  | table
  | assistant
  deriving DecidableEq, Repr

/-- How a rehearsal is set up. -/
structure Plan where
  settings : Settings
  dim : Nat
  embedder : Embedder
  hasSearch : Bool
  hasPreferences : Bool
  hasVendors : Bool
  failingVendors : List String
  hangingVendors : List String
  /-- The answers of the remote database to every new client; without any, no client is made. -/
  database : Option (List Remote.Answer)

/-- The state of a rehearsal. -/
structure World where
  memory : Memory
  /-- The operations that are down. -/
  outages : List Operation
  counter : EventCounter
  table : EmbeddingTable
  /-- The texts given to the table so far, the last one first. -/
  embedded : List String
  script : Assistant.Script
  now : Moment

namespace World

/-- What an operation says while it is down. -/
def down (operation : Operation) (world : World) : Option Fault :=
  if world.outages.contains operation then some operation.outage else none

/-- Take operations down. -/
def takeDown (operations : List Operation) (world : World) : World :=
  { world with outages := operations ++ world.outages }

/-- Bring all operations of a store up again. -/
def bringUp (store : String) (world : World) : World :=
  { world with outages := world.outages.filter (·.store != store) }

/-- Embed a text by the table. -/
def embedByTable (text : String) : Call World (List Float) :=
  Call.ofOutcome fun world =>
    (world.table.embed text, { world with embedded := text :: world.embedded })

/-- A step of the scripted assistant. -/
def withScript {α : Type} (call : Call Assistant.Script α) : Call World α :=
  call.within (·.script) fun script world => { world with script }

end World

/-- A lookup of vendors of which some fail and some hang. -/
def lookUp {σ : Type} (failing hanging : List String) (lookUp : String → StateM σ LookupOutcome)
    (vendor : String) : StateM σ LookupOutcome :=
  if failing.contains vendor then pure .failed
  else if hanging.contains vendor then pure .hanging
  else lookUp vendor

namespace Plan

/-- The service that embeds texts. -/
def embed (plan : Plan) : Option (String → Call World (List Float)) :=
  match plan.embedder with
  | .none => none
  | .table => some World.embedByTable
  | .assistant => some fun text => World.withScript (Assistant.Script.embed plan.settings text)

/-- The collaborators over the stores of a rehearsal, whatever is down. -/
def stores : Collaborators World :=
  Memory.collaborators.within (·.memory) fun memory world => { world with memory }

/-- The collaborators of a rehearsal. -/
def collaborators (plan : Plan) : Collaborators World :=
  let chosen : Collaborators World := { stores with
    search := stores.search.filter fun _ => plan.hasSearch
    preferences := stores.preferences.filter fun _ => plan.hasPreferences
    vendor := (stores.vendor.filter fun _ => plan.hasVendors).map
      (lookUp plan.failingVendors plan.hangingVendors)
    embed := plan.embed.map fun embed text => some <$> embed text }
  chosen.interrupted World.down

/-- The setup of feeds at a moment. -/
def feedSetup (plan : Plan) (now : Moment) : FeedSetup World where
  world := plan.collaborators
  profile := ⟨plan.dim, now⟩
  mixes := plan.settings.mixHomeFeed
  lookups := ⟨plan.settings.lookupWorkers, plan.settings.hasLookupTime⟩

/-- Record an event: it is counted even if the log cannot take it. -/
def record (plan : Plan) (event : Event) : Call World Event :=
  Call.ofOutcome fun world =>
    let (answer, after) :=
      (Ingestion.record plan.collaborators.logEvent event).outcome ⟨world.counter, world⟩
    (answer, { after.rest with counter := after.counter })

/-- Record an event, and give the counts if they are due to be reported. -/
def recordCounted (plan : Plan) (event : Event) : Call World (Option EventCounter) := do
  let _ ← plan.record event
  let world ← get
  pure (Ingestion.reportDue world.counter)

/-- Route a text. -/
def route (plan : Plan) (text : Option String) : Call World Routing :=
  World.withScript (Call.ofState (Assistant.Script.route plan.settings text))

end Plan

end Storefront.Rehearsal
