import Storefront.Command.Run
import Storefront.Http.Service
import Storefront.Rehearsal.World
import Storefront.Remote.Access
import Storefront.Remote.Tables
/-!
# The front of a rehearsal

The HTTP service and the commands over the collaborators of a rehearsal. Health is asked of a new
client of the database each time, and a command embeds texts with a client of its own.
-/

namespace Storefront.Rehearsal

namespace Plan

/-- What the database says against a client, if anything. -/
def refusal (plan : Plan) : Option String :=
  match plan.database with
  | some _ => none
  | none => some "no client"

/-- What a new client finds out about the database. -/
def probe (plan : Plan) : Http.DatabaseProbe :=
  let query := ((Remote.Query.table Remote.itemTable).select "item_id").limit 1
  let (rows, _) := (Remote.Connection.execute query).outcome (.start (plan.database.getD []))
  ⟨Remote.isReachable plan.settings plan.refusal, rows.map (! ·.isEmpty)⟩

/-- The HTTP service at a moment. -/
def service (plan : Plan) (now : Moment) : Http.Service World where
  feeds := plan.feedSetup now
  settings := plan.settings
  record := plan.record
  route := plan.route
  eventCount := fun world => world.counter.total
  database := plan.probe

/-- Run a step of which the assistant's embeddings connect anew; afterwards the connection is as it
was before. -/
def withOwnClient {α : Type} (call : Call World α) : Call World α :=
  Call.ofOutcome fun world =>
    let fresh := { world.script with embeddingConnected := false }
    let (answer, after) := call.outcome { world with script := fresh }
    (answer, { after with script :=
      { after.script with embeddingConnected := world.script.embeddingConnected } })

/-- Run the integrity report. -/
def reportIntegrity (plan : Plan) (arguments : List String) : Call World Command.Exit :=
  Command.IntegrityReport.run plan.collaborators arguments

/-- Run the backfill of style vectors with the assistant's embeddings. -/
def backfill (plan : Plan) (arguments : List String) : Call World Command.Exit := do
  let world ← get
  let embed : Option (String → Call World (List Float)) :=
    if Assistant.Script.embeds plan.settings then
      some fun text => World.withScript (Assistant.Script.embed plan.settings text)
    else none
  withOwnClient (Command.BackfillEmbeddings.run plan.collaborators embed
    plan.settings.embeddingModel world.now arguments)

end Plan

end Storefront.Rehearsal
