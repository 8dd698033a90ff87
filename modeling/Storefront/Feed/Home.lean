import Storefront.Feed.Stage
/-!
# The home feed

Items for one user: near the user's style, blended with the style of the current session, within
the user's constraints, mixed by kind and explained by the user's history. Vectors that cannot be
computed are done without.
-/

namespace Storefront.Home

variable {σ : Type}

/-- A request for a home feed. -/
structure Request where
  userId : Option String
  sessionId : Option String
  limit : Option Int
  budget : Option Float
  deadlineDays : Option Int

/-- How many items are shown unless a request says otherwise. -/
def defaultLimit : Int := 30

/-- How many candidates are fetched for every item shown. -/
def overfetch : Int := 2

/-- How many neighbours a search considers. -/
def searchWidth : Int := 1000

/-- The style vectors of the user and of the session. -/
def vectors (setup : FeedSetup σ) (userId : String) (sessionId : Option String) :
    StateM σ (Option (List Float) × Option (List Float)) := do
  let profile ← (Profile.computeStyle setup.world setup.profile userId).orElse none
  let session ← match sessionId.filter (! ·.isEmpty) with
    | none => pure none
    | some sessionId =>
      (Profile.sessionStyle setup.world setup.profile userId sessionId Profile.sessionLimit).orElse
        none
  pure (profile, session)

/-- The constraints of a request by a user. -/
def constraints (request : Request) (preferences : Option Preferences) : Except Fault FilterSpec :=
  FilterSpec.build
    [("max_price", Json.ofOption .float request.budget),
      ("deadline_days", Json.ofOption .int request.deadlineDays)]
    preferences

/-- Assemble a home feed. -/
def feed (setup : FeedSetup σ) (request : Request) : Call σ Feed := do
  let userId ← Call.ofExcept (FeedSetup.requireText "userId" request.userId)
  let limit ← Call.ofExcept (FeedSetup.requirePositive "limit" request.limit)
  let (profile, session) ← Call.ofState (vectors setup userId request.sessionId)
  let candidates ← Call.ofState <| Retrieval.candidates setup.world {
    vector := Vector.blend Profile.blendShare profile session
    limit := limit * overfetch
    candidates := searchWidth
    filters := none
    index := styleIndex }
  let preferences ← Call.ofState (setup.preferences userId)
  let spec ← Call.ofExcept (constraints request preferences)
  let stage ← setup.filterAndRank candidates spec request.budget
  let shown ← Call.ofExcept (setup.select stage.ranked limit)
  let history ← Call.ofState (setup.history userId)
  let items ← Call.ofExcept (FeedSetup.explain history none shown)
  pure {
    items
    trace := { FeedTrace.ofFilter candidates.length stage.result with
      warmth := some (Profile.Warmth.ofVectors profile session)
      usedSession := some session.isSome }
    message := none
    references := none }

end Storefront.Home
