import Storefront.Feed.Arrivals
import Storefront.Http.Parameters
import Storefront.Intent.Routing
import Storefront.Listing.Import
import Storefront.Settings
/-!
# The HTTP service

The endpoints of a storefront. A request is matched with an endpoint by its path and its method,
its parameters are checked, and the endpoint answers over the collaborators. A path that only
matches without its final slash is read without it.
-/

namespace Storefront.Http

/-- What is known about the database when the service is asked for its health. -/
structure DatabaseProbe where
  isReachable : Bool
  /-- Whether a first item was found. -/
  hasItems : Except Fault Bool

/-- What the endpoints work with. -/
structure Service (σ : Type) where
  feeds : FeedSetup σ
  settings : Settings
  record : Event → Call σ Event
  route : Option String → Call σ Routing
  eventCount : σ → Nat
  database : DatabaseProbe

/-- What can be asked for. -/
inductive Endpoint where
  | health
  | detailedHealth
  | ready
  | live
  | homeFeed
  | vendorFeed
  | trending
  | newArrivals
  | boughtTogether
  | completeLook
  | route
  | createEvent
  | listEvents
  | importListings
  | listItems
  | findItem (id : String)

namespace Endpoint

/-- The endpoints at a path, each with its method. -/
def atPath (path : String) : List (String × Endpoint) :=
  match (path.splitOn "/").drop 1 with
  | ["health"] => [("GET", .health)]
  | ["health", "detailed"] => [("GET", .detailedHealth)]
  | ["ready"] => [("GET", .ready)]
  | ["live"] => [("GET", .live)]
  | ["recommend", "feed"] => [("GET", .homeFeed)]
  | ["recommend", "vendors"] => [("GET", .vendorFeed)]
  | ["recommend", "trending"] => [("GET", .trending)]
  | ["recommend", "new"] => [("GET", .newArrivals)]
  | ["recommend", "bought-together"] => [("GET", .boughtTogether)]
  | ["recommend", "complete-look"] => [("GET", .completeLook)]
  | ["recommend", "route"] => [("GET", .route)]
  | ["recommendations", "events"] => [("POST", .createEvent), ("GET", .listEvents)]
  | ["recommendations", "catalog"] => [("GET", .listItems)]
  | ["recommendations", "catalog", id] =>
    (if id = "import" then [("POST", .importListings)] else []) ++
      (if id.isEmpty then [] else [("GET", .findItem id)])
  | _ => []

/-- A path without its final slashes. -/
def withoutFinalSlash (path : String) : String :=
  String.ofList (path.toList.reverse.dropWhile (· == '/')).reverse

/-- The endpoints at a path, or else at the path without its final slashes. -/
def matching (path : String) : List (String × Endpoint) :=
  match atPath path with
  | [] => atPath (withoutFinalSlash path)
  | found => found

end Endpoint

namespace Service

variable {σ : Type}

/-- Answer with what a reading of the query gives. -/
def withQuery {α : Type} (reading : Checked α) (answer : α → Call σ Response) : Call σ Response :=
  match reading.under (.field "query") with
  | .valid value => answer value
  | .invalid issues => pure (.unprocessable issues)

/-- Answer with what a reading of the body gives. -/
def withBody {α : Type} (read : Row → Checked α) (body : Body) (answer : α → Call σ Response) :
    Call σ Response :=
  match (readBody read body).under (.field "body") with
  | .valid value => answer value
  | .invalid issues => pure (.unprocessable issues)

/-- A feed as a response. -/
def feedResponse (feed : Feed) : Response := .json 200 (.obj feed.toRow)

/-- What is said about the storage, and what went wrong with it. -/
def storageStatus (service : Service σ) : String × Option Fault :=
  match service.settings.storageBackend with
  | .memory => ("memory", none)
  | .database =>
    if !service.database.isReachable then ("not_configured", none)
    else
      match service.database.hasItems with
      | .ok true => ("connected", none)
      | .ok false => ("empty", none)
      | .error fault => ("error", some fault)

/-- The statuses of a storage that works. -/
def isHealthy (status : String) : Bool := ["connected", "empty", "memory"].contains status

/-- What is said about the health of the service in detail. -/
def healthReport (service : Service σ) (events : Nat) : Json :=
  let (status, fault) := service.storageStatus
  .obj [("status", .str (if isHealthy status then "healthy" else "degraded")),
    ("service", .str "feed-api"),
    ("environment", .str service.settings.environment),
    ("checks", .obj
      [("config", .str "ok"),
        ("storage", .obj
          [("backend", .str service.settings.storageBackend.name),
            ("status", .str status),
            ("error", Json.ofOption (fun fault => .str fault.message) fault)]),
        ("embeddings", .str
          (if service.settings.apiKey.isEmpty then "zero_vector_fallback" else "configured")),
        ("events_ingested", .int events)])]

/-- What is said about whether the service can take requests. -/
def readiness (service : Service σ) : Json :=
  if service.settings.storageBackend = .memory || service.database.isReachable then
    .obj [("status", .str "ready")]
  else .obj [("status", .str "not_ready"), ("reason", .str "database_not_configured")]

/-- Record an event that comes in. -/
def createEvent (service : Service σ) (event : Event) : Call σ Response := do
  match ← Call.ofState (service.record event).attempt with
  | some recorded => pure (.json 201 (.obj recorded.toRow))
  | none => pure (.detail 503 "Event store unavailable")

/-- List a user's events. -/
def listEvents (service : Service σ) (query : EventQuery) : Call σ Response := do
  match query.userId.filter (! ·.isEmpty) with
  | none => pure (.detail 400 "userId is required")
  | some userId =>
    let events ← service.feeds.world.recentEvents userId query.limit query.since
    pure (.json 200 (.arr (events.map fun event => .obj event.toRow)))

/-- Add items one after the other, up to the first that the store cannot take. -/
def addItems (world : Collaborators σ) : List Item → Call σ Unit
  | [] => pure ()
  | item :: rest => do
    world.addItem item
    addItems world rest

/-- Import the rows of a vendor. -/
def importListings (service : Service σ) (request : ImportRequest) : Call σ Response := do
  let items ← Call.ofExcept (Listing.normalizeAll request.source request.vendor request.rows)
  match ← Call.ofState (addItems service.feeds.world items).attempt with
  | none => pure (.detail 503 "Catalog store unavailable")
  | some _ =>
    pure (.json 201 (.obj
      [("accepted", .int items.length),
        ("rejected", .int ((request.rows.length : Int) - items.length)),
        ("item_ids", Json.ofTexts (items.map (·.id)))]))

/-- List the newest items. -/
def listItems (service : Service σ) (limit : Int) : Call σ Response := do
  let items ← service.feeds.world.listItems (.newest (some limit))
  pure (.json 200 (.arr (items.map fun item => .obj item.toRow)))

/-- Show one item. -/
def findItem (service : Service σ) (id : String) : Call σ Response := do
  match ← service.feeds.world.findItem id with
  | some item => pure (.json 200 (.obj item.toRow))
  | none => pure (.detail 404 "Item not found")

/-- The answer of an endpoint to a request. -/
def answer (service : Service σ) (request : Request) : Endpoint → Call σ Response
  | .health =>
    pure (.json 200 (.obj [("status", .str "healthy"), ("service", .str "feed-api")]))
  | .detailedHealth => do
    let state ← get
    pure (.json 200 (service.healthReport (service.eventCount state)))
  | .ready => pure (.json 200 service.readiness)
  | .live => pure (.json 200 (.obj [("status", .str "alive")]))
  | .homeFeed => withQuery (readHome request.query) fun query =>
    feedResponse <$> Home.feed service.feeds query
  | .vendorFeed => withQuery (readVendors request.query) fun query => do
    let feed ← Vendors.feed service.feeds query
    pure (.json 200 (.obj feed.toRow))
  | .trending => withQuery (readLimit request.query Home.defaultLimit) fun limit =>
    feedResponse <$> Arrivals.trending service.feeds (some limit)
  | .newArrivals => withQuery (readArrivals request.query) fun (limit, days) =>
    feedResponse <$> Arrivals.newArrivals service.feeds (some limit) (some days)
  | .boughtTogether => withQuery (readTogether request.query) fun (itemId, limit) =>
    feedResponse <$> Companions.boughtTogether service.feeds itemId (some limit)
  | .completeLook => withQuery (readLook request.query) fun query =>
    feedResponse <$> Companions.completeLook service.feeds query.itemIds query.userId
      (some query.limit)
  | .route => withQuery (request.query.optional "q" Reader.text) fun text => do
    let routing ← service.route text
    pure (.json 200 (.obj routing.toRow))
  | .createEvent =>
    withBody (readNewEvent service.feeds.profile.now) request.body service.createEvent
  | .listEvents => withQuery (readEvents request.query) service.listEvents
  | .importListings => withBody readImport request.body service.importListings
  | .listItems => withQuery (readListingLimit request.query) service.listItems
  | .findItem id => service.findItem id

/-- The response to a request. -/
def respond (service : Service σ) (request : Request) : StateM σ Response := do
  let response ← match Endpoint.matching request.decodedPath with
    | [] => pure (.detail 404 "Not Found")
    | endpoints =>
      match endpoints.lookup request.method with
      | none => pure (.detail 405 "Method Not Allowed")
      | some endpoint => do
        match ← (service.answer request endpoint).run with
        | .ok response => pure response
        | .error fault => pure (.ofFault fault)
  pure (response.traced request)

end Service

end Storefront.Http
