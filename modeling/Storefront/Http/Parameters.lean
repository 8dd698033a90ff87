import Storefront.Event.Record
import Storefront.Feed.Arrivals
import Storefront.Feed.Companions
import Storefront.Feed.Home
import Storefront.Feed.Vendors
import Storefront.Http.Message
/-!
# Parameters of requests

The query parameters and bodies that the endpoints read, with their bounds and defaults. Issues are
found under `query` and `body`.
-/

namespace Storefront.Http

/-- A whole number with bounds. -/
def bounded (low : Int) (high : Option Int) : Reader Int :=
  let raised := Reader.satisfying Reader.int .atLeast fun value => decide (low ≤ value)
  match high with
  | none => raised
  | some high => Reader.satisfying raised .atMost fun value => decide (value ≤ high)

/-- A float above zero. -/
def positive : Reader Float :=
  Reader.satisfying Reader.float .above fun value => !decide (value ≤ 0.0)

/-- The highest number of entries of a feed. -/
def maxLimit : Int := 100

/-- The number of entries of a feed. -/
def readLimit (query : Row) (default : Int) : Checked Int :=
  query.withDefault "limit" (bounded 1 (some maxLimit)) default

/-- Read the parameters of a home feed. -/
def readHome (query : Row) : Checked Home.Request :=
  Home.Request.mk <$> query.optional "userId" Reader.text
    <*> query.optional "sessionId" Reader.text
    <*> (readLimit query Home.defaultLimit).map some
    <*> query.optional "budgetMax" positive
    <*> query.optional "deadlineDays" (bounded 0 none)

/-- Read the parameters of a feed of vendors. -/
def readVendors (query : Row) : Checked Vendors.Request :=
  Vendors.Request.mk <$> query.optional "userId" Reader.text
    <*> (readLimit query Vendors.defaultLimit).map some
    <*> (query.withDefault "productsPerVendor" (bounded 1 (some 20)) Vendors.defaultProducts).map
      some

/-- Read the parameters of new arrivals: how many, and of how many days. -/
def readArrivals (query : Row) : Checked (Int × Int) :=
  Prod.mk <$> readLimit query Home.defaultLimit
    <*> query.withDefault "days" (bounded 1 (some 365)) Arrivals.defaultDays

/-- Read the parameters of items bought together: around which item, and how many. -/
def readTogether (query : Row) : Checked (Option String × Int) :=
  Prod.mk <$> query.optional "itemId" Reader.text <*> readLimit query Companions.defaultLimit

/-- A look that is to be completed. -/
structure LookRequest where
  itemIds : List String
  userId : Option String
  limit : Int

/-- The ids in a text with commas. -/
def splitIds (text : Option String) : List String :=
  match text with
  | none => []
  | some text => if text.isEmpty then [] else (text.splitOn ",").map Text.trim

/-- Read the parameters of a look. -/
def readLook (query : Row) : Checked LookRequest :=
  LookRequest.mk <$> (query.optional "itemIds" Reader.text).map splitIds
    <*> query.optional "userId" Reader.text
    <*> readLimit query Companions.defaultLimit

/-- The highest number of entries of a listing. -/
def maxListing : Int := 500

/-- How many entries a listing has unless a request says otherwise. -/
def defaultListing : Int := 50

/-- The number of entries of a listing. -/
def readListingLimit (query : Row) : Checked Int :=
  query.withDefault "limit" (bounded 1 (some maxListing)) defaultListing

/-- Whose events are asked for. -/
structure EventQuery where
  userId : Option String
  limit : Int
  since : Option Moment

/-- Read the parameters of a listing of events. -/
def readEvents (query : Row) : Checked EventQuery :=
  EventQuery.mk <$> query.optional "userId" Reader.text
    <*> readListingLimit query
    <*> query.optional "since" Reader.moment

/-- The metadata of an event that comes in: what is null is not kept. -/
def keptMetadata (metadata : EventMetadata) : EventMetadata :=
  { metadata with extra := metadata.extra.filter fun entry => !(Json.same entry.2 .null) }

/-- A record in a body, at its top or nested in it. -/
def bodyRecord {α : Type} (read : Row → Checked α) : Reader α
  | .obj entries => read entries
  | _ => .fail .attributesType

/-- Read an event that comes in; an event without a moment happens now. -/
def readNewEvent (now : Moment) (body : Row) : Checked Event :=
  Event.mk <$> body.required "user_id" Reader.nonEmptyText
    <*> body.required "event_type" EventType.read
    <*> body.withDefault "properties" Reader.row []
    <*> body.optional "context" (bodyRecord EventContext.read)
    <*> (body.optional "metadata" (bodyRecord EventMetadata.read)).map (·.map keptMetadata)
    <*> (body.optional "timestamp" Reader.moment).map fun moment => (moment.getD now).assumingUtc

/-- Rows that a vendor sends. -/
structure ImportRequest where
  source : String
  vendor : Option String
  rows : List Row

/-- Read rows that a vendor sends: at least one. -/
def readImport (body : Row) : Checked ImportRequest :=
  ImportRequest.mk <$> body.required "source" Reader.nonEmptyText
    <*> body.optional "vendor" Reader.text
    <*> body.required "rows" (Reader.satisfying (Reader.list Reader.row) .tooShort (! ·.isEmpty))

/-- Read a body that must be an object. -/
def readBody {α : Type} (read : Row → Checked α) : Body → Checked α
  | .malformed => .fail .jsonInvalid
  | .absent => .fail .missing
  | .json .null => .fail .missing
  | .json value => bodyRecord read value

end Storefront.Http
