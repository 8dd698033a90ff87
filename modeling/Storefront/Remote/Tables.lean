import Storefront.Collaborators
import Storefront.Event.Record
import Storefront.Item.Reader
import Storefront.Item.Writer
import Storefront.Json.Number
import Storefront.Json.PlainText
import Storefront.Remote.Query
/-!
# Remote tables

The collaborators over a remote database: a table for items, events, profiles, users and
businesses each, and a procedure that searches items by their vectors. Rows that do not read as
items or events are passed over; a row that stands for a single record must read as one.
-/

namespace Storefront.Remote

open Connection

/-- The names of the tables. -/
def itemTable : String := "catalog_items"

/-- The table of events. -/
def eventTable : String := "events"

/-- The table of computed profiles. -/
def profileTable : String := "user_embeddings"

/-- The table of users. -/
def userTable : String := "users"

/-- The table of businesses. -/
def businessTable : String := "businesses"

/-- The items among some rows. -/
def itemsOf (rows : List Json) : List Item :=
  rows.filterMap fun row => (Item.parse row.entries).toOption

/-- The events among some rows. -/
def eventsOf (now : Moment) (rows : List Json) : List Event :=
  rows.filterMap fun row => (Event.parse now row.entries).toOption

/-- The query that lists items. -/
def itemQuery (query : CatalogQuery) : Query :=
  let all := (Query.table itemTable).select "*"
  let filtered := (query.filters.getD []).foldl
    (fun built entry => built.whereEqual entry.1 entry.2) all
  let sorted := match query.sort.filter (! ·.isEmpty) with
    | some sort => filtered.orderBy (sort.dropWhile (· == '-')).toString (sort.startsWith "-")
    | none => filtered
  match query.limit with
  | some limit => sorted.limit limit
  | none => sorted

/-- List items. -/
def listItems (query : CatalogQuery) : Call Connection (List Item) := do
  let rows ← execute (itemQuery query)
  pure (itemsOf rows)

/-- The query for the one row of a table with a value in a column. -/
def singleQuery (table columns column : String) (value : Json) : Query :=
  (((Query.table table).select columns).whereEqual column value).limit 1

/-- The item that a key finds, which the database may take for a text: the first row that reads as
one. -/
def findItem (key : Key) : Call Connection (Option Item) := do
  let rows ← execute (singleQuery itemTable "*" "item_id" key.toJson)
  pure (itemsOf rows).head?

/-- Change an item. -/
def updateItem (id : String) (changes : Row) : Call Connection Unit := do
  let _ ← execute (((Query.table itemTable).update changes).whereEqual "item_id" (.str id))

/-- Add an item, or replace it. -/
def addItem (item : Item) : Call Connection Unit := do
  let _ ← execute ((Query.table itemTable).upsert item.toStoredRow "item_id")

/-- The column that an index is over. -/
def indexedColumn (index : String) : Except Fault String :=
  if index = styleIndex then .ok "e_style"
  else if index = fabricIndex then .ok "e_fabric"
  else .error (.unknownIndex index)

/-- The parameters of a search. -/
def searchParameters (query : SearchQuery) : Except Fault Row := do
  let column ← indexedColumn query.index
  pure [("query_embedding", Json.ofFloats query.vector),
    ("embedding_field", .str column),
    ("match_count", .int query.limit),
    ("num_candidates", .int query.candidates),
    ("filters", .obj (query.filters.getD []))]

/-- A found row with its similarity as the score; no similarity counts as zero. -/
def withScore (row : Row) : Except Fault Row := do
  let similarity ← match (row.get? "similarity").bind Json.given? with
    | some value => value.toFloat
    | none => pure 0.0
  pure ((row.without "similarity").put "score" (.float similarity))

/-- Found rows with their scores. -/
def withScores : List Json → Except Fault (List Json)
  | [] => .ok []
  | row :: rest => do
    let scored ← withScore row.entries
    let others ← withScores rest
    pure (.obj scored :: others)

/-- Search items by a vector. -/
def search (procedure : String) (query : SearchQuery) : Call Connection (List Item) := do
  let parameters ← Call.ofExcept (searchParameters query)
  let rows ← execute (.procedure procedure parameters)
  let scored ← Call.ofExcept (withScores rows)
  pure (itemsOf scored)

/-- Append an event. -/
def logEvent (event : Event) : Call Connection Unit := do
  let _ ← execute ((Query.table eventTable).insert event.toRow)

/-- The query for a user's recent events. -/
def eventQuery (userId : String) (limit : Int) (since : Option Moment) : Query :=
  let ofUser := ((Query.table eventTable).select "*").whereEqual "user_id" (.str userId)
  let late := match since with
    | some since => ofUser.whereAtLeast "timestamp" (.str since.toQueryText)
    | none => ofUser
  (late.orderBy "timestamp" true).limit limit

/-- A user's recent events. -/
def recentEvents (now : Moment) (userId : String) (limit : Int) (since : Option Moment) :
    Call Connection (List Event) := do
  let rows ← execute (eventQuery userId limit since)
  pure (eventsOf now rows)

/-- Keep a profile. -/
def saveProfile (profile : ProfileRecord) : Call Connection Unit := do
  let _ ← execute ((Query.table profileTable).upsert profile.toRow "user_id")

/-- The first of some rows, read as a record. -/
def firstAs {α : Type} (read : Reader α) (rows : List Json) : Except Fault (Option α) :=
  match rows with
  | [] => .ok none
  | row :: _ => (read row).toExcept.map some

/-- The profile kept of a user. -/
def loadProfile (now : Moment) (userId : String) : Call Connection (Option ProfileRecord) := do
  let rows ← execute (singleQuery profileTable "*" "user_id" (.str userId))
  Call.ofExcept (firstAs (Reader.record (ProfileRecord.read now)) rows)

/-- The id in a row as text, or the id that was asked for. -/
def idOf (row : Row) (asked : String) : Json :=
  match row.get? "id" with
  | some id => .str id.plainText
  | none => .str asked

/-- A column that counts as given, or a value in its place. -/
def columnOr (row : Row) (name : String) (default : Json) : Json :=
  ((row.get? name).bind Json.given?).getD default

/-- The row of a user as a record of stated preferences. -/
def preferencesRow (asked : String) (row : Row) : Row :=
  [("user_id", idOf row asked),
    ("wears_preference", (row.get? "wears_preference").getD .null),
    ("aesthetic_preferences", columnOr row "aesthetic_preferences" (.arr [])),
    ("body_fit", columnOr row "body_fit" (.arr [])),
    ("measurements", columnOr row "measurements" (.obj [])),
    ("blocked_vendors", columnOr row "blocked_vendors" (.arr [])),
    ("gender", (row.get? "gender").getD .null)]

/-- The stated preferences of a user. -/
def loadPreferences (userId : String) : Call Connection (Option Preferences) := do
  let rows ← execute (singleQuery userTable "*" "id" (.str userId))
  Call.ofExcept (firstAs (fun row => Preferences.read (preferencesRow userId row.entries)) rows)

/-- The columns of a business that matter here. -/
def businessColumns : String := "id,name,is_active,status,success_rate,is_featured,quality_score"

/-- Whether a row says that a business is active: only an explicit no makes it inactive. -/
def isActive (row : Row) : Bool :=
  match row.get? "is_active" with
  | some (.bool false) => false
  | _ => true

/-- The row of a business as a record of its standing. -/
def standingRow (asked : String) (row : Row) : Row :=
  [("vendor_id", idOf row asked),
    ("name", (row.get? "name").getD .null),
    ("is_active", .bool (isActive row)),
    ("status", columnOr row "status" .null),
    ("success_rate", (row.get? "success_rate").getD .null),
    ("is_featured", .bool ((row.get? "is_featured").any Json.isTruthy)),
    ("quality_score", (row.get? "quality_score").getD .null)]

/-- The standing of a vendor. -/
def findStanding (vendorId : String) : Call Connection (Option Standing) := do
  let rows ← execute (singleQuery businessTable businessColumns "id" (.str vendorId))
  Call.ofExcept (firstAs (fun row => Standing.read (standingRow vendorId row.entries)) rows)

/-- How the lookup of a vendor ends. -/
def lookUp (vendorId : String) : StateM Connection LookupOutcome := do
  match ← (findStanding vendorId).run with
  | .ok (some standing) => pure (.found standing)
  | .ok none => pure .unknown
  | .error _ => pure .failed

/-- The collaborators over a connection, without a service that embeds texts. -/
def collaborators (now : Moment) (procedure : String) : Collaborators Connection where
  listItems := listItems
  findItem := findItem
  addItem := addItem
  updateItem := updateItem
  search := some (search procedure)
  logEvent := logEvent
  recentEvents := recentEvents now
  preferences := some loadPreferences
  embed := none
  saveProfile := saveProfile
  loadProfile := loadProfile now
  vendor := some lookUp

end Storefront.Remote
