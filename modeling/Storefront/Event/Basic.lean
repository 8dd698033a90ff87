import Storefront.Json.Basic
import Storefront.Key
import Storefront.Time.Moment
/-!
# Events

What a user did, when, and in which context. The properties are free-form; the item, the session
and the tags of an event are read from them on demand.
-/

namespace Storefront

/-- The kinds of events that clients record. -/
inductive EventType where
  | viewItem
  | clickItem
  | addToCart
  | removeFromCart
  | saveItem
  | purchase
  | notInterested
  | hideBusiness
  | search
  | impression
  deriving DecidableEq, Repr

namespace EventType

/-- The name of an event type in records. -/
def name : EventType → String
  | .viewItem => "VIEW_ITEM"
  | .clickItem => "CLICK_ITEM"
  | .addToCart => "ADD_TO_CART"
  | .removeFromCart => "REMOVE_FROM_CART"
  | .saveItem => "SAVE_ITEM"
  | .purchase => "PURCHASE"
  | .notInterested => "NOT_INTERESTED"
  | .hideBusiness => "HIDE_BUSINESS"
  | .search => "SEARCH"
  | .impression => "IMPRESSION"

/-- Every event type. -/
def all : List EventType :=
  [.viewItem, .clickItem, .addToCart, .removeFromCart, .saveItem, .purchase, .notInterested,
    .hideBusiness, .search, .impression]

/-- Whether an event of this type is a conversion. -/
def isConversion : EventType → Bool
  | .addToCart | .purchase => true
  | _ => false

end EventType

/-- Where in the product an event happened. -/
structure EventContext where
  surface : Option String
  requestId : Option String
  position : Option Int
  stream : Option String

/-- What a client adds about the request behind an event. Fields without a name here are kept. -/
structure EventMetadata where
  reasonCodes : List String
  seenIds : List String
  query : Option String
  filters : Option Row
  budgetMax : Option Float
  deadlineDays : Option Int
  dwellMs : Option Int
  extra : Row

/-- An event. Its moment always has an offset. -/
structure Event where
  userId : String
  type : EventType
  properties : Row
  context : Option EventContext
  metadata : Option EventMetadata
  timestamp : Moment

namespace Event

/-- The first of two properties that counts as given, or else what the second holds. -/
def property (event : Event) (first second : String) : Json :=
  match (event.properties.get? first).bind Json.given? with
  | some value => value
  | none => (event.properties.get? second).getD .null

/-- What an event says about its item. -/
def itemReference (event : Event) : Json := event.property "itemId" "item_id"

/-- What an event says about its session. -/
def sessionReference (event : Event) : Json := event.property "sessionId" "session_id"

/-- The id of an event's item, if it is a text that is not empty. -/
def itemId? (event : Event) : Option String :=
  match event.itemReference with
  | .str id => if id.isEmpty then none else some id
  | _ => none

/-- The key that an event names its item by, if the reference counts as given. -/
def itemKey? (event : Event) : Option Key := event.itemReference.given?.bind Key.ofJson?

/-- The tags of an event: the texts of its list of tags. -/
def tags (event : Event) : List String :=
  match event.properties.get? "tags" with
  | some (.arr items) => items.filterMap Json.text?
  | _ => []

end Event

end Storefront
