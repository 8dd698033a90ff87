import Storefront.Feed.Explanation
import Storefront.User.Profile
/-!
# Feeds as they are returned

The entries of a feed, what is told about how the feed came to be, and the two forms of feeds: a
feed of items and a feed of vendors.
-/

namespace Storefront

/-- The factors behind a score, as a record. -/
def Scoring.toRow (scoring : Scoring Float) : Row :=
  [("v_score", .float scoring.similarity),
    ("vendor_quality_score", .float scoring.vendorQuality),
    ("eta_score", .float scoring.leadTime),
    ("price_fit", .float scoring.priceFit),
    ("vendor_boost", .float scoring.vendorBoost),
    ("price_penalty", .bool scoring.pricePenalty)]

/-- The codes of some reasons, as a record holds them. -/
def ReasonCode.toJson (codes : List ReasonCode) : Json := Json.ofTexts (codes.map ReasonCode.name)

/-- An item at a place in a feed. -/
structure FeedItem where
  item : Item
  position : Int
  stream : String
  finalScore : Float
  scoring : Scoring Float
  explanation : Explanation

namespace FeedItem

/-- The stream shown with an item: a stream set by the feed, else the stream the item was placed
in, else the stream of its kind. Empty names do not count. -/
def streamOf (ranked : Ranked) (stream : Option String) : String :=
  match stream.filter (! ·.isEmpty), ranked.stream.filter (! ·.isEmpty) with
  | some stream, _ => stream
  | none, some stream => stream
  | none, none => ranked.item.stream

/-- A ranked item at a place. -/
def ofRanked (ranked : Ranked) (position : Int) (explanation : Explanation)
    (stream : Option String) : FeedItem where
  item := ranked.item
  position := position
  stream := streamOf ranked stream
  finalScore := ranked.finalScore
  scoring := ranked.scoring
  explanation := explanation

/-- An entry as a record. -/
def toRow (entry : FeedItem) : Row :=
  [("item_id", .str entry.item.id),
    ("type", .str entry.item.kind.name),
    ("name", .str entry.item.name),
    ("price", .float entry.item.price),
    ("currency", .str entry.item.currency),
    ("vendor", .str entry.item.vendor),
    ("tags", Json.ofTexts entry.item.tags),
    ("position", .int entry.position),
    ("stream", .str entry.stream),
    ("final_score", .float entry.finalScore),
    ("scoring_debug", .obj entry.scoring.toRow),
    ("explanations", Json.ofTexts entry.explanation.texts),
    ("reason_codes", ReasonCode.toJson entry.explanation.codes)]

end FeedItem

/-- How a feed came to be. -/
structure FeedTrace where
  warmth : Option Profile.Warmth
  usedSession : Option Bool
  candidates : Nat
  filtered : Nat
  metrics : List (String × Nat)
  newItems : Option Nat
  cutoff : Option Moment
  lookKinds : Option (List Kind)

namespace FeedTrace

/-- Nothing to tell. -/
def blank : FeedTrace where
  warmth := none
  usedSession := none
  candidates := 0
  filtered := 0
  metrics := []
  newItems := none
  cutoff := none
  lookKinds := none

/-- What is told about a filter run over some number of candidates. -/
def ofFilter (candidates : Nat) (result : Filter.Result) : FeedTrace :=
  { blank with
    candidates
    filtered := result.kept.length
    metrics := result.metrics }

/-- A trace as a record. -/
def toRow (trace : FeedTrace) : Row :=
  [("cold_start_level", Json.ofOption (fun level => .str level.name) trace.warmth),
    ("used_session_blend", Json.ofOption .bool trace.usedSession),
    ("candidate_count", .int trace.candidates),
    ("filtered_count", .int trace.filtered),
    ("filter_metrics", .obj (trace.metrics.map fun (name, count) => (name, .int count))),
    ("total_new_items", Json.ofOption (fun (count : Nat) => .int count) trace.newItems),
    ("cutoff_date", Json.ofOption Moment.toJson trace.cutoff),
    ("existing_types", Json.ofOption (fun kinds => Json.ofTexts (kinds.map Kind.name))
      trace.lookKinds)]

end FeedTrace

/-- A feed of items, or the reason why there is none. -/
structure Feed where
  items : List FeedItem
  trace : FeedTrace
  message : Option String
  /-- The items that the feed was built around. -/
  references : Option (List Item)

namespace Feed

/-- A feed without items that says why. -/
def nothing (message : String) : Feed := ⟨[], .blank, some message, none⟩

/-- A reference as a record. -/
def referenceToJson (item : Item) : Json :=
  .obj [("item_id", .str item.id), ("name", .str item.name), ("type", .str item.kind.name)]

/-- A feed as a record. -/
def toRow (feed : Feed) : Row :=
  [("items", .arr (feed.items.map fun entry => .obj entry.toRow)),
    ("debug", .obj feed.trace.toRow),
    ("message", Json.ofOption .str feed.message),
    ("reference_items",
      Json.ofOption (fun items => .arr (items.map referenceToJson)) feed.references)]

end Feed

/-- A vendor in a feed, with some of its products. -/
structure VendorEntry where
  vendorId : String
  name : String
  score : Float
  codes : List ReasonCode
  explanations : List String
  products : List FeedItem
  productCount : Nat

/-- A vendor's entry as a record. -/
def VendorEntry.toRow (entry : VendorEntry) : Row :=
  [("vendor_id", .str entry.vendorId),
    ("vendor_name", .str entry.name),
    ("vendor_score", .float entry.score),
    ("reason_codes", ReasonCode.toJson entry.codes),
    ("explanations", Json.ofTexts entry.explanations),
    ("products", .arr (entry.products.map fun product => .obj product.toRow)),
    ("total_products", .int entry.productCount)]

/-- A feed of vendors. -/
structure VendorFeed where
  vendors : List VendorEntry
  trace : FeedTrace

/-- A feed of vendors as a record. -/
def VendorFeed.toRow (feed : VendorFeed) : Row :=
  [("vendors", .arr (feed.vendors.map fun entry => .obj entry.toRow)),
    ("debug", .obj feed.trace.toRow)]

end Storefront
