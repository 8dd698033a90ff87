import Storefront.Json.Basic
import Storefront.Time.Moment
/-!
# Catalog items

An item is a garment, a fabric or an accessory. What the kinds share is in `Item`, what they do
not share is in `Details`. The vendor's own row is kept as it came: stock, lead time and the
vendor's own quality figure are read from it when they are needed.
-/

namespace Storefront

/-- The kinds of items. Every kind is a stream of its own in a mixed feed. -/
inductive Kind where
  | garment
  | fabric
  | accessory
  deriving DecidableEq, Repr

namespace Kind

/-- Every kind. -/
def all : List Kind := [.garment, .fabric, .accessory]

/-- The name of a kind in records. -/
def name : Kind → String
  | .garment => "garment"
  | .fabric => "fabric"
  | .accessory => "accessory"

/-- The name of a kind's stream in feeds. -/
def stream : Kind → String
  | .garment => "clothing"
  | .fabric => "fabric"
  | .accessory => "accessory"

/-- The kind with a name. -/
def ofName? (name : String) : Option Kind := all.find? (·.name == name)

end Kind

/-- How a garment fits and for whom it is made. -/
structure FitMeta where
  demographic : Option String
  fitType : Option String
  measurementPoints : List String

/-- What only items of one kind have. -/
inductive Details where
  | garment (fit : Option FitMeta) (composition : Option String)
  | fabric (composition : Option String)
  | accessory (material : Option String)

/-- The kind that some details belong to. -/
def Details.kind : Details → Kind
  | .garment _ _ => .garment
  | .fabric _ => .fabric
  | .accessory _ => .accessory

/-- The vectors that an item is found by. -/
structure Embeddings where
  style : Option (List Float)
  fabric : Option (List Float)

/-- How an item's style vector was made. -/
structure EmbeddingNote where
  model : String
  dim : Int
  version : String
  embeddedAt : Moment

/-- A catalog item. The score is only there on results of a search. -/
structure Item where
  id : String
  name : String
  description : Option String
  price : Float
  currency : String
  vendor : String
  vendorUrl : Option String
  tags : List String
  raw : Row
  embeddings : Option Embeddings
  embeddingNote : Option EmbeddingNote
  createdAt : Option Moment
  score : Option Float
  details : Details

namespace Item

/-- The kind of an item. -/
def kind (item : Item) : Kind := item.details.kind

/-- The stream an item belongs to. -/
def stream (item : Item) : String := item.kind.stream

/-- The style vector, unless it is absent or empty. -/
def styleVector? (item : Item) : Option (List Float) :=
  match item.embeddings.bind (·.style) with
  | some (x :: rest) => some (x :: rest)
  | _ => none

/-- The fabric vector, unless it is absent or empty. -/
def fabricVector? (item : Item) : Option (List Float) :=
  match item.embeddings.bind (·.fabric) with
  | some (x :: rest) => some (x :: rest)
  | _ => none

/-- The stock the vendor reported. -/
def stock? (item : Item) : Option Json := item.raw.present? "inventory_quantity"

/-- The lead time in days the vendor reported. -/
def leadTime? (item : Item) : Option Json := item.raw.present? "eta_days"

/-- The quality figure the vendor reported. -/
def reportedQuality? (item : Item) : Option Json := item.raw.present? "vendorQuality"

/-- The item's fit, if it is a garment that has one. -/
def fit? (item : Item) : Option FitMeta :=
  match item.details with
  | .garment fit _ => fit
  | _ => none

/-- The item as a search result. -/
def scored (item : Item) (score : Float) : Item := { item with score := some score }

end Item

end Storefront
