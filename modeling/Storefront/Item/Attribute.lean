import Storefront.Item.Basic
import Storefront.Json.Number
/-!
# Attributes of items

The named attributes that catalog queries can filter and sort by: the fields of an item, and what
is read from the vendor's own row. An attribute that an item's kind does not have is absent, as is
one without a value.
-/

namespace Storefront

/-- The value of an attribute. -/
inductive Attribute where
  | value (json : Json)
  | moment (moment : Moment)
  /-- A nested record, which equals no plain value and has no order. -/
  | record (kind : String)

namespace Attribute

/-- An attribute that may be absent. -/
def ofText? (text : Option String) : Option Attribute := text.map fun text => .value (.str text)

/-- An attribute that holds a number that may be absent. -/
def ofFloat? (number : Option Float) : Option Attribute :=
  number.map fun number => .value (.float number)

/-- Whether an attribute equals a plain value; an absent one equals null. -/
def equals (held : Option Attribute) (value : Json) : Bool :=
  match held with
  | none => Json.same .null value
  | some (.value json) => Json.same json value
  | some _ => false

/-- The name of an attribute's kind in messages. -/
def kindName : Attribute → String
  | .value json => json.kindName
  | .moment _ => "datetime.datetime"
  | .record kind => kind

/-- Whether one attribute is below another. -/
def less : Attribute → Attribute → Except Fault Bool
  | .value a, .value b => Json.less "<" a b
  | .moment a, .moment b =>
    if a.comparable b then .ok (a.isBefore b) else .error .mixedOffsetsCompared
  | a, b => .error (.unordered "<" a.kindName b.kindName)

end Attribute

namespace Details

/-- The attributes that only items of one kind have. -/
def attribute? : Details → String → Option Attribute
  | .garment fit _, "fit_meta" => fit.map fun _ => .record "FitMeta"
  | .garment _ composition, "fabric_composition" => Attribute.ofText? composition
  | .fabric composition, "fabric_composition" => Attribute.ofText? composition
  | .accessory material, "material" => Attribute.ofText? material
  | _, _ => none

end Details

namespace Item

/-- The attribute with a name. -/
def attribute? (item : Item) (name : String) : Option Attribute :=
  match name with
  | "item_id" => some (.value (.str item.id))
  | "name" => some (.value (.str item.name))
  | "description" => Attribute.ofText? item.description
  | "price" => some (.value (.float item.price))
  | "currency" => some (.value (.str item.currency))
  | "vendor" => some (.value (.str item.vendor))
  | "vendor_url" => Attribute.ofText? item.vendorUrl
  | "tags" => some (.value (Json.ofTexts item.tags))
  | "raw_vendor_data" => some (.value (.obj item.raw))
  | "embeddings" => item.embeddings.map fun _ => .record "ItemEmbeddings"
  | "embedding_metadata" => item.embeddingNote.map fun _ => .record "EmbeddingMetadata"
  | "created_at" => item.createdAt.map .moment
  | "score" => Attribute.ofFloat? item.score
  | "type" => some (.value (.str item.kind.name))
  | "stream" => some (.value (.str item.stream))
  | "style_embedding" => (item.embeddings.bind (·.style)).map fun v => .value (Json.ofFloats v)
  | "inventory_quantity" => item.stock?.map .value
  | "eta_days" => item.leadTime?.map .value
  | "vendor_quality" => item.reportedQuality?.map .value
  | name => item.details.attribute? name

end Item

end Storefront
