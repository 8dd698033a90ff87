import Storefront.Item.Reader
import Storefront.Json.Number
import Storefront.Json.PlainText
/-!
# Vendor rows as item rows

Vendors push rows in shapes of their own. A draft is the item row that a vendor row stands for,
before it is read as an item: two shapes are known by the name of their source, and every other
source is taken to use common column names.
-/

namespace Storefront.Listing

/-- The shapes of vendor rows. -/
inductive Shape where
  /-- A shop export with handles, variants and options. -/
  | export
  /-- A vendor's own service with products and costs. -/
  | service
  /-- Any other source. -/
  | common
  deriving DecidableEq, Repr

/-- The shape of a source's rows; the case of the source's name does not matter. -/
def Shape.ofSource (source : String) : Shape :=
  let name := Text.lower source
  if name = "shopify_csv" then .export else if name = "custom_api" then .service else .common

/-- A column, or null. -/
def column (raw : Row) (name : String) : Json := (raw.get? name).getD .null

/-- The first column that counts as given, or else what the last one holds. -/
def firstGiven (raw : Row) : List String → Json
  | [] => .null
  | [name] => column raw name
  | name :: others =>
    let value := column raw name
    if value.isTruthy then value else firstGiven raw others

/-- A column that counts as given, or a text in its place. -/
def givenOr (raw : Row) (name default : String) : Json :=
  let value := column raw name
  if value.isTruthy then value else .str default

/-- A price: what does not read as a number is free of charge, but a whole number beyond the
largest float is a fault. -/
def price (value : Json) : Except Fault Float :=
  match value with
  | .null => .ok 0.0
  | .str "" => .ok 0.0
  | value =>
    match value.toFloat with
    | .ok price => .ok price
    | .error .beyondFloats => .error .beyondFloats
    | .error _ => .ok 0.0

/-- Tags from a list of values or from text with commas, trimmed, without empty ones. -/
def tags : Json → List String
  | .arr items => (items.map fun item => Text.trim item.plainText).filter (! ·.isEmpty)
  | .str text => ((text.splitOn ",").map Text.trim).filter (! ·.isEmpty)
  | _ => []

/-- The draft of a shop export's row: always a garment in dollars. -/
def ofExport (raw : Row) : Except Fault Row := do
  let price ← price (column raw "Variant_Price")
  pure [("item_id", firstGiven raw ["Variant_SKU", "Handle"]),
    ("name", column raw "Title"),
    ("description", column raw "Body_HTML"),
    ("price", .float price),
    ("currency", .str "USD"),
    ("type", .str Kind.garment.name),
    ("tags", Json.ofTexts (tags (column raw "Tags"))),
    ("fit_meta", .obj [("fit_type", givenOr raw "Option1 Value" "regular"),
      ("target_demographic", .str "unisex")])]

/-- The kind that a service's category stands for. -/
def kindOfCategory : Json → Kind
  | .str "Fabrics" => .fabric
  | .str "Accessories" => .accessory
  | _ => .garment

/-- The draft of a service's row. -/
def ofService (raw : Row) : Except Fault Row := do
  let price ← price (column raw "cost")
  let kind := kindOfCategory (column raw "category")
  let own : Row := match kind with
    | .garment =>
      [("fit_meta", .obj [("fit_type", column raw "fit"),
        ("target_demographic", column raw "gender")])]
    | .accessory => [("material", column raw "materialInfo")]
    | .fabric => []
  pure ([("item_id", column raw "id"),
    ("name", column raw "productName"),
    ("description", column raw "details"),
    ("price", .float price),
    ("currency", givenOr raw "currencyCode" "EUR"),
    ("type", .str kind.name),
    ("tags", Json.ofTexts (tags (column raw "keywords")))] ++ own)

/-- The draft of any other row: always a garment, without tags. -/
def ofCommon (raw : Row) : Except Fault Row := do
  let price ← price (column raw "price")
  pure [("item_id", firstGiven raw ["id", "sku", "code"]),
    ("name", firstGiven raw ["name", "title"]),
    ("description", column raw "description"),
    ("price", .float price),
    ("currency", givenOr raw "currency" "USD"),
    ("type", .str Kind.garment.name)]

/-- The draft of a row of a shape. -/
def draft : Shape → Row → Except Fault Row
  | .export => ofExport
  | .service => ofService
  | .common => ofCommon

end Storefront.Listing
