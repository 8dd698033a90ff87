import Storefront.Item.Basic
import Storefront.Time.Text
/-!
# Writing items

The record of an item: every field of its kind, absent ones as null, in the order in which the
fields are read.
-/

namespace Storefront

/-- A moment as JSON. -/
def Moment.toJson (moment : Moment) : Json := .str moment.toRecordText

/-- A fit as JSON. -/
def FitMeta.toJson (fit : FitMeta) : Json :=
  .obj [("target_demographic", Json.ofOption .str fit.demographic),
    ("fit_type", Json.ofOption .str fit.fitType),
    ("measurement_points", Json.ofTexts fit.measurementPoints)]

/-- The entries of an item's vectors. -/
def Embeddings.toRow (embeddings : Embeddings) : Row :=
  [("e_style", Json.ofOption Json.ofFloats embeddings.style),
    ("e_fabric", Json.ofOption Json.ofFloats embeddings.fabric)]

/-- How a vector was made, as JSON. -/
def EmbeddingNote.toJson (note : EmbeddingNote) : Json :=
  .obj [("model", .str note.model), ("dim", .int note.dim), ("version", .str note.version),
    ("embedded_at", note.embeddedAt.toJson)]

/-- The entries that only items of one kind have. -/
def Details.toRow : Details → Row
  | .garment fit composition =>
    [("fit_meta", Json.ofOption FitMeta.toJson fit),
      ("fabric_composition", Json.ofOption .str composition)]
  | .fabric composition => [("fabric_composition", Json.ofOption .str composition)]
  | .accessory material => [("material", Json.ofOption .str material)]

namespace Item

/-- The record of an item without its score. -/
def toStoredRow (item : Item) : Row :=
  [("item_id", .str item.id),
    ("name", .str item.name),
    ("description", Json.ofOption .str item.description),
    ("price", .float item.price),
    ("currency", .str item.currency),
    ("vendor", .str item.vendor),
    ("vendor_url", Json.ofOption .str item.vendorUrl),
    ("tags", Json.ofTexts item.tags),
    ("raw_vendor_data", .obj item.raw),
    ("embeddings", Json.ofOption (fun vectors => .obj vectors.toRow) item.embeddings),
    ("embedding_metadata", Json.ofOption EmbeddingNote.toJson item.embeddingNote),
    ("created_at", Json.ofOption Moment.toJson item.createdAt),
    ("type", .str item.kind.name)] ++ item.details.toRow

/-- The record of an item. -/
def toRow (item : Item) : Row :=
  item.toStoredRow ++ [("score", Json.ofOption .float item.score)]

end Item

end Storefront
