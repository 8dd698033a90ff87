import Storefront.Item.Basic
import Storefront.Record.Field
/-!
# Reading items

A row is read as the kind that its `type` names; rows without a type are garments, and the case of
the type does not matter. Issues are found under the name of the kind.
-/

namespace Storefront

/-- Read a garment's fit. -/
def FitMeta.read (row : Row) : Checked FitMeta :=
  FitMeta.mk <$> row.optional "target_demographic" Reader.text
    <*> row.optional "fit_type" Reader.text
    <*> row.withDefault "measurement_points" (Reader.list Reader.text) []

/-- Read an item's vectors. -/
def Embeddings.read (row : Row) : Checked Embeddings :=
  Embeddings.mk <$> row.optional "e_style" (Reader.list Reader.float)
    <*> row.optional "e_fabric" (Reader.list Reader.float)

/-- Read how a vector was made. -/
def EmbeddingNote.read (row : Row) : Checked EmbeddingNote :=
  EmbeddingNote.mk <$> row.required "model" Reader.text
    <*> row.required "dim" Reader.int
    <*> row.required "version" Reader.text
    <*> row.required "embedded_at" Reader.moment

/-- Read what only items of one kind have. -/
def Details.read (row : Row) : Kind → Checked Details
  | .garment =>
    Details.garment <$> row.optional "fit_meta" (Reader.record FitMeta.read)
      <*> row.optional "fabric_composition" Reader.text
  | .fabric => Details.fabric <$> row.optional "fabric_composition" Reader.text
  | .accessory => Details.accessory <$> row.optional "material" Reader.text

namespace Item

/-- Read an item of a known kind. -/
def readAs (kind : Kind) (row : Row) : Checked Item :=
  Item.mk <$> row.required "item_id" Reader.text
    <*> row.withDefault "name" Reader.text ""
    <*> row.optional "description" Reader.text
    <*> row.withDefault "price" Reader.float 0.0
    <*> row.withDefault "currency" Reader.text "USD"
    <*> row.withDefault "vendor" Reader.text ""
    <*> row.optional "vendor_url" Reader.text
    <*> row.withDefault "tags" (Reader.list Reader.text) []
    <*> row.withDefault "raw_vendor_data" Reader.row []
    <*> row.optional "embeddings" (Reader.record Embeddings.read)
    <*> row.optional "embedding_metadata" (Reader.record EmbeddingNote.read)
    <*> row.optional "created_at" Reader.moment
    <*> row.optional "score" Reader.float
    <*> Details.read row kind

/-- The kind that a row names. -/
def kindOf? (row : Row) : Option Kind :=
  match (row.get? "type").bind Json.given? with
  | none => some .garment
  | some (.str text) => Kind.ofName? (Text.lower text)
  | some _ => none

/-- Read an item. -/
def read (row : Row) : Checked Item :=
  match kindOf? row with
  | some kind => (readAs kind row).under (.field kind.name)
  | none => .fail .unknownKind

/-- Read an item, or the fault of the row. -/
def parse (row : Row) : Except Fault Item := (read row).toExcept

end Item

end Storefront
