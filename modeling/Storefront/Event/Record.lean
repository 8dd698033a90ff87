import Storefront.Event.Basic
import Storefront.Item.Writer
import Storefront.Record.Field
/-!
# Events as records

Reading and writing events. A moment without an offset is taken as UTC; an event without a moment
happens at the reader's present.
-/

namespace Storefront

/-- Read an event type by its name. -/
def EventType.read : Reader EventType := Reader.oneOf (EventType.all.map fun type => (type.name, type))

/-- Read where an event happened. -/
def EventContext.read (row : Row) : Checked EventContext :=
  EventContext.mk <$> row.optional "surface" Reader.text
    <*> row.optional "request_id" Reader.text
    <*> row.optional "position" Reader.int
    <*> row.optional "stream" Reader.text

/-- Where an event happened, as a record. -/
def EventContext.toRow (context : EventContext) : Row :=
  [("surface", Json.ofOption .str context.surface),
    ("request_id", Json.ofOption .str context.requestId),
    ("position", Json.ofOption .int context.position),
    ("stream", Json.ofOption .str context.stream)]

namespace EventMetadata

/-- The fields that have a meaning here. -/
def fieldNames : List String :=
  ["reason_codes", "seen_ids", "query", "filters", "budget_max", "deadline_days", "dwell_ms"]

/-- Read what a client added to an event. -/
def read (row : Row) : Checked EventMetadata :=
  EventMetadata.mk <$> row.withDefault "reason_codes" (Reader.list Reader.text) []
    <*> row.withDefault "seen_ids" (Reader.list Reader.text) []
    <*> row.optional "query" Reader.text
    <*> row.optional "filters" Reader.row
    <*> row.optional "budget_max" Reader.float
    <*> row.optional "deadline_days" Reader.int
    <*> row.optional "dwell_ms" Reader.int
    <*> .valid (row.filter fun entry => !fieldNames.contains entry.1)

/-- What a client added to an event, as a record. -/
def toRow (metadata : EventMetadata) : Row :=
  [("reason_codes", Json.ofTexts metadata.reasonCodes),
    ("seen_ids", Json.ofTexts metadata.seenIds),
    ("query", Json.ofOption .str metadata.query),
    ("filters", Json.ofOption .obj metadata.filters),
    ("budget_max", Json.ofOption .float metadata.budgetMax),
    ("deadline_days", Json.ofOption .int metadata.deadlineDays),
    ("dwell_ms", Json.ofOption .int metadata.dwellMs)] ++ metadata.extra

end EventMetadata

namespace Event

/-- Read an event; `now` is the moment of an event that names none. -/
def read (now : Moment) (row : Row) : Checked Event :=
  Event.mk <$> row.required "user_id" Reader.nonEmptyText
    <*> row.required "event_type" EventType.read
    <*> row.withDefault "properties" Reader.row []
    <*> row.optional "context" (Reader.record EventContext.read)
    <*> row.optional "metadata" (Reader.record EventMetadata.read)
    <*> (row.withDefault "timestamp" Reader.moment now).map Moment.assumingUtc

/-- Read an event, or the fault of its record. -/
def parse (now : Moment) (row : Row) : Except Fault Event := (read now row).toExcept

/-- An event as a record. -/
def toRow (event : Event) : Row :=
  [("user_id", .str event.userId),
    ("event_type", .str event.type.name),
    ("properties", .obj event.properties),
    ("context", Json.ofOption (fun context => .obj context.toRow) event.context),
    ("metadata", Json.ofOption (fun metadata => .obj metadata.toRow) event.metadata),
    ("timestamp", event.timestamp.toJson)]

end Event

end Storefront
