import Storefront.Proofs.Calls
import Storefront.Proofs.Readings
import Storefront.Proofs.Time.Text
import Storefront.Remote.Tables
import Storefront.User.Profile
/-!
# Records survive being stored

Items, events and profiles are stored as rows of JSON and read back from them. Every field is
written in the form that its own reader takes without a change: texts, numbers and free-form values
as they are, moments as texts that tell them completely, and nothing as null. What is read back is
what was stored, but for the score of an item, which is not stored. Changes that are put over the
row of an item are read over the item: each field that no change names is what it was.
-/

namespace Storefront

section Fields

variable {α : Type} {read : Reader α} {row : Row} {name : String} {value : α} {json : Json}

/-- A mapped reading that gives a value gives it from one that was read. -/
theorem Checked.exists_of_map {β : Type} {f : β → α} {reading : Checked β}
    (reads : reading.map f = .valid value) : ∃ inner, reading = .valid inner ∧ f inner = value := by
  cases reading with
  | valid inner =>
    cases reads
    exact ⟨inner, rfl, rfl⟩
  | invalid issues => cases reads

/-- A value is written as JSON that is not null and that is read as the value. -/
structure Reader.Restores (read : Reader α) (write : α → Json) (value : α) : Prop where
  given : write value ≠ .null
  reads : read (write value) = .valid value

/-- A required field is read as what was written. -/
theorem Row.required_eq {write : α → Json} (restores : read.Restores write value)
    (stored : row.get? name = some (write value)) : row.required name read = .valid value := by
  rw [required, stored]
  exact Checked.under_eq_valid_iff.mpr restores.reads

/-- A field with a default is read as what was written, whatever its default is. -/
theorem Row.withDefault_eq {write : α → Json} {default : α} (restores : read.Restores write value)
    (stored : row.get? name = some (write value)) :
    row.withDefault name read default = .valid value := by
  rw [withDefault, stored]
  exact Checked.under_eq_valid_iff.mpr restores.reads

/-- A field that is null for nothing is read as what was written. -/
theorem Row.optional_eq {write : α → Json} {option : Option α}
    (restores : ∀ value ∈ option, read.Restores write value)
    (stored : row.get? name = some (Json.ofOption write option)) :
    row.optional name read = .valid option := by
  rw [optional, withDefault, stored]
  refine Checked.under_eq_valid_iff.mpr ?_
  cases option with
  | none => rfl
  | some value =>
    obtain ⟨given, reads⟩ := restores value rfl
    rw [Json.ofOption, Reader.nullable_of_ne_null given, reads]
    rfl

/-- A field that is not stored is read as its default. -/
theorem Row.withDefault_absent {default : α} (absent : row.get? name = none) :
    row.withDefault name read default = .valid default := by
  rw [withDefault, absent]

/-- A required field that is read is read from some value. -/
theorem Row.exists_of_required (reads : row.required name read = .valid value) :
    ∃ json, read json = .valid value := by
  unfold required at reads
  split at reads
  · next json _ => exact ⟨json, Checked.under_eq_valid_iff.mp reads⟩
  · cases reads

/-- A field with a default that is read is the default or is read from some value. -/
theorem Row.exists_of_withDefault {default : α}
    (reads : row.withDefault name read default = .valid value) :
    value = default ∨ ∃ json, read json = .valid value := by
  unfold withDefault at reads
  split at reads
  · next json _ => exact .inr ⟨json, Checked.under_eq_valid_iff.mp reads⟩
  · cases reads
    exact .inl rfl

/-- What is read from an optional field is read from some value. -/
theorem Row.exists_of_optional {option : Option α}
    (reads : row.optional name read = .valid option) :
    ∀ value ∈ option, ∃ json, read json = .valid value := by
  rintro value given
  cases given
  rcases Row.exists_of_withDefault reads with absent | ⟨json, reads⟩
  · cases absent
  · by_cases null : json = .null
    · subst null
      cases reads
    · rw [Reader.nullable_of_ne_null null] at reads
      obtain ⟨inner, found, same⟩ := Checked.exists_of_map reads
      cases same
      exact ⟨json, found⟩

/-- A nested record that is read is read from the entries of an object. -/
theorem Reader.exists_of_record {read : Row → Checked α}
    (reads : Reader.record read json = .valid value) : ∃ row, read row = .valid value := by
  cases json with
  | obj entries => exact ⟨entries, reads⟩
  | _ => cases reads

/-- A text is restored. -/
theorem Reader.restores_text (value : String) : text.Restores .str value := ⟨nofun, rfl⟩

/-- A whole number is restored. -/
theorem Reader.restores_int (value : Int) : int.Restores .int value := ⟨nofun, rfl⟩

/-- A float is restored. -/
theorem Reader.restores_float (value : Float) : float.Restores .float value := ⟨nofun, rfl⟩

/-- An object with values of any kind is restored. -/
theorem Reader.restores_row (value : Row) : Reader.row.Restores .obj value := ⟨nofun, rfl⟩

/-- A list is restored if every item is. -/
theorem Reader.restores_list {write : α → Json} (values : List α)
    (each : ∀ value, read.Restores write value) :
    (list read).Restores (fun values => .arr (values.map write)) values := by
  refine ⟨nofun, ?_⟩
  have onward : ∀ position, Checked.itemsFrom position ((values.map write).map read) =
      .valid values := by
    induction values with
    | nil => exact fun _ => rfl
    | cons value rest ih =>
      intro position
      rw [List.map_cons, List.map_cons, Checked.itemsFrom, (each value).reads, ih]
      rfl
  exact onward 0

/-- A list of texts is restored. -/
theorem Reader.restores_texts (texts : List String) : (list text).Restores Json.ofTexts texts :=
  restores_list texts restores_text

/-- A list of floats is restored. -/
theorem Reader.restores_floats (values : List Float) :
    (list float).Restores Json.ofFloats values := restores_list values restores_float

/-- A writable moment is restored. -/
theorem Reader.restores_moment {moment : Moment} (writable : moment.IsWritable) :
    Reader.moment.Restores Moment.toJson moment := by
  refine ⟨nofun, ?_⟩
  rw [Moment.toJson, Reader.moment, Moment.toRecordText, Moment.ofFieldText?_toText .letter writable]

/-- A moment that is read is writable. -/
theorem Reader.moment_writable {moment : Moment} (reads : Reader.moment json = .valid moment) :
    moment.IsWritable := by
  unfold Reader.moment at reads
  split at reads
  · split at reads
    · next found =>
      cases reads
      exact Moment.ofFieldText?_writable found
    · cases reads
  · split at reads
    · next found =>
      cases reads
      exact Moment.ofCount?_writable found
    · cases reads
  · split at reads
    · next found =>
      cases reads
      exact Moment.ofFraction?_writable found
    · cases reads
  · cases reads

/-- A moment that is read, or is the moment of a clock in place of an absent one, is writable. -/
theorem Row.moment_writable {now moment : Moment} (clock : now.IsWritable)
    (reads : row.withDefault name Reader.moment now = .valid moment) : moment.IsWritable := by
  rcases Row.exists_of_withDefault reads with absent | ⟨json, reads⟩
  · exact absent ▸ clock
  · exact Reader.moment_writable reads

/-- A reading gives a value without a fault exactly if it is valid. -/
theorem Checked.toExcept_eq_ok_iff {reading : Checked α} :
    reading.toExcept = .ok value ↔ reading = .valid value := by
  cases reading <;> simp [toExcept]

end Fields

section Items

/-- A fit is restored. -/
theorem FitMeta.restores (fit : FitMeta) : (Reader.record read).Restores toJson fit := by
  have demographic : fit.toJson.entries.optional "target_demographic" Reader.text =
      .valid fit.demographic := Row.optional_eq (fun _ _ => Reader.restores_text _) rfl
  have fitType : fit.toJson.entries.optional "fit_type" Reader.text = .valid fit.fitType :=
    Row.optional_eq (fun _ _ => Reader.restores_text _) rfl
  have points : fit.toJson.entries.withDefault "measurement_points" (Reader.list Reader.text) [] =
      .valid fit.measurementPoints := Row.withDefault_eq (Reader.restores_texts _) rfl
  refine ⟨nofun, ?_⟩
  change read fit.toJson.entries = .valid fit
  rw [read, demographic, fitType, points]
  rfl

/-- Vectors are restored. -/
theorem Embeddings.restores (embeddings : Embeddings) :
    (Reader.record read).Restores (fun embeddings => .obj embeddings.toRow) embeddings := by
  have style : embeddings.toRow.optional "e_style" (Reader.list Reader.float) =
      .valid embeddings.style := Row.optional_eq (fun _ _ => Reader.restores_floats _) rfl
  have fabric : embeddings.toRow.optional "e_fabric" (Reader.list Reader.float) =
      .valid embeddings.fabric := Row.optional_eq (fun _ _ => Reader.restores_floats _) rfl
  refine ⟨nofun, ?_⟩
  change read embeddings.toRow = .valid embeddings
  rw [read, style, fabric]
  rfl

/-- How a vector was made is restored. -/
theorem EmbeddingNote.restores {note : EmbeddingNote} (writable : note.embeddedAt.IsWritable) :
    (Reader.record read).Restores toJson note := by
  have embeddedAt : note.toJson.entries.required "embedded_at" Reader.moment =
      .valid note.embeddedAt := Row.required_eq (Reader.restores_moment writable) rfl
  refine ⟨nofun, ?_⟩
  change read note.toJson.entries = .valid note
  rw [read, embeddedAt]
  rfl

/-- How a vector was made can be written if it was read. -/
theorem EmbeddingNote.writable_of_read {row : Row} {note : EmbeddingNote}
    (reads : EmbeddingNote.read row = .valid note) : note.embeddedAt.IsWritable := by
  simp only [read, Checked.seq_eq_valid_iff, Checked.map_eq_valid_iff] at reads
  obtain ⟨_, _, ⟨_, _, ⟨_, _, ⟨_, _, rfl⟩, _, rfl⟩, _, rfl⟩, embeddedAt, rfl⟩ := reads
  obtain ⟨json, reads⟩ := Row.exists_of_required embeddedAt
  exact Reader.moment_writable reads

/-- What only items of one kind have, with changes put over it. -/
def Details.revised (changes : Row) : Details → Checked Details
  | .garment fit composition =>
    Details.garment
      <$> changes.withDefault "fit_meta" (Reader.nullable (Reader.record FitMeta.read)) fit
      <*> changes.withDefault "fabric_composition" (Reader.nullable Reader.text) composition
  | .fabric composition =>
    Details.fabric
      <$> changes.withDefault "fabric_composition" (Reader.nullable Reader.text) composition
  | .accessory material =>
    Details.accessory <$> changes.withDefault "material" (Reader.nullable Reader.text) material

/-- Changes put over a row that stores what only items of one kind have are read over it. -/
theorem Details.read_merge {details : Details} {row changes : Row}
    (stored : ∀ entry ∈ details.toRow, row.get? entry.1 = some entry.2) :
    Details.read (row.merge changes) details.kind = details.revised (Row.ofEntries changes) := by
  cases details with
  | garment fit composition =>
    have fitted : row.optional "fit_meta" (Reader.record FitMeta.read) = .valid fit :=
      Row.optional_eq (fun fit _ => fit.restores) (stored _ (.head _))
    have composed : row.optional "fabric_composition" Reader.text = .valid composition :=
      Row.optional_eq (fun _ _ => Reader.restores_text _) (stored _ (.tail _ (.head _)))
    rw [kind, read, Row.optional, Row.optional, Row.withDefault_merge fitted,
      Row.withDefault_merge composed, revised]
  | fabric composition =>
    have composed : row.optional "fabric_composition" Reader.text = .valid composition :=
      Row.optional_eq (fun _ _ => Reader.restores_text _) (stored _ (.head _))
    rw [kind, read, Row.optional, Row.withDefault_merge composed, revised]
  | accessory material =>
    have made : row.optional "material" Reader.text = .valid material :=
      Row.optional_eq (fun _ _ => Reader.restores_text _) (stored _ (.head _))
    rw [kind, read, Row.optional, Row.withDefault_merge made, revised]

namespace Item

/-- The moments of an item are written so that they can be read. -/
structure IsWritable (item : Item) : Prop where
  createdAt : ∀ moment ∈ item.createdAt, moment.IsWritable
  embeddedAt : ∀ note ∈ item.embeddingNote, note.embeddedAt.IsWritable

/-- A row with the name of an item's kind is read as this kind. -/
theorem kindOf?_of_stored {item : Item} {row : Row}
    (stored : row.get? "type" = some (.str item.kind.name)) : kindOf? row = some item.kind := by
  rw [kindOf?, stored]
  cases item.kind <;> decide +kernel

/-- A stored item has every entry of its kind. -/
theorem details_toStoredRow (item : Item) :
    ∀ entry ∈ item.details.toRow, item.toStoredRow.get? entry.1 = some entry.2 := by
  obtain ⟨_, _, _, _, _, _, _, _, _, _, _, _, _, details⟩ := item
  cases details with
  | garment fit composition =>
    exact List.forall_mem_cons.mpr ⟨rfl, List.forall_mem_singleton.mpr rfl⟩
  | fabric composition => exact List.forall_mem_singleton.mpr rfl
  | accessory material => exact List.forall_mem_singleton.mpr rfl

/-- A stored item has no score. -/
theorem score_toStoredRow (item : Item) : item.toStoredRow.get? "score" = none := by
  obtain ⟨_, _, _, _, _, _, _, _, _, _, _, _, _, details⟩ := item
  cases details <;> rfl

/-- An item with changes put over it: what they name is read from them, and the rest is as it was;
its id cannot be changed. -/
def revised (item : Item) (changes : Row) : Checked Item :=
  Item.mk <$> .valid item.id
    <*> changes.withDefault "name" Reader.text item.name
    <*> changes.withDefault "description" (Reader.nullable Reader.text) item.description
    <*> changes.withDefault "price" Reader.float item.price
    <*> changes.withDefault "currency" Reader.text item.currency
    <*> changes.withDefault "vendor" Reader.text item.vendor
    <*> changes.withDefault "vendor_url" (Reader.nullable Reader.text) item.vendorUrl
    <*> changes.withDefault "tags" (Reader.list Reader.text) item.tags
    <*> changes.withDefault "raw_vendor_data" Reader.row item.raw
    <*> changes.withDefault "embeddings" (Reader.nullable (Reader.record Embeddings.read))
      item.embeddings
    <*> changes.withDefault "embedding_metadata" (Reader.nullable (Reader.record EmbeddingNote.read))
      item.embeddingNote
    <*> changes.withDefault "created_at" (Reader.nullable Reader.moment) item.createdAt
    <*> changes.withDefault "score" (Reader.nullable Reader.float) item.score
    <*> item.details.revised changes

/-- Without changes an item stays as it is. -/
theorem revised_nil (item : Item) : item.revised [] = .valid item := by
  obtain ⟨_, _, _, _, _, _, _, _, _, _, _, _, _, details⟩ := item
  cases details <;> rfl

/-- Changes put over a row that holds an item are read over the item, field by field. -/
theorem readAs_merge {item : Item} (writable : item.IsWritable) {row changes : Row}
    (stored : ∀ name value, item.toStoredRow.get? name = some value → row.get? name = some value)
    (scored : row.optional "score" Reader.float = .valid item.score)
    (unnamed : "item_id" ∉ changes.map Prod.fst) :
    readAs item.kind (row.merge changes) = item.revised (Row.ofEntries changes) := by
  have id : (row.merge changes).required "item_id" Reader.text = .valid item.id :=
    (Row.required_merge unnamed).trans
      (Row.required_eq (Reader.restores_text _) (stored _ _ rfl))
  have name : row.withDefault "name" Reader.text "" = .valid item.name :=
    Row.withDefault_eq (Reader.restores_text _) (stored _ _ rfl)
  have description : row.optional "description" Reader.text = .valid item.description :=
    Row.optional_eq (fun _ _ => Reader.restores_text _) (stored _ _ rfl)
  have price : row.withDefault "price" Reader.float 0.0 = .valid item.price :=
    Row.withDefault_eq (Reader.restores_float _) (stored _ _ rfl)
  have currency : row.withDefault "currency" Reader.text "USD" = .valid item.currency :=
    Row.withDefault_eq (Reader.restores_text _) (stored _ _ rfl)
  have vendor : row.withDefault "vendor" Reader.text "" = .valid item.vendor :=
    Row.withDefault_eq (Reader.restores_text _) (stored _ _ rfl)
  have vendorUrl : row.optional "vendor_url" Reader.text = .valid item.vendorUrl :=
    Row.optional_eq (fun _ _ => Reader.restores_text _) (stored _ _ rfl)
  have tags : row.withDefault "tags" (Reader.list Reader.text) [] = .valid item.tags :=
    Row.withDefault_eq (Reader.restores_texts _) (stored _ _ rfl)
  have raw : row.withDefault "raw_vendor_data" Reader.row [] = .valid item.raw :=
    Row.withDefault_eq (Reader.restores_row _) (stored _ _ rfl)
  have embeddings : row.optional "embeddings" (Reader.record Embeddings.read) =
      .valid item.embeddings :=
    Row.optional_eq (fun embeddings _ => embeddings.restores) (stored _ _ rfl)
  have note : row.optional "embedding_metadata" (Reader.record EmbeddingNote.read) =
      .valid item.embeddingNote :=
    Row.optional_eq (fun note given =>
      EmbeddingNote.restores (writable.embeddedAt note given)) (stored _ _ rfl)
  have createdAt : row.optional "created_at" Reader.moment = .valid item.createdAt :=
    Row.optional_eq (fun moment given =>
      Reader.restores_moment (writable.createdAt moment given)) (stored _ _ rfl)
  have details : Details.read (row.merge changes) item.kind =
      item.details.revised (Row.ofEntries changes) :=
    Details.read_merge fun entry member => stored _ _ (item.details_toStoredRow entry member)
  rw [readAs, id, details, revised]
  simp only [Row.optional] at description vendorUrl embeddings note createdAt scored
  simp only [Row.optional, Row.withDefault_merge name, Row.withDefault_merge description,
    Row.withDefault_merge price, Row.withDefault_merge currency, Row.withDefault_merge vendor,
    Row.withDefault_merge vendorUrl, Row.withDefault_merge tags, Row.withDefault_merge raw,
    Row.withDefault_merge embeddings, Row.withDefault_merge note, Row.withDefault_merge createdAt,
    Row.withDefault_merge scored]

/-- A stored item is read as it was, without its score. -/
theorem parse_toStoredRow {item : Item} (writable : item.IsWritable) :
    Item.parse item.toStoredRow = .ok { item with score := none } := by
  let unscored : Item := { item with score := none }
  have kept : unscored.IsWritable := ⟨writable.createdAt, writable.embeddedAt⟩
  have reads : readAs item.kind (item.toStoredRow.merge []) = unscored.revised [] :=
    readAs_merge kept (fun _ _ stored => stored) (Row.withDefault_absent item.score_toStoredRow)
      List.not_mem_nil
  rw [parse, Checked.toExcept_eq_ok_iff, read, kindOf?_of_stored rfl]
  exact Checked.under_eq_valid_iff.mpr (reads.trans (revised_nil _))

/-- An item that is read can be written. -/
theorem writable_of_parse {row : Row} {item : Item} (parses : Item.parse row = .ok item) :
    item.IsWritable := by
  rw [parse, Checked.toExcept_eq_ok_iff, read] at parses
  split at parses
  · simp only [Checked.under_eq_valid_iff, readAs, Checked.seq_eq_valid_iff,
      Checked.map_eq_valid_iff] at parses
    -- The fields from the last one to the first; the moments are in the eleventh and the twelfth.
    obtain ⟨_, _, ⟨_, _, ⟨_, _, ⟨_, _, ⟨_, _, ⟨_, _, ⟨_, _, ⟨_, _, ⟨_, _, ⟨_, _, ⟨_, _, ⟨_, _,
      ⟨_, _, ⟨_, _, rfl⟩, _, rfl⟩, _, rfl⟩, _, rfl⟩, _, rfl⟩, _, rfl⟩, _, rfl⟩, _, rfl⟩, _, rfl⟩,
      _, rfl⟩, note, rfl⟩, createdAt, rfl⟩, _, rfl⟩, _, rfl⟩ := parses
    constructor
    · intro moment given
      obtain ⟨json, reads⟩ := Row.exists_of_optional createdAt moment given
      exact Reader.moment_writable reads
    · intro found given
      obtain ⟨json, reads⟩ := Row.exists_of_optional note found given
      obtain ⟨entries, reads⟩ := Reader.exists_of_record reads
      exact EmbeddingNote.writable_of_read reads
  · cases parses

end Item

end Items

section Events

/-- The type of an event is restored. -/
theorem EventType.restores (type : EventType) :
    EventType.read.Restores (fun type => .str type.name) type :=
  ⟨nofun, by cases type <;> rfl⟩

/-- Where an event happened is restored. -/
theorem EventContext.restores (context : EventContext) :
    (Reader.record read).Restores (fun context => .obj context.toRow) context := by
  have surface : context.toRow.optional "surface" Reader.text = .valid context.surface :=
    Row.optional_eq (fun _ _ => Reader.restores_text _) rfl
  have requestId : context.toRow.optional "request_id" Reader.text = .valid context.requestId :=
    Row.optional_eq (fun _ _ => Reader.restores_text _) rfl
  have position : context.toRow.optional "position" Reader.int = .valid context.position :=
    Row.optional_eq (fun _ _ => Reader.restores_int _) rfl
  have stream : context.toRow.optional "stream" Reader.text = .valid context.stream :=
    Row.optional_eq (fun _ _ => Reader.restores_text _) rfl
  refine ⟨nofun, ?_⟩
  change read context.toRow = .valid context
  rw [read, surface, requestId, position, stream]
  rfl

namespace EventMetadata

/-- The fields that a client adds are none of those with a meaning. -/
def HasOwnExtra (metadata : EventMetadata) : Prop :=
  ∀ entry ∈ metadata.extra, entry.1 ∉ fieldNames

/-- Of a written record, the fields without a meaning are those that the client added. -/
theorem filter_toRow {metadata : EventMetadata} (own : metadata.HasOwnExtra) :
    (metadata.toRow.filter fun entry => !fieldNames.contains entry.1) = metadata.extra := by
  rw [toRow, List.filter_append]
  have kept : (metadata.extra.filter fun entry => !fieldNames.contains entry.1) =
      metadata.extra := by
    rw [List.filter_eq_self]
    intro entry member
    simpa using own entry member
  rw [kept]
  rfl

/-- What a client added to an event is restored, with every field of its own. -/
theorem restores {metadata : EventMetadata} (own : metadata.HasOwnExtra) :
    (Reader.record read).Restores (fun metadata => .obj metadata.toRow) metadata := by
  have reasonCodes : metadata.toRow.withDefault "reason_codes" (Reader.list Reader.text) [] =
      .valid metadata.reasonCodes := Row.withDefault_eq (Reader.restores_texts _) rfl
  have seenIds : metadata.toRow.withDefault "seen_ids" (Reader.list Reader.text) [] =
      .valid metadata.seenIds := Row.withDefault_eq (Reader.restores_texts _) rfl
  have query : metadata.toRow.optional "query" Reader.text = .valid metadata.query :=
    Row.optional_eq (fun _ _ => Reader.restores_text _) rfl
  have filters : metadata.toRow.optional "filters" Reader.row = .valid metadata.filters :=
    Row.optional_eq (fun _ _ => Reader.restores_row _) rfl
  have budgetMax : metadata.toRow.optional "budget_max" Reader.float =
      .valid metadata.budgetMax := Row.optional_eq (fun _ _ => Reader.restores_float _) rfl
  have deadlineDays : metadata.toRow.optional "deadline_days" Reader.int =
      .valid metadata.deadlineDays := Row.optional_eq (fun _ _ => Reader.restores_int _) rfl
  have dwellMs : metadata.toRow.optional "dwell_ms" Reader.int = .valid metadata.dwellMs :=
    Row.optional_eq (fun _ _ => Reader.restores_int _) rfl
  refine ⟨nofun, ?_⟩
  change read metadata.toRow = .valid metadata
  rw [read, reasonCodes, seenIds, query, filters, budgetMax, deadlineDays, dwellMs,
    filter_toRow own]
  rfl

/-- What a client added is read apart from the fields with a meaning. -/
theorem ownExtra_of_read {row : Row} {metadata : EventMetadata}
    (reads : read row = .valid metadata) : metadata.HasOwnExtra := by
  simp only [read, Checked.seq_eq_valid_iff, Checked.map_eq_valid_iff] at reads
  obtain ⟨_, _, ⟨_, _, ⟨_, _, ⟨_, _, ⟨_, _, ⟨_, _, ⟨_, _, ⟨_, _, rfl⟩, _, rfl⟩, _, rfl⟩, _, rfl⟩,
    _, rfl⟩, _, rfl⟩, _, rfl⟩, extra, rfl⟩ := reads
  cases extra
  intro entry member
  simpa using (List.mem_filter.mp member).2

end EventMetadata

namespace Event

/-- An event is written so that it can be read: it has a user, fields that the client added apart
from those with a meaning, and a moment with an offset. -/
structure IsWritable (event : Event) : Prop where
  user : event.userId ≠ ""
  extra : ∀ metadata ∈ event.metadata, metadata.HasOwnExtra
  timestamp : event.timestamp.IsWritable
  zoned : event.timestamp.assumingUtc = event.timestamp

/-- A stored event is read as it was, whenever it is read. -/
theorem parse_toRow {event : Event} (writable : event.IsWritable) (later : Moment) :
    Event.parse later event.toRow = .ok event := by
  have named : Reader.nonEmptyText.Restores .str event.userId := by
    refine ⟨nofun, ?_⟩
    rw [Reader.nonEmptyText, if_neg (by simpa using writable.user)]
  have userId : event.toRow.required "user_id" Reader.nonEmptyText = .valid event.userId :=
    Row.required_eq named rfl
  have type : event.toRow.required "event_type" EventType.read = .valid event.type :=
    Row.required_eq event.type.restores rfl
  have properties : event.toRow.withDefault "properties" Reader.row [] =
      .valid event.properties := Row.withDefault_eq (Reader.restores_row _) rfl
  have context : event.toRow.optional "context" (Reader.record EventContext.read) =
      .valid event.context := Row.optional_eq (fun context _ => context.restores) rfl
  have metadata : event.toRow.optional "metadata" (Reader.record EventMetadata.read) =
      .valid event.metadata :=
    Row.optional_eq (fun metadata given =>
      EventMetadata.restores (writable.extra metadata given)) rfl
  have timestamp : event.toRow.withDefault "timestamp" Reader.moment later =
      .valid event.timestamp :=
    Row.withDefault_eq (Reader.restores_moment writable.timestamp) rfl
  rw [parse, Checked.toExcept_eq_ok_iff, read, userId, type, properties, context, metadata,
    timestamp, Checked.map, writable.zoned]
  rfl

/-- A text that is read as one with at least one character has one. -/
theorem userId_of_read {json : Json} {user : String}
    (reads : Reader.nonEmptyText json = .valid user) : user ≠ "" := by
  unfold Reader.nonEmptyText at reads
  split at reads
  · split at reads
    · cases reads
    · next filled =>
      cases reads
      simpa using filled
  · cases reads

/-- An event that is read at a moment of a clock can be written. -/
theorem writable_of_parse {now : Moment} {row : Row} {event : Event} (clock : now.IsWritable)
    (parses : Event.parse now row = .ok event) : event.IsWritable := by
  rw [parse, Checked.toExcept_eq_ok_iff, read] at parses
  simp only [Checked.seq_eq_valid_iff, Checked.map_eq_valid_iff] at parses
  obtain ⟨_, timestamp, ⟨_, metadata, ⟨_, _, ⟨_, _, ⟨_, _, ⟨user, named, rfl⟩, _, rfl⟩, _, rfl⟩, _,
    rfl⟩, described, rfl⟩, dated, rfl⟩ := parses
  obtain ⟨moment, reads, rfl⟩ := Checked.exists_of_map dated
  have writable : moment.IsWritable := Row.moment_writable clock reads
  constructor
  case user =>
    obtain ⟨json, reads⟩ := Row.exists_of_required named
    exact userId_of_read reads
  case extra =>
    intro found given
    obtain ⟨json, reads⟩ := Row.exists_of_optional described found given
    obtain ⟨entries, reads⟩ := Reader.exists_of_record reads
    exact EventMetadata.ownExtra_of_read reads
  case timestamp => exact writable.assumingUtc
  case zoned => rfl

end Event

end Events

section Profiles

namespace ProfileRecord

/-- A stored profile is read as it was, whenever it is read. -/
theorem read_toRow {profile : ProfileRecord} (writable : profile.lastUpdated.IsWritable)
    (later : Moment) : read later profile.toRow = .valid profile := by
  have userId : profile.toRow.required "user_id" Reader.text = .valid profile.userId :=
    Row.required_eq (Reader.restores_text _) rfl
  have style : profile.toRow.withDefault "u_style" (Reader.list Reader.float) [] =
      .valid profile.style := Row.withDefault_eq (Reader.restores_floats _) rfl
  have fit : profile.toRow.optional "u_fit" (Reader.list Reader.float) = .valid profile.fit :=
    Row.optional_eq (fun _ _ => Reader.restores_floats _) rfl
  have scalars : profile.toRow.withDefault "scalars" Reader.row [] = .valid profile.scalars :=
    Row.withDefault_eq (Reader.restores_row _) rfl
  have version : profile.toRow.withDefault "version" Reader.text currentVersion =
      .valid profile.version := Row.withDefault_eq (Reader.restores_text _) rfl
  have lastUpdated : profile.toRow.withDefault "last_updated" Reader.moment later =
      .valid profile.lastUpdated := Row.withDefault_eq (Reader.restores_moment writable) rfl
  rw [read, userId, style, fit, scalars, version, lastUpdated]
  rfl

/-- A profile that is read at a moment of a clock can be written. -/
theorem writable_of_read {now : Moment} {row : Row} {profile : ProfileRecord}
    (clock : now.IsWritable) (reads : read now row = .valid profile) :
    profile.lastUpdated.IsWritable := by
  simp only [read, Checked.seq_eq_valid_iff, Checked.map_eq_valid_iff] at reads
  obtain ⟨_, _, ⟨_, _, ⟨_, _, ⟨_, _, ⟨_, _, ⟨_, _, rfl⟩, _, rfl⟩, _, rfl⟩, _, rfl⟩, _, rfl⟩, dated,
    rfl⟩ := reads
  exact Row.moment_writable clock dated

end ProfileRecord

end Profiles

namespace Remote

variable {α : Type}

/-- The rows that a query writes. -/
def Query.written (query : Query) : List Json :=
  (query.clauses.filter fun clause => ["insert", "upsert"].contains clause.name).flatMap
    (·.arguments)

/-- The rows that a call writes. -/
def written (call : Call Connection Unit) : List Json :=
  (call.outcome (.start [])).2.queries.flatMap Query.written

/-- What a call reads from a database that answers its query with some rows. -/
def readFrom (call : Call Connection α) (rows : List Json) : Except Fault α :=
  (call.outcome (.start [.rows rows])).1

/-- An added item is written as its record. -/
theorem written_addItem (item : Item) : written (addItem item) = [.obj item.toStoredRow] := rfl

/-- A logged event is written as its record. -/
theorem written_logEvent (event : Event) : written (logEvent event) = [.obj event.toRow] := rfl

/-- A kept profile is written as its record. -/
theorem written_saveProfile (profile : ProfileRecord) :
    written (saveProfile profile) = [.obj profile.toRow] := rfl

/-- Listing gives the items among the rows that answer it. -/
theorem readFrom_listItems (query : CatalogQuery) (rows : List Json) :
    readFrom (listItems query) rows = .ok (itemsOf rows) := rfl

/-- Finding an item gives the first one among the rows that answer it, whatever the key is. -/
theorem readFrom_findItem (key : Key) (rows : List Json) :
    readFrom (findItem key) rows = .ok (itemsOf rows).head? := rfl

/-- The log gives the events among the rows that answer it. -/
theorem readFrom_recentEvents (later : Moment) (userId : String) (limit : Int)
    (since : Option Moment) (rows : List Json) :
    readFrom (recentEvents later userId limit since) rows = .ok (eventsOf later rows) := rfl

/-- Loading a profile gives the first of the rows that answer it, read as one. -/
theorem readFrom_loadProfile (later : Moment) (userId : String) (rows : List Json) :
    readFrom (loadProfile later userId) rows =
      firstAs (Reader.record (ProfileRecord.read later)) rows := rfl

/-- The rows written for some items read as these items, without their scores. -/
theorem itemsOf_written {items : List Item} (writable : ∀ item ∈ items, item.IsWritable) :
    itemsOf (items.flatMap fun item => written (addItem item)) =
      items.map fun item => { item with score := none } := by
  induction items with
  | nil => rfl
  | cons item rest ih =>
    obtain ⟨head, tail⟩ := List.forall_mem_cons.mp writable
    have reads : Item.parse (Json.obj item.toStoredRow).entries =
        .ok { item with score := none } := Item.parse_toStoredRow head
    rw [List.flatMap_cons, written_addItem, List.singleton_append, itemsOf, List.filterMap_cons,
      reads, List.map_cons, ← ih tail]
    rfl

/-- The rows written for some events read as these events: no row is passed over. -/
theorem eventsOf_written {events : List Event} (writable : ∀ event ∈ events, event.IsWritable)
    (later : Moment) :
    eventsOf later (events.flatMap fun event => written (logEvent event)) = events := by
  induction events with
  | nil => rfl
  | cons event rest ih =>
    obtain ⟨head, tail⟩ := List.forall_mem_cons.mp writable
    have reads : Event.parse later (Json.obj event.toRow).entries = .ok event :=
      Event.parse_toRow head later
    rw [List.flatMap_cons, written_logEvent, List.singleton_append, eventsOf, List.filterMap_cons,
      reads]
    exact congrArg (event :: ·) (ih tail)

end Remote

section Survival

open Remote

/-- Items, events and profiles are read from their stored records as they were, whenever that is,
but for the scores of items; and the tables give them back from the rows that were written to them.
-/
theorem records_survive {now : Moment} (clock : now.IsWritable) (later : Moment) :
    (∀ row item, Item.parse row = .ok item →
      Item.parse item.toStoredRow = .ok { item with score := none }) ∧
    (∀ row event, Event.parse now row = .ok event → Event.parse later event.toRow = .ok event) ∧
    (∀ profile : ProfileRecord, profile.lastUpdated.IsWritable →
      ProfileRecord.read later profile.toRow = .valid profile) ∧
    (∀ row profile, ProfileRecord.read now row = .valid profile →
      profile.lastUpdated.IsWritable) ∧
    (∀ items : List Item, (∀ item ∈ items, ∃ row, Item.parse row = .ok item) →
      let rows := items.flatMap fun item => written (addItem item)
      let unscored := items.map fun item => { item with score := none }
      (∀ query, readFrom (listItems query) rows = .ok unscored) ∧
        ∀ key, readFrom (findItem key) rows = .ok unscored.head?) ∧
    (∀ events : List Event, (∀ event ∈ events, ∃ row, Event.parse now row = .ok event) →
      ∀ userId limit since, readFrom (recentEvents later userId limit since)
        (events.flatMap fun event => written (logEvent event)) = .ok events) ∧
    ∀ profile : ProfileRecord, profile.lastUpdated.IsWritable →
      ∀ userId, readFrom (loadProfile later userId) (written (saveProfile profile)) =
        .ok (some profile) := by
  refine ⟨fun row item parses => ?item, fun row event parses => ?event,
    fun profile writable => profile.read_toRow writable later,
    fun row profile reads => ProfileRecord.writable_of_read clock reads,
    fun items parsed => ?items, fun events parsed userId limit since => ?events,
    fun profile writable userId => ?profile⟩
  case item => exact Item.parse_toStoredRow (Item.writable_of_parse parses)
  case event => exact Event.parse_toRow (Event.writable_of_parse clock parses) later
  case items =>
    have found := itemsOf_written fun item member =>
      have ⟨_, parses⟩ := parsed item member
      Item.writable_of_parse parses
    exact ⟨fun query => by rw [readFrom_listItems, found],
      fun key => by rw [readFrom_findItem, found]⟩
  case events =>
    rw [readFrom_recentEvents, eventsOf_written fun event member =>
      have ⟨_, parses⟩ := parsed event member
      Event.writable_of_parse clock parses]
  case profile =>
    have reads : Reader.record (ProfileRecord.read later) (.obj profile.toRow) = .valid profile :=
      profile.read_toRow writable later
    rw [readFrom_loadProfile, written_saveProfile, firstAs, reads]
    rfl

end Survival

section Sample

/-- The row of a garment with a fit, a vendor's row and a moment of its own. -/
def sampleItemRow : Row :=
  [("item_id", .str "g1"), ("name", .str "Jacket"), ("price", .float 120.5),
    ("raw_vendor_data", .obj [("inventory_quantity", .int 3)]),
    ("fit_meta", .obj [("fit_type", .str "slim")]),
    ("created_at", .str "2024-05-06 07:08:09.5+05:30"), ("score", .float 0.5)]

/-- The row of an event with a field that only its client knows and without a moment. -/
def sampleEventRow : Row :=
  [("user_id", .str "u1"), ("event_type", .str "PURCHASE"),
    ("properties", .obj [("itemId", .str "g1")]),
    ("metadata", .obj [("dwell_ms", .int 900), ("campaign", .arr [.str "spring", .null])])]

/-- The moment of a clock. -/
def sampleClock : Moment := ⟨63850000000123456, some 0⟩

/-- A profile that is computed at that moment. -/
def sampleProfile : ProfileRecord :=
  Profile.toRecord ⟨2, sampleClock⟩ "u1" (some [0.5, 0.25]) none (some "slim")

/-- An item, an event and a profile are read back. -/
theorem records_survive_sample :
    ∃ item event, Item.parse sampleItemRow = .ok item ∧
      Event.parse sampleClock sampleEventRow = .ok event ∧
      Item.parse item.toStoredRow = .ok { item with score := none } ∧
      Event.parse default event.toRow = .ok event ∧
      ProfileRecord.read default sampleProfile.toRow = .valid sampleProfile := by
  obtain ⟨item, parsed⟩ := Call.ok_of_isSome
    (show (Item.parse sampleItemRow).toOption.isSome = true by decide +kernel)
  obtain ⟨event, given⟩ := Call.ok_of_isSome
    (show (Event.parse sampleClock sampleEventRow).toOption.isSome = true by decide +kernel)
  have clock : sampleClock.IsWritable := by
    refine ⟨by decide, by decide, ?_, ?_⟩ <;> simp [sampleClock]
  obtain ⟨items, events, profiles, -⟩ := records_survive clock default
  exact ⟨item, event, parsed, given, items _ item parsed, events _ event given,
    profiles sampleProfile clock⟩

end Sample

end Storefront
