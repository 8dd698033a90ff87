import Storefront.Http.Service
import Storefront.Proofs.Records
/-!
# Batches of vendor rows

A row of a batch is accepted, or it is left out because it has no identifier or no name, or it stops
the whole batch. What stops a batch is known from the row alone: a price that is a whole number
beyond the largest float, or a text of the item for which the row holds something that is no text.
A batch without such rows imports the items of exactly the rows that are accepted by themselves, and
its report counts every row once.
-/

namespace Storefront

section Readings

variable {α : Type} {row : Row} {name : String} {value : Json} {read : Reader α} {default : α}

/-- A part reads exactly if it does so by itself. -/
theorem Checked.under_reads_iff {step : Step} {reading : Checked α} :
    (reading.under step).Reads ↔ reading.Reads := exists_congr fun _ => under_eq_valid_iff

/-- A stored field with a default reads exactly if its value does. -/
theorem Row.withDefault_reads_iff (stored : row.get? name = some value) :
    (row.withDefault name read default).Reads ↔ (read value).Reads := by
  rw [withDefault, stored]
  exact Checked.under_reads_iff

/-- A field that is not stored reads. -/
theorem Row.optional_reads (absent : row.get? name = none) : (row.optional name read).Reads :=
  ⟨none, Row.withDefault_absent absent⟩

end Readings

namespace Json

/-- A value is a text. -/
def IsText (value : Json) : Prop := ∃ text, value = .str text

/-- A value is a text, or there is none. -/
def MayBeText (value : Json) : Prop := value ≠ .null → value.IsText

/-- A value is no whole number beyond the largest float. -/
def IsWithinFloats (value : Json) : Prop :=
  ∀ n, value = .int n → (Decimal.nearestFloat? n).isSome = true

end Json

/-- A stored field for a text that may be null reads exactly if its value may be a text. -/
theorem Row.optional_text_reads_iff {row : Row} {name : String} {value : Json}
    (stored : row.get? name = some value) :
    (row.optional name Reader.text).Reads ↔ value.MayBeText :=
  (Row.optional_reads_iff stored).trans (imp_congr_right fun _ => Reader.text_reads_iff)

namespace Listing

namespace Shape

/-- The column of a shape that holds the price. -/
def priceColumn : Shape → String
  | .export => "Variant_Price"
  | .service => "cost"
  | .common => "price"

/-- What a row of a shape says its identifier is. -/
def identifier : Shape → Row → Json
  | .export, raw => firstGiven raw ["Variant_SKU", "Handle"]
  | .service, raw => column raw "id"
  | .common, raw => firstGiven raw ["id", "sku", "code"]

/-- What a row of a shape says its name is. -/
def title : Shape → Row → Json
  | .export, raw => column raw "Title"
  | .service, raw => column raw "productName"
  | .common, raw => firstGiven raw ["name", "title"]

/-- What a row of a shape says its description is. -/
def description : Shape → Row → Json
  | .export, raw => column raw "Body_HTML"
  | .service, raw => column raw "details"
  | .common, raw => column raw "description"

/-- What a row of a shape says its currency is. -/
def currency : Shape → Row → Json
  | .export, _ => .str "USD"
  | .service, raw => givenOr raw "currencyCode" "EUR"
  | .common, raw => givenOr raw "currency" "USD"

/-- The kind of item that a row of a shape is about. -/
def kind : Shape → Row → Kind
  | .service, raw => kindOfCategory (column raw "category")
  | _, _ => .garment

/-- What a row of a shape holds for the texts of its kind is text, or missing. -/
def HasOwnTexts : Shape → Row → Prop
  | .export, raw => (givenOr raw "Option1 Value" "regular").MayBeText
  | .service, raw =>
    match kindOfCategory (column raw "category") with
    | .garment => (column raw "fit").MayBeText ∧ (column raw "gender").MayBeText
    | .accessory => (column raw "materialInfo").MayBeText
    | .fabric => True
  | .common, _ => True

/-- What a row of a shape holds for the texts of its item is text. Only what an item can do without
may be missing. -/
def HasTexts (shape : Shape) (raw : Row) : Prop :=
  (shape.title raw).IsText ∧ (shape.description raw).MayBeText ∧ (shape.currency raw).IsText ∧
    shape.HasOwnTexts raw

end Shape

/-- A row cannot stop a batch: its price is within the floats, and if it has an identifier and a
name, it holds text where its item needs text. -/
def IsHarmless (source : String) (raw : Row) : Prop :=
  (column raw (Shape.ofSource source).priceColumn).IsWithinFloats ∧
    (((Shape.ofSource source).identifier raw).isTruthy = true →
      ((Shape.ofSource source).title raw).isTruthy = true → (Shape.ofSource source).HasTexts raw)

/-- Only a whole number beyond the largest float is read as none for that reason. -/
theorem toFloat_eq_beyondFloats_iff {value : Json} :
    value.toFloat = .error .beyondFloats ↔ ¬ value.IsWithinFloats := by
  cases value with
  | int n =>
    cases near : Decimal.nearestFloat? n <;> simp [Json.toFloat, Json.IsWithinFloats, near]
  | str text =>
    cases read : Numeral.freeFloat? text <;> simp [Json.toFloat, Json.IsWithinFloats, read]
  | _ => simp [Json.toFloat, Json.IsWithinFloats]

/-- A price is read unless it is a whole number beyond the largest float. -/
theorem price_cases (value : Json) :
    (value.IsWithinFloats ∧ ∃ amount, price value = .ok amount) ∨
      (¬ value.IsWithinFloats ∧ price value = .error .beyondFloats) := by
  by_cases beyond : value.toFloat = .error .beyondFloats
  · refine .inr ⟨toFloat_eq_beyondFloats_iff.mp beyond, ?_⟩
    unfold price
    split
    · cases beyond
    · cases beyond
    · rw [beyond]
  · refine .inl ⟨Classical.not_not.mp fun outside =>
      beyond (toFloat_eq_beyondFloats_iff.mpr outside), ?_⟩
    unfold price
    split
    · exact ⟨0.0, rfl⟩
    · exact ⟨0.0, rfl⟩
    · split
      · next amount _ => exact ⟨amount, rfl⟩
      · next outside => exact absurd outside beyond
      · exact ⟨0.0, rfl⟩

section Drafts

/-- What the drafts of a shape have beyond what all drafts share. -/
def Shape.own : Shape → Row → Row
  | .export, raw =>
    [("tags", Json.ofTexts (tags (column raw "Tags"))),
      ("fit_meta", .obj [("fit_type", givenOr raw "Option1 Value" "regular"),
        ("target_demographic", .str "unisex")])]
  | .service, raw =>
    ("tags", Json.ofTexts (tags (column raw "keywords"))) ::
      match kindOfCategory (column raw "category") with
      | .garment =>
        [("fit_meta", .obj [("fit_type", column raw "fit"),
          ("target_demographic", column raw "gender")])]
      | .accessory => [("material", column raw "materialInfo")]
      | .fabric => []
  | .common, _ => []

/-- The draft of a row of a shape with a price. -/
def Shape.drafted (shape : Shape) (raw : Row) (amount : Float) : Row :=
  [("item_id", shape.identifier raw), ("name", shape.title raw),
    ("description", shape.description raw), ("price", .float amount),
    ("currency", shape.currency raw), ("type", .str (shape.kind raw).name)] ++ shape.own raw

/-- A row has a draft exactly if its price is read. -/
theorem draft_eq (shape : Shape) (raw : Row) :
    draft shape raw = (price (column raw shape.priceColumn)).map (shape.drafted raw) := by
  cases shape <;> rfl

/-- A draft with what an import attaches to it. -/
def attached (draft : Row) (id vendor : String) (raw : Row) : Row :=
  ((draft.put "item_id" (.str id)).put "vendor" (.str vendor)).put "raw_vendor_data" (.obj raw)

/-- A row has what every attached draft has, with these values for its texts. -/
structure IsAttached (row : Row) (kind : Kind) (name description currency : Json) : Prop where
  type : row.get? "type" = some (.str kind.name)
  id : ∃ id, row.get? "item_id" = some (.str id)
  name : row.get? "name" = some name
  description : row.get? "description" = some description
  price : ∃ amount, row.get? "price" = some (.float amount)
  currency : row.get? "currency" = some currency
  vendor : ∃ vendor, row.get? "vendor" = some (.str vendor)
  tags : row.get? "tags" = none ∨ ∃ texts, row.get? "tags" = some (Json.ofTexts texts)
  raw : ∃ raw, row.get? "raw_vendor_data" = some (.obj raw)
  unlinked : row.get? "vendor_url" = none
  unembedded : row.get? "embeddings" = none
  unnoted : row.get? "embedding_metadata" = none
  undated : row.get? "created_at" = none
  unscored : row.get? "score" = none

/-- What is attached to a draft leaves its other fields as they are. -/
theorem attached_get? {draft : Row} {id vendor field : String} {raw : Row}
    (other : field ∉ ["item_id", "vendor", "raw_vendor_data"]) :
    (attached draft id vendor raw).get? field = draft.get? field := by
  obtain ⟨notId, notVendor, notRaw⟩ : field ≠ "item_id" ∧ field ≠ "vendor" ∧
      field ≠ "raw_vendor_data" := by simpa using other
  rw [attached, Row.get?_put_of_ne _ _ notRaw, Row.get?_put_of_ne _ _ notVendor,
    Row.get?_put_of_ne _ _ notId]

/-- No draft has a field that vendors do not fill in. -/
theorem drafted_lacks (shape : Shape) (raw : Row) (amount : Float) {field : String}
    (unfilled : field ∈
      ["vendor_url", "embeddings", "embedding_metadata", "created_at", "score"]) :
    (shape.drafted raw amount).get? field = none := by
  simp only [List.mem_cons, List.not_mem_nil, or_false] at unfilled
  cases shape with
  | service =>
    simp only [Shape.drafted, Shape.own]
    cases kindOfCategory (column raw "category") <;>
      rcases unfilled with rfl | rfl | rfl | rfl | rfl <;> rfl
  | _ => rcases unfilled with rfl | rfl | rfl | rfl | rfl <;> rfl

/-- The draft of a row has what every draft has. -/
theorem drafted_isAttached (shape : Shape) (raw : Row) (amount : Float) (id vendor : String) :
    IsAttached (attached (shape.drafted raw amount) id vendor raw) (shape.kind raw)
      (shape.title raw) (shape.description raw) (shape.currency raw) where
  type := (attached_get? (by decide)).trans rfl
  id := by
    refine ⟨id, ?_⟩
    rw [attached, Row.get?_put_of_ne _ _ (by decide), Row.get?_put_of_ne _ _ (by decide),
      Row.get?_put]
  name := (attached_get? (by decide)).trans rfl
  description := (attached_get? (by decide)).trans rfl
  price := ⟨amount, (attached_get? (by decide)).trans rfl⟩
  currency := (attached_get? (by decide)).trans rfl
  vendor := by
    refine ⟨vendor, ?_⟩
    rw [attached, Row.get?_put_of_ne _ _ (by decide), Row.get?_put]
  tags := by
    rw [attached_get? (by decide)]
    cases shape with
    | common => exact .inl rfl
    | _ => exact .inr ⟨_, rfl⟩
  raw := ⟨raw, Row.get?_put _ _ _⟩
  unlinked := (attached_get? (by decide)).trans (drafted_lacks shape raw amount (by decide))
  unembedded := (attached_get? (by decide)).trans (drafted_lacks shape raw amount (by decide))
  unnoted := (attached_get? (by decide)).trans (drafted_lacks shape raw amount (by decide))
  undated := (attached_get? (by decide)).trans (drafted_lacks shape raw amount (by decide))
  unscored := (attached_get? (by decide)).trans (drafted_lacks shape raw amount (by decide))

/-- An attached draft reads as an item exactly if its texts are texts and what its kind has of its
own reads. -/
theorem IsAttached.reads_iff {row : Row} {kind : Kind} {name description currency : Json}
    (isAttached : IsAttached row kind name description currency) :
    (Item.read row).Reads ↔ name.IsText ∧ description.MayBeText ∧ currency.IsText ∧
      (Details.read row kind).Reads := by
  obtain ⟨id, stored⟩ := isAttached.id
  obtain ⟨amount, priced⟩ := isAttached.price
  obtain ⟨vendor, sold⟩ := isAttached.vendor
  obtain ⟨raw, kept⟩ := isAttached.raw
  have known : Item.kindOf? row = some kind := by
    rw [Item.kindOf?, isAttached.type]
    cases kind <;> decide +kernel
  have identified : (row.required "item_id" Reader.text).Reads :=
    ⟨id, Row.required_eq (Reader.restores_text id) stored⟩
  have named : (row.withDefault "name" Reader.text "").Reads ↔ name.IsText :=
    (Row.withDefault_reads_iff isAttached.name).trans Reader.text_reads_iff
  have described : (row.optional "description" Reader.text).Reads ↔ description.MayBeText :=
    Row.optional_text_reads_iff isAttached.description
  have valued : (row.withDefault "price" Reader.float 0.0).Reads :=
    ⟨amount, Row.withDefault_eq (Reader.restores_float amount) priced⟩
  have paid : (row.withDefault "currency" Reader.text "USD").Reads ↔ currency.IsText :=
    (Row.withDefault_reads_iff isAttached.currency).trans Reader.text_reads_iff
  have offered : (row.withDefault "vendor" Reader.text "").Reads :=
    ⟨vendor, Row.withDefault_eq (Reader.restores_text vendor) sold⟩
  have tagged : (row.withDefault "tags" (Reader.list Reader.text) []).Reads := by
    rcases isAttached.tags with absent | ⟨texts, stored⟩
    · exact ⟨[], Row.withDefault_absent absent⟩
    · exact ⟨texts, Row.withDefault_eq (Reader.restores_texts texts) stored⟩
  have remembered : (row.withDefault "raw_vendor_data" Reader.row []).Reads :=
    ⟨raw, Row.withDefault_eq (Reader.restores_row raw) kept⟩
  -- Only the three texts and the details are open; every other field reads whatever the row is.
  rw [Item.read, known]
  simp only [Checked.under_reads_iff, Item.readAs, Checked.seq_reads_iff, Checked.map_reads_iff,
    identified, named, described, valued, paid, offered, tagged, remembered,
    Row.optional_reads isAttached.unlinked, Row.optional_reads isAttached.unembedded,
    Row.optional_reads isAttached.unnoted, Row.optional_reads isAttached.undated,
    Row.optional_reads isAttached.unscored, true_and, and_true, and_assoc]

/-- A garment without anything of its own reads. -/
theorem garment_reads {row : Row} (unfitted : row.get? "fit_meta" = none)
    (absent : row.get? "fabric_composition" = none) : (Details.read row .garment).Reads := by
  simp only [Details.read, Checked.seq_reads_iff, Checked.map_reads_iff,
    Row.optional_reads unfitted, Row.optional_reads absent, and_self]

/-- A fabric without a composition reads. -/
theorem fabric_reads {row : Row} (absent : row.get? "fabric_composition" = none) :
    (Details.read row .fabric).Reads := Checked.map_reads_iff.mpr (Row.optional_reads absent)

/-- An accessory reads exactly if its material may be a text. -/
theorem accessory_reads_iff {row : Row} {material : Json}
    (stored : row.get? "material" = some material) :
    (Details.read row .accessory).Reads ↔ material.MayBeText :=
  Checked.map_reads_iff.trans (Row.optional_text_reads_iff stored)

/-- A garment without a composition reads exactly if the texts of its fit may be texts. -/
theorem garment_reads_iff {row : Row} {demographic fitType : Json}
    (stored : row.get? "fit_meta" =
      some (.obj [("fit_type", fitType), ("target_demographic", demographic)]))
    (absent : row.get? "fabric_composition" = none) :
    (Details.read row .garment).Reads ↔ fitType.MayBeText ∧ demographic.MayBeText := by
  let fit : Row := [("fit_type", fitType), ("target_demographic", demographic)]
  have composed : (row.optional "fabric_composition" Reader.text).Reads := Row.optional_reads absent
  have fitted : (row.optional "fit_meta" (Reader.record FitMeta.read)).Reads ↔
      (FitMeta.read fit).Reads :=
    (Row.optional_reads_iff stored).trans ⟨fun reads => reads nofun, fun reads _ => reads⟩
  have shaped : (fit.optional "fit_type" Reader.text).Reads ↔ fitType.MayBeText :=
    Row.optional_text_reads_iff rfl
  have meant : (fit.optional "target_demographic" Reader.text).Reads ↔ demographic.MayBeText :=
    Row.optional_text_reads_iff rfl
  have unmeasured : (fit.withDefault "measurement_points" (Reader.list Reader.text) []).Reads :=
    ⟨[], Row.withDefault_absent rfl⟩
  simp only [Details.read, FitMeta.read, Checked.seq_reads_iff, Checked.map_reads_iff, composed,
    fitted, shaped, meant, unmeasured, and_true]
  exact and_comm

/-- The attached draft of a row reads as an item exactly if the row has texts. -/
theorem drafted_reads_iff (shape : Shape) (raw : Row) (amount : Float) (id vendor : String) :
    (Item.read (attached (shape.drafted raw amount) id vendor raw)).Reads ↔
      shape.HasTexts raw := by
  rw [(drafted_isAttached shape raw amount id vendor).reads_iff, Shape.HasTexts]
  refine and_congr_right' (and_congr_right' (and_congr_right' ?_))
  cases shape with
  | «export» =>
    refine (garment_reads_iff rfl rfl).trans ?_
    simp [Shape.HasOwnTexts, Json.IsText, Json.MayBeText]
  | common => exact iff_true_intro (garment_reads rfl rfl)
  | service =>
    simp only [Shape.kind, Shape.drafted, Shape.own, Shape.HasOwnTexts]
    cases kindOfCategory (column raw "category") with
    | garment => exact garment_reads_iff rfl rfl
    | fabric => exact iff_true_intro (fabric_reads rfl)
    | accessory => exact accessory_reads_iff rfl

end Drafts

section Rows

variable {source : String} {vendor : Option String} {raw : Row}

/-- A fault of a row that is not about what every listing needs. -/
def IsUnforeseen (fault : Fault) : Prop :=
  fault = .beyondFloats ∨ ∃ issues, fault = .invalid issues

/-- A row reads as an item or has issues. -/
theorem parse_cases (row : Row) :
    ((Item.read row).Reads ∧ ∃ item, Item.parse row = .ok item) ∨
      (¬ (Item.read row).Reads ∧ ∃ issues, Item.parse row = .error (.invalid issues)) := by
  unfold Item.parse
  cases Item.read row with
  | valid item => exact .inl ⟨⟨item, rfl⟩, item, rfl⟩
  | invalid issues =>
    refine .inr ⟨?_, issues, rfl⟩
    rintro ⟨item, reads⟩
    cases reads

/-- A harmless row is accepted or left out; every other row has a fault that nothing foresees. -/
theorem normalize_cases (source : String) (vendor : Option String) (raw : Row) :
    (IsHarmless source raw ∧ ((∃ item, normalize raw source vendor = .ok item) ∨
      ∃ gap, normalize raw source vendor = .error (.rejectedListing gap))) ∨
    (¬ IsHarmless source raw ∧
      ∃ fault, IsUnforeseen fault ∧ normalize raw source vendor = .error fault) := by
  unfold IsHarmless normalize
  generalize Shape.ofSource source = shape
  rcases price_cases (column raw shape.priceColumn) with ⟨within, amount, read⟩ | ⟨outside, beyond⟩
  case inr =>
    refine .inr ⟨fun harmless => outside harmless.1, .beyondFloats, .inl rfl, ?_⟩
    rw [draft_eq, beyond]
    rfl
  rw [draft_eq, read]
  -- There is a draft: what is left are the two gaps that are foreseen, and reading the item.
  have id : column (shape.drafted raw amount) "item_id" = shape.identifier raw := rfl
  have name : column (shape.drafted raw amount) "name" = shape.title raw := rfl
  by_cases identified : (shape.identifier raw).isTruthy = true
  case neg =>
    refine .inl ⟨⟨within, fun given => absurd given identified⟩, .inr ⟨.noIdentifier, ?_⟩⟩
    simp [Except.map, bind, Except.bind, id, identified]
  by_cases named : (shape.title raw).isTruthy = true
  case neg =>
    refine .inl ⟨⟨within, fun _ given => absurd given named⟩, .inr ⟨.noName, ?_⟩⟩
    simp [Except.map, bind, Except.bind, id, name, identified, named]
  let row := attached (shape.drafted raw amount) (shape.identifier raw).plainText
    (vendorOf source vendor) raw
  have reads : (Item.read row).Reads ↔ shape.HasTexts raw := drafted_reads_iff shape raw amount _ _
  simp only [Except.map, bind, Except.bind, id, name, identified, named]
  rcases parse_cases row with ⟨isItem, accepted⟩ | ⟨isNone, issues, invalid⟩
  · exact .inl ⟨⟨within, fun _ _ => reads.mp isItem⟩, .inl accepted⟩
  · refine .inr ⟨fun harmless => isNone ?_, .invalid issues, .inr ⟨issues, rfl⟩, invalid⟩
    exact reads.mpr (harmless.2 trivial trivial)

/-- The items of the rows that are accepted by themselves, in the order of the rows. -/
def accepted (source : String) (vendor : Option String) (rows : List Row) : List Item :=
  rows.filterMap fun raw => (normalize raw source vendor).toOption

/-- A row is accepted by itself. -/
def isAccepted (source : String) (vendor : Option String) (raw : Row) : Bool :=
  (normalize raw source vendor).toOption.isSome

/-- A batch stops at its first row that is not harmless, with the fault of that row. -/
def StopsAt (source : String) (vendor : Option String) (rows : List Row) (fault : Fault) : Prop :=
  ∃ before raw after, rows = before ++ raw :: after ∧ (∀ row ∈ before, IsHarmless source row) ∧
    ¬ IsHarmless source raw ∧ IsUnforeseen fault ∧ normalize raw source vendor = .error fault

/-- A harmless row does not change where a batch stops. -/
theorem StopsAt.cons {rows : List Row} {fault : Fault} (harmless : IsHarmless source raw)
    (stops : StopsAt source vendor rows fault) : StopsAt source vendor (raw :: rows) fault := by
  obtain ⟨before, harmful, after, rfl, each, rest⟩ := stops
  exact ⟨raw :: before, harmful, after, rfl, List.forall_mem_cons.mpr ⟨harmless, each⟩, rest⟩

/-- A batch that stops has a row that is not harmless. -/
theorem StopsAt.not_harmless {rows : List Row} {fault : Fault}
    (stops : StopsAt source vendor rows fault) : ¬ ∀ row ∈ rows, IsHarmless source row := by
  obtain ⟨before, harmful, after, rfl, -, isHarmful, -⟩ := stops
  exact fun each => isHarmful (each harmful (List.mem_append_right _ List.mem_cons_self))

/-- A batch of harmless rows gives the items of its accepted rows, and every other one stops. -/
theorem normalizeAll_cases (source : String) (vendor : Option String) (rows : List Row) :
    ((∀ raw ∈ rows, IsHarmless source raw) ∧
      normalizeAll source vendor rows = .ok (accepted source vendor rows)) ∨
    ∃ fault, StopsAt source vendor rows fault ∧
      normalizeAll source vendor rows = .error fault := by
  induction rows with
  | nil => exact .inl ⟨nofun, rfl⟩
  | cons raw rest ih =>
    rcases normalize_cases source vendor raw with
      ⟨harmless, normalized⟩ | ⟨harmful, fault, unforeseen, fails⟩
    case inr =>
      refine .inr ⟨fault, ⟨[], raw, rest, rfl, nofun, harmful, unforeseen, fails⟩, ?_⟩
      rcases unforeseen with rfl | ⟨issues, rfl⟩ <;> rw [normalizeAll, fails]
    rcases ih with ⟨each, gives⟩ | ⟨fault, stops, fails⟩
    · refine .inl ⟨List.forall_mem_cons.mpr ⟨harmless, each⟩, ?_⟩
      rcases normalized with ⟨item, given⟩ | ⟨gap, lacking⟩
      · simp [normalizeAll, given, gives, accepted, Except.map, Except.toOption]
      · simp [normalizeAll, lacking, gives, accepted, Except.toOption]
    · refine .inr ⟨fault, stops.cons harmless, ?_⟩
      rcases normalized with ⟨item, given⟩ | ⟨gap, lacking⟩
      · rw [normalizeAll, given, fails]
        rfl
      · rw [normalizeAll, lacking, fails]

/-- Every row of a batch is accepted or not. -/
theorem accepted_length (source : String) (vendor : Option String) (rows : List Row) :
    (accepted source vendor rows).length = rows.countP (isAccepted source vendor) :=
  List.length_filterMap_eq_countP

end Rows

end Listing

namespace Http

open Listing

/-- The report on a batch that was imported. -/
def importReport (accepted rejected : Int) (ids : List String) : Response :=
  .json 201 (.obj [("accepted", .int accepted), ("rejected", .int rejected),
    ("item_ids", Json.ofTexts ids)])

/-- An import of a batch that gives items is reported if the store takes all of them. -/
theorem importListings_outcome {σ : Type} (service : Service σ) {request : ImportRequest}
    {items : List Item}
    (given : normalizeAll request.source request.vendor request.rows = .ok items) (state : σ) :
    (service.importListings request).outcome state =
      match (Service.addItems service.feeds.world items).outcome state with
      | (.ok _, changed) =>
        (.ok (importReport items.length (request.rows.length - items.length)
          (items.map (·.id))), changed)
      | (.error _, changed) => (.ok (.detail 503 "Catalog store unavailable"), changed) := by
  simp only [Service.importListings, given, Call.outcome_bind, Call.outcome_ofExcept,
    Call.outcome_attempt]
  rcases (Service.addItems service.feeds.world items).outcome state with
    ⟨fault | answer, changed⟩ <;> rfl

/-- A batch gives items exactly if all its rows are harmless: those of the rows that are accepted by
themselves, in the order of the rows. Its report counts every row once, as accepted or as rejected.
Every other batch stops at its first harmful row with the fault of that row, which is no refusal of
the request, and leaves the store as it was. -/
theorem batch_imports_iff (source : String) (vendor : Option String) (rows : List Row) :
    ((∃ items, normalizeAll source vendor rows = .ok items) ↔
      ∀ raw ∈ rows, IsHarmless source raw) ∧
    (∀ items, normalizeAll source vendor rows = .ok items →
      items = accepted source vendor rows ∧
      ∃ taken left : Nat, taken = rows.countP (isAccepted source vendor) ∧
        taken + left = rows.length ∧
        ∀ {σ : Type} (service : Service σ) (state : σ),
          ((service.importListings ⟨source, vendor, rows⟩).outcome state).1 =
            match ((Service.addItems service.feeds.world items).outcome state).1 with
            | .ok _ => .ok (importReport taken left (items.map (·.id)))
            | .error _ => .ok (.detail 503 "Catalog store unavailable")) ∧
    ∀ fault, normalizeAll source vendor rows = .error fault →
      StopsAt source vendor rows fault ∧ Response.ofFault fault = .failure ∧
      ∀ {σ : Type} (service : Service σ) (state : σ),
        (service.importListings ⟨source, vendor, rows⟩).outcome state = (.error fault, state) := by
  have cases := normalizeAll_cases source vendor rows
  refine ⟨⟨?_, ?_⟩, ?_, ?_⟩
  · rintro ⟨items, given⟩
    rcases cases with ⟨each, -⟩ | ⟨fault, -, fails⟩
    · exact each
    · rw [given] at fails
      cases fails
  · intro each
    rcases cases with ⟨-, gives⟩ | ⟨fault, stops, -⟩
    · exact ⟨_, gives⟩
    · exact absurd each stops.not_harmless
  · intro items given
    have same : items = accepted source vendor rows := by
      rcases cases with ⟨-, gives⟩ | ⟨fault, -, fails⟩
      · rw [given] at gives
        exact Except.ok.inj gives
      · rw [given] at fails
        cases fails
    have taken : items.length = rows.countP (isAccepted source vendor) :=
      same ▸ accepted_length source vendor rows
    have atMost : items.length ≤ rows.length := taken ▸ List.countP_le_length
    refine ⟨same, items.length, rows.length - items.length, taken, by omega,
      fun service state => ?_⟩
    rw [importListings_outcome service given, Int.natCast_sub atMost]
    rcases (Service.addItems service.feeds.world items).outcome state with
      ⟨fault | answer, changed⟩ <;> rfl
  · intro fault fails
    rcases cases with ⟨-, gives⟩ | ⟨other, stops, stopped⟩
    · rw [fails] at gives
      cases gives
    · rw [fails] at stopped
      cases stopped
      refine ⟨stops, ?_, fun service state => ?_⟩
      · obtain ⟨-, -, -, -, -, -, rfl | ⟨issues, rfl⟩, -⟩ := stops <;> rfl
      · rw [Service.importListings, fails, Call.outcome_bind, Call.outcome_ofExcept]

/-- Three rows of a vendor: the second one has no name. -/
def sampleRows : List Row :=
  [[("id", .str "1"), ("name", .str "One")], [("id", .str "2")],
    [("id", .str "2"), ("name", .str "Two")]]

/-- A batch of harmless rows imports the items of two of them and counts the third one as
rejected. -/
theorem batch_imports_iff_sample :
    (∀ raw ∈ sampleRows, IsHarmless "etsy" raw) ∧
      ∃ items, normalizeAll "etsy" none sampleRows = .ok items ∧ items.map (·.id) = ["1", "2"] ∧
        ∀ {σ : Type} (service : Service σ) (state : σ),
          ((Service.addItems service.feeds.world items).outcome state).1 = .ok () →
          ((service.importListings ⟨"etsy", none, sampleRows⟩).outcome state).1 =
            .ok (importReport 2 1 ["1", "2"]) := by
  have common : Shape.ofSource "etsy" = .common := by decide +kernel
  have harmless : ∀ raw ∈ sampleRows, IsHarmless "etsy" raw := by
    simp [sampleRows, IsHarmless, common, Shape.priceColumn, Shape.identifier, Shape.title,
      Shape.description, Shape.currency, Shape.HasTexts, Shape.HasOwnTexts, firstGiven, givenOr,
      column, Row.get?, List.lookup_cons, Json.IsWithinFloats, Json.IsText, Json.MayBeText,
      Json.isTruthy]
  obtain ⟨items, given⟩ := (batch_imports_iff "etsy" none sampleRows).1.mpr harmless
  obtain ⟨same, taken, left, counted, total, reports⟩ :=
    (batch_imports_iff "etsy" none sampleRows).2.1 items given
  have ids : items.map (·.id) = ["1", "2"] := by
    rw [same]
    decide +kernel
  have two : taken = 2 := counted.trans (by decide +kernel)
  have one : left = 1 := by
    have three : taken + left = 3 := total
    omega
  refine ⟨harmless, items, given, ids, fun service state stores => ?_⟩
  rw [reports service state, stores, two, one, ids]
  rfl

/-- Two rows of a vendor, of which the first one has a number for its name. -/
def unreadRows : List Row :=
  [[("id", .str "1"), ("name", .int 5)], [("id", .str "2"), ("name", .str "Two")]]

/-- A row with a number for its name stops its batch and fails the request, although the other row
is accepted by itself. -/
theorem unread_name_stops_batch :
    (accepted "etsy" none unreadRows).map (·.id) = ["2"] ∧
      ∃ fault, normalizeAll "etsy" none unreadRows = .error fault ∧
        Response.ofFault fault = .failure := by
  have stopped : (normalizeAll "etsy" none unreadRows).map (fun _ => ()) =
      .error (.invalid [⟨[.field "garment", .field "name"], .stringType⟩]) := by
    decide +kernel
  refine ⟨by decide +kernel, .invalid [⟨[.field "garment", .field "name"], .stringType⟩], ?_, rfl⟩
  cases result : normalizeAll "etsy" none unreadRows with
  | ok items =>
    rw [result] at stopped
    cases stopped
  | error fault =>
    rw [result] at stopped
    cases stopped
    rfl

end Http

end Storefront
