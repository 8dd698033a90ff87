import Storefront.Proofs.Records
import Storefront.Proofs.Retrieval
import Storefront.Proofs.Upserts
/-!
# Changes of the catalog

A catalog changes by adding items and by putting changes over an item that is there. Whatever is
tried, in whatever order, every item is found under its own id, no id occurs twice, and the items
stand in the order in which their ids first arrived. Changes are put over the record of an item,
which is then read again as a whole; since an item is read back from its record as it was, this
changes the named fields of that item and nothing else, or fails and changes nothing.
-/

namespace Storefront

namespace Table

variable {α : Type} {key : α → String} {table : Table α}

/-- Storing a value adds its key at the end, unless the key is there already. -/
theorem keys_put (table : Table α) (name : String) (value : α) :
    (table.put name value).keys =
      if name ∈ table.keys then table.keys else table.keys ++ [name] :=
  keys_putEntry name value table.entries

/-- A value that is stored under a key that is there takes the place of the value that was there. -/
theorem Keyed.values_put (keyed : table.Keyed key) {value : α} (known : key value ∈ table.keys) :
    (table.put (key value) value).values =
      table.values.map fun held => if key held = key value then value else held := by
  have replaced : ∀ entries : List (String × α), (entries.map Prod.fst).Nodup →
      key value ∈ entries.map Prod.fst → (putEntry (key value) value entries).map Prod.snd =
        entries.map fun entry => if entry.1 = key value then value else entry.2 := by
    -- Only the first entry with the key is replaced, and no other entry has this key.
    intro entries nodup known
    induction entries with
    | nil => cases known
    | cons entry rest ih =>
      obtain ⟨fresh, nodup⟩ := List.nodup_cons.mp nodup
      unfold putEntry
      by_cases here : entry.1 = key value
      · have others : ∀ later ∈ rest, later.1 ≠ key value := fun later member same =>
          fresh (here.trans same.symm ▸ List.mem_map_of_mem member)
        simp only [here, if_true, List.map_cons]
        rw [List.map_congr_left fun later member => if_neg (others later member)]
      · have later := (List.mem_cons.mp known).resolve_left (Ne.symm here)
        simp only [here, if_false, List.map_cons]
        rw [ih nodup later]
  rw [values, values, List.map_map]
  refine (replaced table.entries keyed.nodup known).trans ?_
  exact List.map_congr_left fun entry member => by rw [keyed.own entry member]; rfl

end Table

namespace Sequence

variable {κ : Type} [BEq κ] [LawfulBEq κ]

/-- One more element is a first occurrence unless it occurred before. -/
theorem firsts_concat (xs : List κ) (x : κ) :
    firsts (xs ++ [x]) = if x ∈ firsts xs then firsts xs else firsts xs ++ [x] := by
  rw [firsts, firstsBy_append, List.map_id, ← firsts]
  by_cases known : x ∈ xs
  · rw [if_pos (mem_firsts.mpr known)]
    simp [known, firstsBy, firstsAfter]
  · rw [if_neg (mt mem_firsts.mp known)]
    simp [known, firstsBy, firstsAfter]

end Sequence

/-- The details of two items agree in the fields that are not named. -/
def Details.AgreesApartFrom (names : List String) : Details → Details → Prop
  | .garment fit composition, .garment newFit newComposition =>
    ("fit_meta" ∉ names → newFit = fit) ∧
      ("fabric_composition" ∉ names → newComposition = composition)
  | .fabric composition, .fabric newComposition =>
    "fabric_composition" ∉ names → newComposition = composition
  | .accessory material, .accessory newMaterial => "material" ∉ names → newMaterial = material
  | _, _ => False

/-- Two items agree in their ids, their kinds and the fields that are not named. -/
structure Item.AgreesApartFrom (names : List String) (old new : Item) : Prop where
  id : new.id = old.id
  name : "name" ∉ names → new.name = old.name
  description : "description" ∉ names → new.description = old.description
  price : "price" ∉ names → new.price = old.price
  currency : "currency" ∉ names → new.currency = old.currency
  vendor : "vendor" ∉ names → new.vendor = old.vendor
  vendorUrl : "vendor_url" ∉ names → new.vendorUrl = old.vendorUrl
  tags : "tags" ∉ names → new.tags = old.tags
  raw : "raw_vendor_data" ∉ names → new.raw = old.raw
  embeddings : "embeddings" ∉ names → new.embeddings = old.embeddings
  embeddingNote : "embedding_metadata" ∉ names → new.embeddingNote = old.embeddingNote
  createdAt : "created_at" ∉ names → new.createdAt = old.createdAt
  score : "score" ∉ names → new.score = old.score
  details : old.details.AgreesApartFrom names new.details

section Fields

variable {α : Type} {changes : Row}

/-- A field that no change names stays as it is. -/
theorem Row.eq_of_unnamed {name : String} {read : Reader α} {held value : α}
    (reads : (Row.ofEntries changes).withDefault name read held = .valid value)
    (unnamed : name ∉ changes.map Prod.fst) : value = held := by
  rw [withDefault, get?_ofEntries_eq_none_iff.mpr unnamed] at reads
  cases reads
  rfl

/-- Details agree with themselves after a change, but for the named fields. -/
theorem Details.agrees_of_revised {old new : Details}
    (reads : old.revised (Row.ofEntries changes) = .valid new) :
    old.AgreesApartFrom (changes.map Prod.fst) new := by
  cases old with
  | garment fit composition =>
    simp only [revised, Checked.seq_eq_valid_iff, Checked.map_eq_valid_iff] at reads
    obtain ⟨_, _, ⟨_, fitted, rfl⟩, composed, rfl⟩ := reads
    exact ⟨Row.eq_of_unnamed fitted, Row.eq_of_unnamed composed⟩
  | fabric composition =>
    obtain ⟨_, composed, rfl⟩ := Checked.map_eq_valid_iff.mp reads
    exact Row.eq_of_unnamed composed
  | accessory material =>
    obtain ⟨_, made, rfl⟩ := Checked.map_eq_valid_iff.mp reads
    exact Row.eq_of_unnamed made

/-- An item agrees with itself after a change, but for the named fields. -/
theorem Item.agrees_of_revised {old new : Item}
    (reads : old.revised (Row.ofEntries changes) = .valid new) :
    old.AgreesApartFrom (changes.map Prod.fst) new := by
  simp only [revised, Checked.seq_eq_valid_iff, Checked.map_eq_valid_iff] at reads
  obtain ⟨_, _, ⟨_, _, ⟨_, _, ⟨_, _, ⟨_, _, ⟨_, _, ⟨_, _, ⟨_, _, ⟨_, _, ⟨_, _, ⟨_, _, ⟨_, _, ⟨_, _,
    ⟨_, id, rfl⟩, name, rfl⟩, description, rfl⟩, price, rfl⟩, currency, rfl⟩, vendor, rfl⟩,
    vendorUrl, rfl⟩, tags, rfl⟩, raw, rfl⟩, embeddings, rfl⟩, note, rfl⟩, createdAt, rfl⟩, score,
    rfl⟩, details, rfl⟩ := reads
  cases id
  exact {
    id := rfl
    name := Row.eq_of_unnamed name
    description := Row.eq_of_unnamed description
    price := Row.eq_of_unnamed price
    currency := Row.eq_of_unnamed currency
    vendor := Row.eq_of_unnamed vendor
    vendorUrl := Row.eq_of_unnamed vendorUrl
    tags := Row.eq_of_unnamed tags
    raw := Row.eq_of_unnamed raw
    embeddings := Row.eq_of_unnamed embeddings
    embeddingNote := Row.eq_of_unnamed note
    createdAt := Row.eq_of_unnamed createdAt
    score := Row.eq_of_unnamed score
    details := Details.agrees_of_revised details }

end Fields

namespace Catalog

/-- Something that is tried with a catalog: an item is added from a row, or a row of changes is put
over the item with an id. -/
inductive Change where
  | add (row : Row)
  | update (id : String) (changes : Row)

namespace Change

/-- Changes of an item give it neither another id nor another type. -/
def IsAdmitted : Change → Prop
  | .add _ => True
  | .update _ changes => "item_id" ∉ changes.map Prod.fst ∧ "type" ∉ changes.map Prod.fst

/-- The id of the item that is added. -/
def arrival? : Change → Option String
  | .add row => (Item.parse row).toOption.map (·.id)
  | .update _ _ => none

end Change

/-- The catalog holds every item under its own id, and the items can be written. -/
structure IsSound (catalog : Catalog) : Prop where
  keyed : catalog.Keyed (·.id)
  writable : ∀ item ∈ catalog.values, item.IsWritable

variable {catalog : Catalog} {item : Item} {changes : Row}

/-- An item that is read may be added. -/
theorem IsSound.add (sound : catalog.IsSound) {row : Row} (parses : Item.parse row = .ok item) :
    (catalog.add item).IsSound where
  keyed := sound.keyed.put item
  writable other member := by
    obtain ⟨entry, stored, rfl⟩ := List.mem_map.mp member
    rcases Table.mem_putEntry stored with rfl | before
    · exact Item.writable_of_parse parses
    · exact sound.writable _ (List.mem_map_of_mem before)

/-- Changes of an item in the catalog are read over the item; the issues are found under its kind. -/
theorem changed_eq (writable : item.IsWritable) (unnamed : "item_id" ∉ changes.map Prod.fst)
    (untyped : "type" ∉ changes.map Prod.fst) :
    changed item changes =
      ((item.revised (Row.ofEntries changes)).under (.field item.kind.name)).toExcept := by
  -- The row that changes are put over is the one that is stored, with the score besides.
  have stored : ∀ name value, item.toStoredRow.get? name = some value →
      item.toRow.get? name = some value := by
    intro name value given
    rw [Item.toRow, Row.get?, List.lookup_append, ← Row.get?, given, Option.some_or]
  have scored : item.toRow.get? "score" = some (Json.ofOption .float item.score) := by
    rw [Item.toRow, Row.get?, List.lookup_append, ← Row.get?, item.score_toStoredRow]
    rfl
  have typed : (item.toRow.merge changes).get? "type" = some (.str item.kind.name) := by
    rw [Row.get?_merge, Row.get?_ofEntries_eq_none_iff.mpr untyped]
    exact stored _ _ rfl
  rw [changed, Item.parse, Item.read, Item.kindOf?_of_stored typed]
  dsimp only
  rw [Item.readAs_merge writable stored
    (Row.optional_eq (fun _ _ => Reader.restores_float _) scored) unnamed]

/-- A changed item agrees with the item before, but for the named fields. -/
theorem changed_agrees {new : Item} (writable : item.IsWritable)
    (unnamed : "item_id" ∉ changes.map Prod.fst) (untyped : "type" ∉ changes.map Prod.fst)
    (reads : changed item changes = .ok new) :
    item.AgreesApartFrom (changes.map Prod.fst) new := by
  rw [changed_eq writable unnamed untyped, Checked.toExcept_eq_ok_iff,
    Checked.under_eq_valid_iff] at reads
  exact Item.agrees_of_revised reads

/-- Changes of an item leave a sound catalog with the same keys, or fail. -/
theorem IsSound.update (sound : catalog.IsSound) {id : String} {after : Catalog}
    (unnamed : "item_id" ∉ changes.map Prod.fst) (untyped : "type" ∉ changes.map Prod.fst)
    (updates : catalog.update id changes = .ok after) :
    after.IsSound ∧ after.keys = catalog.keys := by
  rw [Catalog.update] at updates
  cases found : catalog.find? id with
  | none =>
    rw [found] at updates
    cases updates
    exact ⟨sound, rfl⟩
  | some item =>
    rw [found] at updates
    obtain ⟨new, reads, rfl⟩ := Call.map_eq_ok_iff.mp updates
    obtain ⟨member, rfl⟩ := sound.keyed.find?_eq_some_iff.mp found
    have agrees := changed_agrees (sound.writable item member) unnamed untyped reads
    rw [← agrees.id]
    refine ⟨sound.add reads, ?_⟩
    rw [Table.keys_put, if_pos (agrees.id ▸ Table.mem_keys_of_find? found)]

/-- A sound catalog whose ids stand in the order in which they first arrived. -/
structure IsBuiltFrom (arrived : List String) (catalog : Catalog) : Prop where
  sound : catalog.IsSound
  order : catalog.keys = Sequence.firsts arrived

/-- Nothing arrived at an empty catalog. -/
theorem empty_isBuiltFrom : IsBuiltFrom [] .empty where
  sound := ⟨Table.empty_keyed _, fun _ member => absurd member List.not_mem_nil⟩
  order := rfl

/-- A catalog without an item under an id is not updated under it. -/
theorem update_unknown (sound : catalog.IsSound) {id : String}
    (unknown : ∀ item ∈ catalog.values, item.id ≠ id) : catalog.update id changes = .ok catalog := by
  cases found : catalog.find? id with
  | none => rw [Catalog.update, found]
  | some item =>
    obtain ⟨member, same⟩ := sound.keyed.find?_eq_some_iff.mp found
    exact absurd same (unknown item member)

/-- An item of a catalog is updated to what the changes make of it. -/
theorem update_known (sound : catalog.IsSound) (member : item ∈ catalog.values) :
    catalog.update item.id changes =
      (changed item changes).map (Table.put catalog item.id) := by
  have found : catalog.find? item.id = some item :=
    sound.keyed.find?_eq_some_iff.mpr ⟨member, rfl⟩
  rw [Catalog.update, found]

end Catalog

namespace Memory

open Catalog

variable {memory : Memory}

/-- Try a change of the catalog. -/
def perform : Change → Call Memory Unit
  | .add row => do collaborators.addItem (← Call.ofExcept (Item.parse row))
  | .update id changes => collaborators.updateItem id changes

/-- The stores after several changes were tried, one after the other. -/
def afterAll (memory : Memory) (changes : List Change) : Memory :=
  changes.foldl (fun memory change => ((perform change).outcome memory).2) memory

/-- An update replaces the catalog, or fails and leaves the stores as they are. -/
theorem updateItem_outcome (memory : Memory) (id : String) (changes : Row) :
    (collaborators.updateItem id changes).outcome memory =
      match memory.catalog.update id changes with
      | .ok catalog => (.ok (), { memory with catalog })
      | .error fault => (.error fault, memory) := by
  change (change fun memory => (memory.catalog.update id changes).map fun catalog =>
    { memory with catalog }).outcome memory = _
  rw [Memory.change, Call.outcome_ofOutcome]
  cases memory.catalog.update id changes <;> rfl

/-- A row that is read as an item is added; any other one changes nothing. -/
theorem add_outcome (memory : Memory) (row : Row) :
    (perform (.add row)).outcome memory =
      match Item.parse row with
      | .ok item => (.ok (), { memory with catalog := memory.catalog.add item })
      | .error fault => (.error fault, memory) := by
  rw [perform, Call.outcome_bind, Call.outcome_ofExcept]
  cases Item.parse row <;> rfl

/-- Whatever is tried, the catalog stays sound, and a new id goes to its end. -/
theorem perform_isBuiltFrom {arrived : List String} (built : memory.catalog.IsBuiltFrom arrived)
    {change : Change} (admitted : change.IsAdmitted) :
    ((perform change).outcome memory).2.catalog.IsBuiltFrom
      (arrived ++ change.arrival?.toList) := by
  cases change with
  | add row =>
    rw [add_outcome]
    cases parses : Item.parse row with
    | error fault => simpa [Change.arrival?, parses, Except.toOption] using built
    | ok item =>
      refine ⟨built.sound.add parses, ?_⟩
      have arrives : (Change.add row).arrival?.toList = [item.id] := by
        simp [Change.arrival?, parses, Except.toOption]
      rw [arrives, Sequence.firsts_concat, ← built.order]
      exact Table.keys_put ..
  | update id changes =>
    have none : (Change.update id changes).arrival?.toList = [] := rfl
    rw [none, List.append_nil, perform, updateItem_outcome]
    cases updates : memory.catalog.update id changes with
    | error fault => exact built
    | ok after =>
      obtain ⟨sound, keys⟩ := built.sound.update admitted.1 admitted.2 updates
      exact ⟨sound, keys.trans built.order⟩

/-- After every run the catalog is sound, and its ids stand in the order of their arrival. -/
theorem afterAll_isBuiltFrom {arrived : List String} (built : memory.catalog.IsBuiltFrom arrived)
    {changes : List Change} (admitted : ∀ change ∈ changes, change.IsAdmitted) :
    (memory.afterAll changes).catalog.IsBuiltFrom
      (arrived ++ changes.filterMap Change.arrival?) := by
  induction changes generalizing memory arrived with
  | nil =>
    rw [List.filterMap_nil, List.append_nil]
    exact built
  | cons change rest ih =>
    obtain ⟨first, others⟩ := List.forall_mem_cons.mp admitted
    have onward := ih (perform_isBuiltFrom built first) others
    have arrivals : (change :: rest).filterMap Change.arrival? =
        change.arrival?.toList ++ rest.filterMap Change.arrival? := by
      rw [List.filterMap_cons]
      cases change.arrival? <;> rfl
    rw [arrivals, ← List.append_assoc]
    exact onward

/-- Updating the item with an id is all or nothing: an unknown id changes nothing, and neither do
changes that do not read; others change the named fields of this item in its place. -/
structure Updates (memory : Memory) (items : List Item) (id : String) (changes : Row) : Prop where
  unknown : (∀ item ∈ items, item.id ≠ id) →
    (collaborators.updateItem id changes).outcome memory = (.ok (), memory)
  refused : ∀ item ∈ items, item.id = id → ∀ issues,
    item.revised (Row.ofEntries changes) = .invalid issues →
      (collaborators.updateItem id changes).outcome memory = (.error (.invalid
        (issues.map fun issue => { issue with path := .field item.kind.name :: issue.path })),
        memory)
  made : ∀ item ∈ items, item.id = id → ∀ new,
    item.revised (Row.ofEntries changes) = .valid new →
      item.AgreesApartFrom (changes.map Prod.fst) new ∧
      ∃ catalog, (collaborators.updateItem id changes).outcome memory =
          (.ok (), { memory with catalog }) ∧
        catalog.values = items.map fun held => if held.id = id then new else held

/-- An update of a sound catalog is all or nothing. -/
theorem updates_of_sound (sound : memory.catalog.IsSound) {id : String} {changes : Row}
    (admitted : (Change.update id changes).IsAdmitted) :
    memory.Updates memory.catalog.values id changes where
  unknown unknown := by rw [updateItem_outcome, update_unknown sound unknown]
  refused := by
    rintro item member rfl issues refuses
    have fails : changed item changes = (Checked.under (.field item.kind.name)
        (.invalid issues : Checked Item)).toExcept := by
      rw [changed_eq (sound.writable item member) admitted.1 admitted.2, refuses]
    rw [updateItem_outcome, update_known sound member, fails]
    rfl
  made := by
    rintro item member rfl new reads
    have succeeds : changed item changes = .ok new := by
      rw [changed_eq (sound.writable item member) admitted.1 admitted.2, reads]
      rfl
    have agrees := Item.agrees_of_revised reads
    refine ⟨agrees, memory.catalog.put item.id new, ?_, ?_⟩
    · rw [updateItem_outcome, update_known sound member, succeeds]
      rfl
    · have known : new.id ∈ memory.catalog.keys := by
        rw [agrees.id, sound.keyed.keys_eq]
        exact List.mem_map_of_mem member
      rw [← agrees.id]
      exact sound.keyed.values_put known

/-- In every state that adding items and changing them leads to from an empty catalog, the listed
items have different ids, in the order in which these first arrived, also where only some of them
are listed; an item is found under an id exactly if it is listed and has that id; and every further
update is all or nothing. -/
theorem catalog_runs {base : Memory} (unused : base.catalog = .empty) {tried : List Change}
    (admitted : ∀ change ∈ tried, change.IsAdmitted) :
    ∃ items,
      (collaborators.listItems .everything).outcome (base.afterAll tried) =
        (.ok items, base.afterAll tried) ∧
      (∀ filters limit, ∃ part,
        (collaborators.listItems ⟨filters, none, limit⟩).outcome (base.afterAll tried) =
          (.ok part, base.afterAll tried) ∧ part.Sublist items) ∧
      items.map (·.id) = Sequence.firsts (tried.filterMap Change.arrival?) ∧
      (items.map (·.id)).Nodup ∧
      (∀ id : String, ∃ found,
        (collaborators.findItem id).outcome (base.afterAll tried) =
          (.ok found, base.afterAll tried) ∧
        ∀ item, found = some item ↔ item ∈ items ∧ item.id = id) ∧
      ∀ id changes, (Change.update id changes).IsAdmitted →
        (base.afterAll tried).Updates items id changes := by
  obtain ⟨sound, order⟩ := afterAll_isBuiltFrom (unused ▸ empty_isBuiltFrom) admitted
  refine ⟨(base.afterAll tried).catalog.values, ?listed, fun filters limit => ⟨_, rfl, ?part⟩,
    ?ordered, sound.keyed.nodup_values,
    fun id => ⟨_, rfl, fun item => sound.keyed.find?_eq_some_iff⟩,
    fun id changes allowed => updates_of_sound sound allowed⟩
  case listed =>
    exact congrArg (·, base.afterAll tried) (listItems_everything (base.afterAll tried).catalog)
  case part => exact (Sequence.cutAt_sublist limit _).trans List.filter_sublist
  case ordered => rw [← sound.keyed.keys_eq, order, List.nil_append]

section Sample

/-- Two items that arrive, one of them twice, and updates of which the second one does not read. -/
def sampleChanges : List Change :=
  [.add sampleItemRow,
    .add [("item_id", .str "b1"), ("type", .str "accessory")],
    .update "g1" [("price", .int 90), ("fit_meta", .null)],
    .update "g1" [("price", .str "cheap")],
    .add [("item_id", .str "b1"), ("type", .str "accessory"), ("name", .str "Belt")]]

/-- The items that arrived stand in the order of their first arrival, and an update under an id
that did not arrive changes nothing. -/
theorem catalog_runs_sample :
    (∀ change ∈ sampleChanges, change.IsAdmitted) ∧
      ∃ items, (collaborators.listItems .everything).outcome (empty.afterAll sampleChanges) =
          (.ok items, empty.afterAll sampleChanges) ∧
        items.map (·.id) = ["g1", "b1"] ∧
        (collaborators.updateItem "g2" [("price", .int 90)]).outcome
          (empty.afterAll sampleChanges) = (.ok (), empty.afterAll sampleChanges) := by
  have admitted : ∀ change ∈ sampleChanges, change.IsAdmitted := by
    simp [sampleChanges, Change.IsAdmitted]
  have unused : empty.catalog = .empty := rfl
  obtain ⟨items, lists, -, ordered, -, -, updates⟩ := catalog_runs unused admitted
  have arrived : Sequence.firsts (sampleChanges.filterMap Change.arrival?) = ["g1", "b1"] := by
    decide +kernel
  rw [arrived] at ordered
  refine ⟨admitted, items, lists, ordered, (updates "g2" _ (by simp [Change.IsAdmitted])).unknown ?_⟩
  intro item member same
  have listed : item.id ∈ items.map (·.id) := List.mem_map_of_mem member
  rw [ordered, same] at listed
  simp at listed

end Sample

end Memory

end Storefront
