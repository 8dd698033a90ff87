import Storefront.Proofs.Backfills
/-!
# A backfill amid the updates of another writer

A run lists the items once and stores its vectors one by one, while another writer may update items
before, between and after these calls. Both kinds of update put changes over an item as it is at
that moment, so every field has a history of its own, and a run only takes part in the histories of
the vectors and the notes. But it writes both vectors of an item: the new style vector, and the
fabric vector that was listed. That one is put in the place of any that was stored since.

The updates of the other writer come in batches, one before each call of the run and the rest after
its end. Every order in which the two can take turns is one of these.
-/

namespace Storefront

/-- Items that agree in everything but their vectors and the notes on these. -/
def Item.Alike (item other : Item) : Prop :=
  other = { item with embeddings := other.embeddings, embeddingNote := other.embeddingNote }

section Rows

variable {item other : Item} {changes : Row}

/-- An item is alike to itself. -/
theorem Item.Alike.refl (item : Item) : item.Alike item := rfl

/-- Items are alike in both directions. -/
theorem Item.Alike.symm (alike : item.Alike other) : other.Alike item := by
  rw [Item.Alike] at alike ⊢
  rw [alike]

/-- A field is read from what is stored under its name only. -/
theorem Row.required_congr {α : Type} {read : Reader α} {row same : Row} {name : String}
    (stored : same.get? name = row.get? name) :
    same.required name read = row.required name read := by
  rw [required, stored, required]

/-- A field with a default is read from what is stored under its name only. -/
theorem Row.withDefault_congr {α : Type} {read : Reader α} {default : α} {row same : Row}
    {name : String} (stored : same.get? name = row.get? name) :
    same.withDefault name read default = row.withDefault name read default := by
  rw [withDefault, stored, withDefault]

/-- An item that a vector is stored with stays alike. -/
theorem Item.Alike.embedded (alike : item.Alike other) (order : Backfill.Order)
    (fabric : Option (List Float)) (vector : List Float) :
    item.Alike (other.embedded order fabric vector) := by
  rw [Item.Alike, alike]
  rfl

/-- The rows of alike items hold the same under all other names. -/
theorem Item.Alike.get?_toRow (alike : item.Alike other) {name : String}
    (unembedded : name ≠ "embeddings") (unnoted : name ≠ "embedding_metadata") :
    other.toRow.get? name = item.toRow.get? name := by
  rw [alike]
  simp only [toRow, toStoredRow, Row.get?, List.cons_append, List.lookup_cons,
    beq_false_of_ne unembedded, beq_false_of_ne unnoted]
  rfl

/-- Details are not read from the vectors of a row. -/
theorem Details.read_congr {row same : Row}
    (stored : ∀ name, name ≠ "embeddings" → name ≠ "embedding_metadata" →
      same.get? name = row.get? name) (kind : Kind) :
    Details.read same kind = Details.read row kind := by
  have optional : ∀ {α : Type} (read : Reader α) name, name ≠ "embeddings" →
      name ≠ "embedding_metadata" → same.optional name read = row.optional name read :=
    fun read name unembedded unnoted => Row.withDefault_congr (stored name unembedded unnoted)
  cases kind with
  | garment =>
    rw [read, optional _ _ (by decide) (by decide), optional _ _ (by decide) (by decide), read]
  | fabric => rw [read, optional _ _ (by decide) (by decide), read]
  | accessory => rw [read, optional _ _ (by decide) (by decide), read]

/-- A field that changes name is what they say, and another one stays, whatever it was. -/
theorem Row.withDefault_either {α : Type} {read : Reader α} {name : String} {held value : α}
    (reads : (Row.ofEntries changes).withDefault name read held = .valid value) (before : α) :
    ∃ after, (Row.ofEntries changes).withDefault name read before = .valid after ∧
      if name ∈ changes.map Prod.fst then after = value else value = held ∧ after = before := by
  by_cases named : name ∈ changes.map Prod.fst
  · simp only [if_pos named]
    cases stored : (Row.ofEntries changes).get? name with
    | none => exact absurd named (Row.get?_ofEntries_eq_none_iff.mp stored)
    | some _ =>
      rw [withDefault, stored] at reads
      exact ⟨value, by rw [withDefault, stored]; exact reads, rfl⟩
  · simp only [if_neg named]
    refine ⟨before, ?_, Row.eq_of_unnamed reads named, rfl⟩
    rw [withDefault, Row.get?_ofEntries_eq_none_iff.mpr named]

/-- The vectors of a changed item are read over the ones that it has. -/
theorem Item.embeddings_merge (item : Item) (changes : Row) :
    (item.toRow.merge changes).optional "embeddings" (Reader.record Embeddings.read) =
      (Row.ofEntries changes).withDefault "embeddings"
        (Reader.nullable (Reader.record Embeddings.read)) item.embeddings :=
  Row.withDefault_merge (Row.optional_eq (fun embeddings _ => embeddings.restores) rfl)

/-- The note of a changed item is read over the one that it has. -/
theorem Item.note_merge (writable : item.IsWritable) (changes : Row) :
    (item.toRow.merge changes).optional "embedding_metadata" (Reader.record EmbeddingNote.read) =
      (Row.ofEntries changes).withDefault "embedding_metadata"
        (Reader.nullable (Reader.record EmbeddingNote.read)) item.embeddingNote :=
  Row.withDefault_merge (Row.optional_eq (fun note given =>
    EmbeddingNote.restores (writable.embeddedAt note given)) rfl)

/-- What can be put over an item can be put over one that is alike to it; the results are alike, and
have the same vectors if these are among the changes. -/
theorem Catalog.changed_alike {new : Item} (writable : item.IsWritable) (also : other.IsWritable)
    (alike : item.Alike other) (reads : changed item changes = .ok new) :
    ∃ after, changed other changes = .ok after ∧ new.Alike after ∧
      if "embeddings" ∈ changes.map Prod.fst then after.embeddings = new.embeddings
      else new.embeddings = item.embeddings ∧ after.embeddings = other.embeddings := by
  have stored : ∀ name, name ≠ "embeddings" → name ≠ "embedding_metadata" →
      (other.toRow.merge changes).get? name = (item.toRow.merge changes).get? name := by
    intro name unembedded unnoted
    rw [Row.get?_merge, Row.get?_merge, alike.get?_toRow unembedded unnoted]
  have kinds :
      Item.kindOf? (other.toRow.merge changes) = Item.kindOf? (item.toRow.merge changes) := by
    rw [Item.kindOf?, stored _ (by decide) (by decide), Item.kindOf?]
  rw [changed, Item.parse, Checked.toExcept_eq_ok_iff, Item.read] at reads
  rw [changed, Item.parse, Item.read, kinds]
  cases kind : Item.kindOf? (item.toRow.merge changes) with
  | none =>
    rw [kind] at reads
    cases reads
  | some kind =>
    rw [kind] at reads
    have given := Checked.under_eq_valid_iff.mp reads
    simp only [Item.readAs, Checked.seq_eq_valid_iff, Checked.map_eq_valid_iff] at given
    obtain ⟨_, _, ⟨_, _, ⟨_, _, ⟨_, _, ⟨_, _, ⟨_, _, ⟨_, _, ⟨_, _, ⟨_, _, ⟨_, _, ⟨_, _, ⟨_, _,
      ⟨_, _, ⟨_, id, rfl⟩, name, rfl⟩, description, rfl⟩, price, rfl⟩, currency, rfl⟩, vendor, rfl⟩,
      vendorUrl, rfl⟩, tags, rfl⟩, raw, rfl⟩, embeddings, rfl⟩, note, rfl⟩, createdAt, rfl⟩, score,
      rfl⟩, details, rfl⟩ := given
    rw [Item.embeddings_merge] at embeddings
    rw [Item.note_merge writable] at note
    obtain ⟨vectors, vectorsRead, either⟩ := Row.withDefault_either embeddings other.embeddings
    obtain ⟨noted, notedRead, -⟩ := Row.withDefault_either note other.embeddingNote
    refine ⟨{ Item.mk _ _ _ _ _ _ _ _ _ _ _ _ _ _ with
        embeddings := vectors, embeddingNote := noted },
      Checked.toExcept_eq_ok_iff.mpr (Checked.under_eq_valid_iff.mpr ?_), rfl, either⟩
    have required : (other.toRow.merge changes).required "item_id" Reader.text = _ :=
      (Row.required_congr (stored "item_id" (by decide) (by decide))).trans id
    have field : ∀ {α : Type} (read : Reader α) (default : α) name, name ≠ "embeddings" →
        name ≠ "embedding_metadata" → (other.toRow.merge changes).withDefault name read default =
          (item.toRow.merge changes).withDefault name read default :=
      fun _ _ name unembedded unnoted => Row.withDefault_congr (stored name unembedded unnoted)
    rw [Item.readAs, required, Details.read_congr stored, details, Item.embeddings_merge,
      vectorsRead, Item.note_merge also, notedRead]
    simp only [Row.optional] at description vendorUrl createdAt score ⊢
    rw [field _ _ "name" (by decide) (by decide), name,
      field _ _ "description" (by decide) (by decide), description,
      field _ _ "price" (by decide) (by decide), price,
      field _ _ "currency" (by decide) (by decide), currency,
      field _ _ "vendor" (by decide) (by decide), vendor,
      field _ _ "vendor_url" (by decide) (by decide), vendorUrl,
      field _ _ "tags" (by decide) (by decide), tags,
      field _ _ "raw_vendor_data" (by decide) (by decide), raw,
      field _ _ "created_at" (by decide) (by decide), createdAt,
      field _ _ "score" (by decide) (by decide), score]
    rfl

end Rows

namespace Catalog

/-- An update that a writer makes. -/
structure Write where
  id : String
  changes : Row

/-- The item under a key after an update; changes that do not read change nothing. -/
def Write.on (write : Write) (key : String) (item : Item) : Item :=
  if write.id = key then (changed item write.changes).toOption.getD item else item

/-- The item under a key after several updates. -/
def onAll (writes : List Write) (key : String) (item : Item) : Item :=
  writes.foldl (fun item write => write.on key item) item

/-- The catalog after an update. -/
def after (catalog : Catalog) (write : Write) : Catalog :=
  (catalog.update write.id write.changes).toOption.getD catalog

/-- The catalog after several updates. -/
def written (catalog : Catalog) (writes : List Write) : Catalog := writes.foldl after catalog

/-- Every item that is found can be written. -/
def IsReadable (catalog : Catalog) : Prop :=
  ∀ key item, catalog.find? key = some item → item.IsWritable

variable {catalog : Catalog} {key : String}

/-- An updated item can be written. -/
theorem Write.on_writable (write : Write) (key : String) {item : Item}
    (writable : item.IsWritable) : (write.on key item).IsWritable := by
  rw [Write.on]
  split
  · cases reads : changed item write.changes with
    | error fault => exact writable
    | ok new => exact Item.writable_of_parse reads
  · exact writable

/-- An update does not touch the items under other keys. -/
theorem Write.on_of_ne {write : Write} (other : key ≠ write.id) (item : Item) :
    write.on key item = item := if_neg (Ne.symm other)

/-- An update stores the changed item, if there is one. -/
theorem after_eq (catalog : Catalog) (write : Write) :
    catalog.after write =
      match (catalog.find? write.id).bind fun item => (changed item write.changes).toOption with
      | some new => catalog.put write.id new
      | none => catalog := by
  rw [after, Catalog.update]
  cases catalog.find? write.id with
  | none => rfl
  | some item =>
    dsimp only
    rw [Option.bind_some]
    cases changed item write.changes <;> rfl

/-- An update changes the item under its own key only. -/
theorem find?_after (catalog : Catalog) (write : Write) (key : String) :
    (catalog.after write).find? key = (catalog.find? key).map (write.on key) := by
  rw [after_eq]
  by_cases same : key = write.id
  · subst same
    cases found : catalog.find? write.id with
    | none => exact found
    | some item =>
      rw [Option.bind_some, Option.map_some, Write.on, if_pos rfl]
      cases changed item write.changes with
      | error fault => exact found
      | ok new => exact (Table.find?_put ..).trans (if_pos rfl)
  · have stays : write.on key = id := funext (Write.on_of_ne same)
    rw [stays, Option.map_id]
    split
    · exact (Table.find?_put ..).trans (if_neg same)
    · rfl

/-- An update keeps the keys. -/
theorem keys_after (catalog : Catalog) (write : Write) :
    (catalog.after write).keys = catalog.keys := by
  rw [after_eq]
  split
  · next stored =>
    obtain ⟨item, found, -⟩ := Option.bind_eq_some_iff.mp stored
    exact (Table.keys_put ..).trans (if_pos (Table.mem_keys_of_find? found))
  · rfl

/-- Updates change the items under their own keys, and no key. -/
theorem written_onAll (catalog : Catalog) (writes : List Write) :
    (∀ key, (catalog.written writes).find? key = (catalog.find? key).map (onAll writes key)) ∧
      (catalog.written writes).keys = catalog.keys := by
  induction writes generalizing catalog with
  | nil => exact ⟨fun key => (Option.map_id' ..).symm, rfl⟩
  | cons write rest ih =>
    obtain ⟨onward, kept⟩ := ih (catalog.after write)
    refine ⟨fun key => ?_, kept.trans (catalog.keys_after write)⟩
    rw [written, List.foldl_cons, ← written, onward, find?_after, Option.map_map]
    rfl

/-- Updated items can be written. -/
theorem IsReadable.written (readable : catalog.IsReadable) (writes : List Write) :
    (catalog.written writes).IsReadable := by
  intro key item found
  rw [(catalog.written_onAll writes).1] at found
  obtain ⟨before, held, rfl⟩ := Option.map_eq_some_iff.mp found
  have writable := readable key before held
  clear found held
  induction writes generalizing before with
  | nil => exact writable
  | cons write rest ih => exact ih _ (write.on_writable key writable)

end Catalog

open Catalog (Write onAll)

namespace Memory

/-- The stores after several updates. -/
def written (memory : Memory) (writes : List Write) : Memory :=
  writes.foldl (fun memory write =>
    ((collaborators.updateItem write.id write.changes).outcome memory).2) memory

/-- Updates can be made in two steps. -/
theorem written_append (memory : Memory) (writes others : List Write) :
    memory.written (writes ++ others) = (memory.written writes).written others :=
  List.foldl_append

/-- Updates change the catalog only. -/
theorem written_eq (memory : Memory) (writes : List Write) :
    memory.written writes = { memory with catalog := memory.catalog.written writes } := by
  induction writes generalizing memory with
  | nil => rfl
  | cons write rest ih =>
    have first : memory.catalog.written (write :: rest) =
        (memory.catalog.after write).written rest := rfl
    rw [written, List.foldl_cons, ← written, ih, first, updateItem_outcome, Catalog.after]
    cases memory.catalog.update write.id write.changes <;> rfl

/-- Updated stores can be read. -/
theorem written_readable {memory : Memory} (readable : memory.catalog.IsReadable)
    (writes : List Write) : (memory.written writes).catalog.IsReadable := by
  rw [written_eq]
  exact readable.written writes

end Memory

namespace Backfill

/-- A turn at the stores: another writer makes an update, or a run stores a vector with an item that
was listed. -/
inductive Turn where
  | other (write : Write)
  | own (listed : Item) (vector : List Float)

/-- The update that is made in a turn. -/
def Turn.write (order : Order) : Turn → Write
  | .other write => write
  | .own listed vector => ⟨listed.id, changesFor order listed vector⟩

/-- The update that another writer makes in a turn. -/
def Turn.other? : Turn → Option Write
  | .other write => some write
  | .own _ _ => none

/-- The turns of a run that stores vectors with listed items, amid updates of another writer of
which a batch precedes every store. -/
def turns (coming : List (List Write)) : List (Item × List Float) → List Turn
  | [] => coming.flatten.map .other
  | (listed, vector) :: rest =>
    (coming.headD []).map .other ++ .own listed vector :: turns coming.tail rest

/-- An update gives the item under a key other vectors. -/
def Replaces (key : String) (item : Item) (write : Write) : Prop :=
  write.id = key ∧ "embeddings" ∈ write.changes.map Prod.fst ∧
    (Catalog.changed item write.changes).toOption.isSome = true

instance (key : String) (item : Item) (write : Write) : Decidable (Replaces key item write) :=
  inferInstanceAs (Decidable (_ ∧ _ ∧ _))

/-- The listed item whose fabric vector a run wrote under a key, unless the other writer replaced
the vectors there later. The item is followed as the other writer alone would have it. -/
def standing (key : String) (last : Option Item) (item : Item) : List Turn → Option Item
  | [] => last
  | .own listed _ :: rest => standing key (if listed.id = key then some listed else last) item rest
  | .other write :: rest =>
    standing key (if Replaces key item write then none else last) (write.on key item) rest

variable {order : Order} {key : String} {alone held : Item}

/-- The updates of the other writer are made in its order. -/
theorem filterMap_turns (coming : List (List Write)) (stores : List (Item × List Float)) :
    (turns coming stores).filterMap Turn.other? = coming.flatten := by
  have others (writes : List Write) : (writes.map Turn.other).filterMap Turn.other? = writes := by
    rw [List.filterMap_map]
    exact List.filterMap_some
  induction stores generalizing coming with
  | nil => exact others _
  | cons store rest ih =>
    rw [turns, List.filterMap_append, others, List.filterMap_cons_none rfl, ih]
    cases coming <;> rfl

/-- An item that a vector is stored with can be written. -/
theorem embedded_writable (clock : order.now.IsWritable) (writable : held.IsWritable)
    (fabric : Option (List Float)) (vector : List Float) :
    (held.embedded order fabric vector).IsWritable where
  createdAt := writable.createdAt
  embeddedAt := by
    intro note given
    cases given
    exact clock

/-- What a run writes for an item that was listed can be put over any item. -/
theorem changed_changesFor (clock : order.now.IsWritable) (writable : held.IsWritable)
    (listed : Item) (vector : List Float) :
    Catalog.changed held (changesFor order listed vector) =
      .ok (held.embedded order listed.fabric? vector) := by
  rw [Catalog.changed_eq writable (by simp [changesFor]) (by simp [changesFor]),
    revised_changesFor clock]
  rfl

/-- A run stores a vector with an item as it is then, and puts the fabric vector that was listed in
the place of the one that it has. -/
theorem on_own (clock : order.now.IsWritable) (writable : held.IsWritable) (listed : Item)
    (vector : List Float) :
    ((Turn.own listed vector).write order).on key held =
      if listed.id = key then held.embedded order listed.fabric? vector else held := by
  rw [Turn.write, Write.on, changed_changesFor clock writable]
  rfl

/-- An update of the other writer keeps alike items alike, and it gives them the same vectors or
leaves both with those that they have. -/
theorem on_other (key : String) (writable : alone.IsWritable) (also : held.IsWritable)
    (alike : alone.Alike held) (write : Write) :
    (write.on key alone).Alike (write.on key held) ∧
      if Replaces key alone write
      then (write.on key held).embeddings = (write.on key alone).embeddings
      else (write.on key alone).embeddings = alone.embeddings ∧
        (write.on key held).embeddings = held.embeddings := by
  by_cases same : write.id = key
  · cases reads : Catalog.changed alone write.changes with
    | ok new =>
      obtain ⟨after, also_reads, results, either⟩ :=
        Catalog.changed_alike writable also alike reads
      have replaces : Replaces key alone write ↔ "embeddings" ∈ write.changes.map Prod.fst := by
        simp [Replaces, same, reads, Except.toOption]
      have here : write.on key alone = new := by rw [Write.on, if_pos same, reads]; rfl
      have there : write.on key held = after := by rw [Write.on, if_pos same, also_reads]; rfl
      rw [here, there]
      simp only [replaces]
      exact ⟨results, either⟩
    | error fault =>
      have fails : (Catalog.changed held write.changes).toOption = none := by
        cases also_reads : Catalog.changed held write.changes with
        | error _ => rfl
        | ok new =>
          obtain ⟨after, impossible, -⟩ :=
            Catalog.changed_alike also writable alike.symm also_reads
          rw [reads] at impossible
          cases impossible
      have replaces : ¬ Replaces key alone write := fun replaces => by
        have reads_so := replaces.2.2
        rw [reads] at reads_so
        cases reads_so
      have here : write.on key alone = alone := by rw [Write.on, if_pos same, reads]; rfl
      have there : write.on key held = held := by rw [Write.on, if_pos same, fails]; rfl
      rw [here, there, if_neg replaces]
      exact ⟨alike, rfl, rfl⟩
  · rw [Write.on_of_ne (Ne.symm same), Write.on_of_ne (Ne.symm same),
      if_neg fun replaces => same replaces.1]
    exact ⟨alike, rfl, rfl⟩

/-- Whatever the turns, the item under a key is alike to the one that the other writer alone would
leave, and it has the fabric vector of that one or of the listed item that is standing. -/
theorem onAll_turns (key : String) (clock : order.now.IsWritable) (writable : alone.IsWritable)
    (also : held.IsWritable) (alike : alone.Alike held) (last : Option Item)
    (fabric : held.fabric? = last.elim alone.fabric? Item.fabric?) (taken : List Turn) :
    (onAll (taken.filterMap Turn.other?) key alone).Alike
        (onAll (taken.map (Turn.write order)) key held) ∧
      (onAll (taken.map (Turn.write order)) key held).fabric? =
        (standing key last alone taken).elim
          (onAll (taken.filterMap Turn.other?) key alone).fabric? Item.fabric? := by
  induction taken generalizing alone held last with
  | nil => exact ⟨alike, fabric⟩
  | cons turn rest ih =>
    cases turn with
    | own listed vector =>
      have onward : onAll ((Turn.own listed vector :: rest).map (Turn.write order)) key held =
          onAll (rest.map (Turn.write order)) key
            (if listed.id = key then held.embedded order listed.fabric? vector else held) :=
        congrArg (onAll (rest.map (Turn.write order)) key) (on_own clock also listed vector)
      rw [onward, List.filterMap_cons_none rfl, standing]
      by_cases same : listed.id = key
      · rw [if_pos same, if_pos same]
        -- The other vector is the listed one now, whatever it was before.
        exact ih writable (embedded_writable clock also _ _) (alike.embedded ..) (some listed) rfl
      · rw [if_neg same, if_neg same]
        exact ih writable also alike last fabric
    | other write =>
      obtain ⟨results, either⟩ := on_other key writable also alike write
      refine ih (write.on_writable key writable) (write.on_writable key also) results _ ?_
      by_cases replaces : Replaces key alone write
      · rw [if_pos replaces] at either ⊢
        exact congrArg (Option.bind · Embeddings.fabric) either
      · rw [if_neg replaces] at either ⊢
        rw [Item.fabric?, either.2, Item.fabric?, either.1]
        exact fabric

/-- Stores that another writer updates too: a batch of updates comes before each call. -/
structure Shared where
  coming : List (List Write)
  stores : Memory

/-- A call of the stores, after the batch of updates that comes before it. -/
def amid {α : Type} (call : Call Memory α) : Call Shared α :=
  Call.ofOutcome fun state =>
    let (answer, stores) := call.outcome (state.stores.written (state.coming.headD []))
    (answer, ⟨state.coming.tail, stores⟩)

/-- The collaborators over shared stores; a run lists and updates items. -/
def shared : Collaborators Shared :=
  { Memory.collaborators.within Shared.stores fun stores state => { state with stores } with
    listItems := fun query => amid (Memory.collaborators.listItems query)
    updateItem := fun id changes => amid (Memory.collaborators.updateItem id changes) }

/-- The stores when the other writer has made all its updates. -/
def Shared.settled (state : Shared) : Memory := state.stores.written state.coming.flatten

/-- A service that does not touch the stores. -/
def Service.answer (service : Service) (text : String) : Call Shared (Option (List Float)) :=
  Call.ofExcept ((service text).map some)

/-- The items that a run over some items embeds, with their vectors. -/
def stored (service : Service) (order : Order) (processed : Nat) (items : List Item) :
    List (Item × List Float) :=
  (attempted service order processed items).filterMap fun item =>
    (service item.canonicalText).toOption.map (item, ·)

variable {service : Service}

/-- A run never fails to store a vector. -/
theorem store_succeeds {memory : Memory} (readable : memory.catalog.IsReadable)
    (clock : order.now.IsWritable) (listed : Item) (vector : List Float) :
    (Memory.collaborators.updateItem listed.id (changesFor order listed vector)).outcome memory =
      (.ok (), memory.written [(Turn.own listed vector).write order]) := by
  have succeeds : ∃ catalog,
      memory.catalog.update listed.id (changesFor order listed vector) = .ok catalog := by
    rw [Catalog.update]
    cases found : memory.catalog.find? listed.id with
    | none => exact ⟨_, rfl⟩
    | some held =>
      dsimp only
      rw [changed_changesFor clock (readable _ _ found)]
      exact ⟨_, rfl⟩
  obtain ⟨catalog, updates⟩ := succeeds
  change _ = (Except.ok (), ((Memory.collaborators.updateItem listed.id
    (changesFor order listed vector)).outcome memory).2)
  rw [Memory.updateItem_outcome, updates]

/-- A run stores a vector after the batch of updates that comes before it. -/
theorem shared_store {memory : Memory} (readable : memory.catalog.IsReadable)
    (clock : order.now.IsWritable) (coming : List (List Write)) (listed : Item)
    (vector : List Float) :
    (shared.updateItem listed.id (changesFor order listed vector)).outcome ⟨coming, memory⟩ =
      (.ok (), ⟨coming.tail,
        memory.written (coming.headD [] ++ [(Turn.own listed vector).write order])⟩) := by
  change (amid _).outcome _ = _
  rw [amid, Call.outcome_ofOutcome, Memory.written_append,
    store_succeeds (Memory.written_readable readable _) clock]

/-- A run over some items ends, and the stores settle to what the turns leave. -/
theorem runFrom_settled (service : Service) (clock : order.now.IsWritable) (items : List Item)
    {memory : Memory} (readable : memory.catalog.IsReadable) (coming : List (List Write))
    (report : Report) :
    ∃ final ended, (runFrom service.answer shared.updateItem order report items).outcome
        ⟨coming, memory⟩ = (.ok final, ended) ∧
      ended.settled = memory.written
        ((turns coming (stored service order report.processed items)).map (Turn.write order)) := by
  have made : ∀ writes : List Write, (writes.map Turn.other).map (Turn.write order) = writes :=
    fun writes => List.map_map.trans (List.map_id' writes)
  induction items generalizing memory coming report with
  | nil => exact ⟨report, ⟨coming, memory⟩, rfl, congrArg memory.written (made _).symm⟩
  | cons item rest ih =>
    rw [runFrom, stored, attempted]
    split
    · exact ⟨report, ⟨coming, memory⟩, rfl, congrArg memory.written (made _).symm⟩
    · split
      · exact ih readable coming report
      · have answered : (Call.ofState (service.answer item.canonicalText).attempt).outcome
            ⟨coming, memory⟩ =
              (.ok ((service item.canonicalText).map some).toOption, ⟨coming, memory⟩) := by
          rw [Call.outcome_attempt, Service.answer, Call.outcome_ofExcept]
          cases service item.canonicalText <;> rfl
        rw [Call.outcome_bind, answered]
        cases answer : service item.canonicalText with
        | error fault =>
          rw [Service.embeds_of_error answer, List.filterMap_cons_none (by rw [answer]; rfl)]
          exact ih readable coming { report with failed := report.failed + 1 }
        | ok vector =>
          obtain ⟨final, ended, runs, settles⟩ := ih (Memory.written_readable readable
            (coming.headD [] ++ [(Turn.own item vector).write order])) coming.tail
            { report with processed := report.processed + 1 }
          refine ⟨final, ended, ?_, ?_⟩
          · change ((shared.updateItem item.id (changesFor order item vector)) >>= _).outcome _ = _
            rw [Call.outcome_bind, shared_store readable clock]
            exact runs
          · rw [Service.embeds_of_ok answer, if_pos rfl,
              List.filterMap_cons_some (by rw [answer]; rfl), turns, List.map_append, made,
              List.map_cons, List.append_cons, Memory.written_append, settles]
            rfl

/-- A run ends amid any updates of another writer, each of its calls after a batch of these, and the
catalog that results is the one that the other writer alone would leave, but for vectors and notes.
Under a key it has the fabric vector of that catalog exactly if the run was not the last to write
vectors there, or the fabric vector that it had listed is the same. -/
theorem run_keeps_updates_iff (service : Service) {memory : Memory}
    (parsed : ∀ item ∈ memory.catalog.values, ∃ row, Item.parse row = .ok item)
    (clock : order.now.IsWritable) (first : List Write) (coming : List (List Write)) :
    ∃ report ended,
      (run shared service.answer order).outcome ⟨first :: coming, memory⟩ = (.ok report, ended) ∧
      ended.settled =
        { memory.written (first ++ coming.flatten) with catalog := ended.settled.catalog } ∧
      ended.settled.catalog.keys = (memory.written (first ++ coming.flatten)).catalog.keys ∧
      ∀ key before, (memory.written first).catalog.find? key = some before →
        ∃ alone final,
          (memory.written (first ++ coming.flatten)).catalog.find? key = some alone ∧
          ended.settled.catalog.find? key = some final ∧ alone.Alike final ∧
          (final.fabric? = alone.fabric? ↔
            ∀ stale ∈ standing key none before
              (turns coming (stored service order 0 (memory.written first).catalog.values)),
              stale.fabric? = alone.fabric?) := by
  have readable : memory.catalog.IsReadable := by
    intro key item found
    obtain ⟨row, reads⟩ := parsed item (Table.mem_values_of_find? found)
    exact Item.writable_of_parse reads
  have readable_then := Memory.written_readable readable first
  have lists : (shared.listItems .everything).outcome ⟨first :: coming, memory⟩ =
      (.ok (memory.written first).catalog.values, ⟨coming, memory.written first⟩) :=
    congrArg (·, (⟨coming, memory.written first⟩ : Shared))
      (memory.written first).catalog.listItems_everything
  obtain ⟨report, ended, runs, settles⟩ := runFrom_settled service clock
    (memory.written first).catalog.values readable_then coming ⟨0, 0⟩
  have follow : ∀ (writes : List Write) key before,
      (memory.written first).catalog.find? key = some before →
        ((memory.written first).written writes).catalog.find? key =
          some (onAll writes key before) := by
    intro writes key before found
    rw [Memory.written_eq _ writes]
    exact ((Catalog.written_onAll _ writes).1 key).trans (by rw [found]; rfl)
  refine ⟨report, ended, ?_, ?_, ?_, fun key before found => ?_⟩
  · rw [run, Call.outcome_bind, lists]
    exact runs
  · rw [settles, Memory.written_append, Memory.written_eq _ (coming.flatten),
      Memory.written_eq (memory.written first)]
  · rw [settles, Memory.written_append, Memory.written_eq _ (coming.flatten),
      Memory.written_eq (memory.written first)]
    exact (Catalog.written_onAll _ _).2.trans (Catalog.written_onAll _ _).2.symm
  · obtain ⟨alike, fabric⟩ := onAll_turns key clock (readable_then key before found)
      (readable_then key before found) (.refl before) none rfl
      (turns coming (stored service order 0 (memory.written first).catalog.values))
    rw [filterMap_turns] at alike fabric
    refine ⟨_, _, ?_, ?_, alike, ?_⟩
    · rw [Memory.written_append]
      exact follow _ key before found
    · rw [settles]
      exact follow _ key before found
    · rw [fabric]
      cases standing key none before
          (turns coming (stored service order 0 (memory.written first).catalog.values)) with
      | none => simp
      | some stale => simp

section Sample

/-- The scarf gets another price and another fabric vector. -/
def sampleUpdates : List Write :=
  [⟨"scarf", [("price", .int 90), ("embeddings", .obj [("e_fabric", .arr [.float 0.5])])]⟩]

/-- An update after the run has stored its vector is kept. -/
theorem run_keeps_updates_iff_sample :
    (∀ item ∈ sampleStores.catalog.values, ∃ row, Item.parse row = .ok item) ∧
    sampleOrder.now.IsWritable ∧
    ∃ report ended alone final,
      (run shared sampleService.answer sampleOrder).outcome
        ⟨[[], [], sampleUpdates], sampleStores⟩ = (.ok report, ended) ∧
      (sampleStores.written sampleUpdates).catalog.find? "scarf" = some alone ∧
      ended.settled.catalog.find? "scarf" = some final ∧
      alone.Alike final ∧ final.fabric? = alone.fabric? := by
  obtain ⟨report, ended, runs, -, -, items⟩ := run_keeps_updates_iff sampleService
    sampleStores_parsed sampleOrder_writable [] [[], sampleUpdates]
  have listed : sampleStores.catalog.find? "scarf" = some (sampleWoven "scarf" none) :=
    (Catalog.ofItems_keyed _).find?_eq_some_iff.mpr ⟨.tail _ (.tail _ (.head _)), rfl⟩
  have all : [] ++ [[], sampleUpdates].flatten = sampleUpdates := rfl
  obtain ⟨alone, final, found, held, alike, kept⟩ := items "scarf" _ listed
  rw [all] at found
  have replaced : standing "scarf" none (sampleWoven "scarf" none)
      (turns [[], sampleUpdates] (stored sampleService sampleOrder 0
        (sampleStores.written []).catalog.values)) = none :=
    Option.isNone_iff_eq_none.mp (by decide +kernel)
  refine ⟨sampleStores_parsed, sampleOrder_writable, report, ended, alone, final, runs, found, held,
    alike, kept.mpr ?_⟩
  rw [replaced]
  exact fun stale impossible => absurd impossible (Option.not_mem_none stale)

/-- The scarf under the id of the shirt, which gets another fabric vector. -/
def sampleRenaming : List Write :=
  [⟨"scarf", [("item_id", .str "shirt")]⟩,
    ⟨"shirt", [("embeddings", .obj [("e_style", .arr [.float 1.0]),
      ("e_fabric", .arr [.float 0.5])])]⟩]

/-- An update between the listing and the store loses its fabric vector, and so does one before the
run if the shirt's id is listed for the scarf. -/
theorem run_loses_fabric :
    (((sampleStores.written sampleUpdates).catalog.find? "scarf").bind Item.fabric? ==
      some [0.5]) = true ∧
    ((((run shared sampleService.answer sampleOrder).outcome
      ⟨[[], sampleUpdates], sampleStores⟩).2.settled.catalog.find? "scarf").bind Item.fabric? ==
        some [0.75]) = true ∧
    (((sampleStores.written sampleRenaming).catalog.find? "shirt").bind Item.fabric? ==
      some [0.5]) = true ∧
    ((((run shared sampleService.answer sampleOrder).outcome
      ⟨[sampleRenaming], sampleStores⟩).2.settled.catalog.find? "shirt").bind Item.fabric? ==
        some [0.75]) = true := by
  decide +kernel

end Sample

end Backfill

end Storefront
