import Storefront.Item.Backfill
import Storefront.Proofs.Updates
import Storefront.Rehearsal.Outage
/-!
# What a backfill changes

A run goes through the items as they were at its start and tries the pending ones until its limit is
reached. Each try asks the service for the vector of one text. A vector is stored by putting changes
over the record of the item, which is then read again as a whole; what is read back is the item with
the vector and a note, and nothing else is changed. So the catalog after a run is the catalog before
it, item by item, and an item that was embedded is not pending any more.

Where an item is kept under an id that is not its own, which only an update of the id brings about,
a run stores its vector with another item, or with none.
-/

namespace Storefront

/-- The fabric vector of an item as it is stored, the empty one too. -/
def Item.fabric? (item : Item) : Option (List Float) := item.embeddings.bind (·.fabric)

/-- An item whose style vector a run stores: it has the vector and a note on how it was made; its
fabric vector and everything else stay. -/
def Item.embedded (item : Item) (order : Backfill.Order) (fabric : Option (List Float))
    (vector : List Float) : Item :=
  { item with
    embeddings := some ⟨some vector, fabric⟩
    embeddingNote := some ⟨order.model, vector.length, Backfill.version, order.now⟩ }

/-- Items of a sound catalog with one id are one item. -/
theorem Catalog.IsSound.eq_of_id {catalog : Catalog} (sound : catalog.IsSound) {item other : Item}
    (member : item ∈ catalog.values) (found : other ∈ catalog.values) (same : item.id = other.id) :
    item = other := List.inj_on_of_nodup_map sound.keyed.nodup_values member found same

namespace Backfill

variable {order : Order} {item : Item} {vector : List Float}

/-- A new style vector and the other vectors that an item had are read as such. -/
theorem read_vectors (embeddings : Option Embeddings) (vector : List Float) :
    Embeddings.read
        (((embeddings.map Embeddings.toRow).getD []).put "e_style" (Json.ofFloats vector)) =
      .valid ⟨some vector, embeddings.bind (·.fabric)⟩ := by
  have style : ∀ row : Row, row.get? "e_style" = some (Json.ofOption Json.ofFloats (some vector)) →
      row.optional "e_style" (Reader.list Reader.float) = .valid (some vector) :=
    fun _ stored => Row.optional_eq (fun _ _ => Reader.restores_floats _) stored
  rw [Embeddings.read]
  cases embeddings with
  | none =>
    rw [style _ rfl]
    rfl
  | some held =>
    have fabric : (held.toRow.put "e_style" (Json.ofFloats vector)).optional "e_fabric"
        (Reader.list Reader.float) = .valid held.fabric :=
      Row.optional_eq (fun _ _ => Reader.restores_floats _) rfl
    rw [Option.map_some, Option.getD_some, style _ rfl, fabric]
    rfl

/-- A note on a vector is read as it was meant. -/
theorem read_noteOf (clock : order.now.IsWritable) (vector : List Float) :
    EmbeddingNote.read (noteOf order vector).entries =
      .valid ⟨order.model, vector.length, version, order.now⟩ := by
  have moment : Reader.moment (.str order.now.toQueryText) = .valid order.now := by
    rw [Reader.moment, Moment.toQueryText, Moment.ofFieldText?_toText .digits clock]
  have stored : (noteOf order vector).entries.get? "embedded_at" =
      some (.str order.now.toQueryText) := rfl
  have embeddedAt : (noteOf order vector).entries.required "embedded_at" Reader.moment =
      .valid order.now := by
    rw [Row.required, stored]
    exact Checked.under_eq_valid_iff.mpr moment
  rw [EmbeddingNote.read, embeddedAt]
  rfl

/-- The vectors that a run writes for an item that was listed. -/
theorem embeddings_changesFor (order : Order) (listed : Item) (vector : List Float)
    (held : Option Embeddings) :
    (Row.ofEntries (changesFor order listed vector)).withDefault "embeddings"
        (Reader.nullable (Reader.record Embeddings.read)) held =
      .valid (some ⟨some vector, listed.fabric?⟩) := by
  have stored : (Row.ofEntries (changesFor order listed vector)).get? "embeddings" =
      some (.obj (((listed.embeddings.map Embeddings.toRow).getD []).put "e_style"
        (Json.ofFloats vector))) := rfl
  rw [Row.withDefault, stored]
  exact Checked.under_eq_valid_iff.mpr
    (congrArg (Checked.map some) (read_vectors listed.embeddings vector))

/-- The note that a run writes for an item that was listed. -/
theorem note_changesFor (clock : order.now.IsWritable) (listed : Item) (vector : List Float)
    (held : Option EmbeddingNote) :
    (Row.ofEntries (changesFor order listed vector)).withDefault "embedding_metadata"
        (Reader.nullable (Reader.record EmbeddingNote.read)) held =
      .valid (some ⟨order.model, vector.length, version, order.now⟩) := by
  have stored : (Row.ofEntries (changesFor order listed vector)).get? "embedding_metadata" =
      some (noteOf order vector) := rfl
  have given : noteOf order vector ≠ .null := by simp [noteOf]
  have record : Reader.record EmbeddingNote.read (noteOf order vector) =
      .valid ⟨order.model, vector.length, version, order.now⟩ := read_noteOf clock vector
  rw [Row.withDefault, stored]
  refine Checked.under_eq_valid_iff.mpr ?_
  rw [Reader.nullable_of_ne_null given, record]
  rfl

/-- What a run writes for an item that was listed is put over the item as it is then. -/
theorem revised_changesFor (clock : order.now.IsWritable) (listed : Item) (vector : List Float) :
    item.revised (Row.ofEntries (changesFor order listed vector)) =
      .valid (item.embedded order listed.fabric? vector) := by
  have details : item.details.revised (Row.ofEntries (changesFor order listed vector)) =
      .valid item.details := by
    cases item.details <;> rfl
  rw [Item.revised, embeddings_changesFor, note_changesFor clock, details]
  rfl

/-- Stores with the texts that a service was asked to embed. -/
structure Watched where
  asked : List String
  stores : Memory

/-- The collaborators over watched stores. -/
def watched : Collaborators Watched :=
  Memory.collaborators.within Watched.stores fun stores state => { state with stores }

/-- An update of watched stores is an update of the stores. -/
theorem watched_updateItem (id : String) (changes : Row) (state : Watched) :
    (watched.updateItem id changes).outcome state =
      (((Memory.collaborators.updateItem id changes).outcome state.stores).1,
        { state with
          stores := ((Memory.collaborators.updateItem id changes).outcome state.stores).2 }) := rfl

/-- What embeds texts: a vector for a text, or a fault. -/
abbrev Service := String → Except Fault (List Float)

/-- A service, with the texts that it is asked for watched. -/
def Service.watched (service : Service) (text : String) : Call Watched (Option (List Float)) :=
  Call.ofOutcome fun state =>
    ((service text).map some, { state with asked := state.asked ++ [text] })

variable (service : Service) (order : Order)

/-- Whether the text of an item is embedded. -/
def Service.embeds (item : Item) : Bool := (service item.canonicalText).toOption.isSome

/-- The items whose texts a run asks for, after some number of items: the pending ones, until the
limit is reached. -/
def attempted (processed : Nat) : List Item → List Item
  | [] => []
  | item :: rest =>
    if isDone order.limit processed then []
    else if !isPending order.kind item then attempted processed rest
    else item :: attempted (if service.embeds item then processed + 1 else processed) rest

/-- An item after a run that attempted some items. -/
def outcomeOf (tried : List Item) (item : Item) : Item :=
  if item.id ∈ tried.map (·.id) then
    match service item.canonicalText with
    | .ok vector => item.embedded order item.fabric? vector
    | .error _ => item
  else item

variable {service order}

/-- A text that the service has a vector for is embedded. -/
theorem Service.embeds_of_ok (answer : service item.canonicalText = .ok vector) :
    service.embeds item = true := by
  rw [embeds, answer]
  rfl

/-- A text that the service fails for is not embedded. -/
theorem Service.embeds_of_error {fault : Fault}
    (answer : service item.canonicalText = .error fault) : service.embeds item = false := by
  rw [embeds, answer]
  rfl

/-- What a run writes for an item of a sound catalog takes the place of the item. -/
theorem store_outcome {memory : Memory} (sound : memory.catalog.IsSound)
    (clock : order.now.IsWritable) {listed held : Item} (member : held ∈ memory.catalog.values)
    (same : held.id = listed.id) (vector : List Float) :
    ∃ catalog, catalog.IsSound ∧
      (Memory.collaborators.updateItem listed.id (changesFor order listed vector)).outcome memory =
        (.ok (), { memory with catalog }) ∧
      catalog.values = memory.catalog.values.map fun item =>
        if item.id = listed.id
        then held.embedded order listed.fabric? vector else item := by
  have admitted :
      (Catalog.Change.update listed.id (changesFor order listed vector)).IsAdmitted := by
    simp [Catalog.Change.IsAdmitted, changesFor]
  obtain ⟨-, catalog, updates, values⟩ := (Memory.updates_of_sound sound admitted).made held member
    same _ (revised_changesFor clock listed vector)
  refine ⟨catalog, ?_, updates, values⟩
  rw [Memory.updateItem_outcome] at updates
  cases changed : memory.catalog.update listed.id (changesFor order listed vector) with
  | error fault =>
    rw [changed] at updates
    cases updates
  | ok after =>
    rw [changed] at updates
    cases updates
    exact (sound.update admitted.1 admitted.2 changed).1

/-- A report with one more item, embedded or failed. -/
def Report.counted (report : Report) (embedded : Bool) : Report :=
  if embedded then { report with processed := report.processed + 1 }
  else { report with failed := report.failed + 1 }

/-- A run that attempts an item asks for its text, and goes on with what the service answers for it
in the place of the item. -/
theorem runFrom_pending (service : Service) {memory : Memory} (sound : memory.catalog.IsSound)
    (clock : order.now.IsWritable) {report : Report} {item : Item}
    (unfinished : isDone order.limit report.processed = false)
    (pending : isPending order.kind item = true) (held : item ∈ memory.catalog.values)
    (rest : List Item) (asked : List String) :
    ∃ catalog, catalog.IsSound ∧
      (runFrom service.watched watched.updateItem order report (item :: rest)).outcome
          ⟨asked, memory⟩ =
        (runFrom service.watched watched.updateItem order
          (report.counted (service.embeds item)) rest).outcome
            ⟨asked ++ [item.canonicalText], { memory with catalog }⟩ ∧
      catalog.values = memory.catalog.values.map fun other =>
        if other.id = item.id then outcomeOf service order [item] item else other := by
  have answered : (Call.ofState (service.watched item.canonicalText).attempt).outcome
      ⟨asked, memory⟩ = (.ok ((service item.canonicalText).map some).toOption,
        ⟨asked ++ [item.canonicalText], memory⟩) := by
    rw [Call.outcome_attempt, Service.watched, Call.outcome_ofOutcome]
    cases service item.canonicalText <;> rfl
  rw [runFrom, unfinished, pending, if_neg Bool.false_ne_true, if_neg (by simp),
    Call.outcome_bind, answered]
  cases answer : service item.canonicalText with
  | error fault =>
    have stays : outcomeOf service order [item] item = item := by simp [outcomeOf, answer]
    refine ⟨memory.catalog, sound, by rw [Service.embeds_of_error answer]; rfl, ?_⟩
    rw [stays]
    refine (List.map_id' _).symm.trans (List.map_congr_left fun other member => ?_)
    split
    · next same => exact sound.eq_of_id member held same
    · rfl
  | ok vector =>
    have embedded : outcomeOf service order [item] item =
        item.embedded order item.fabric? vector := by
      simp [outcomeOf, answer]
    obtain ⟨catalog, after, stores, values⟩ := store_outcome sound clock held rfl vector
    have writes : (watched.updateItem item.id (changesFor order item vector)).outcome
        ⟨asked ++ [item.canonicalText], memory⟩ =
          (.ok (), ⟨asked ++ [item.canonicalText], { memory with catalog }⟩) := by
      rw [watched_updateItem, stores]
    refine ⟨catalog, after, ?_, by rw [values, embedded]⟩
    rw [Service.embeds_of_ok answer]
    change ((watched.updateItem item.id (changesFor order item vector)) >>= _).outcome _ = _
    rw [Call.outcome_bind, writes]
    rfl

/-- An item that is not attempted stays as it is. -/
theorem outcomeOf_eq_self {tried : List Item} (others : item.id ∉ tried.map (·.id)) :
    outcomeOf service order tried item = item := if_neg others

/-- The items that a run attempts are among the items that it goes through. -/
theorem attempted_sublist (processed : Nat) (items : List Item) :
    (attempted service order processed items).Sublist items := by
  induction items generalizing processed with
  | nil => exact .slnil
  | cons item rest ih =>
    rw [attempted]
    split
    · exact List.nil_sublist _
    · split
      · exact (ih _).cons item
      · exact (ih _).cons_cons item

/-- An attempted item is as the service answers for it, and every other item as without it. -/
theorem outcomeOf_cons {tried : List Item} (fresh : item.id ∉ tried.map (·.id)) {other : Item}
    (same : other.id = item.id → other = item) :
    outcomeOf service order (item :: tried) other =
      outcomeOf service order tried
        (if other.id = item.id then outcomeOf service order [item] item else other) := by
  by_cases known : other.id = item.id
  · cases same known
    have stays : (outcomeOf service order [item] item).id = item.id := by
      unfold outcomeOf
      split
      · split <;> rfl
      · rfl
    have unknown : (outcomeOf service order [item] item).id ∉ tried.map (·.id) := stays ▸ fresh
    rw [if_pos rfl, outcomeOf_eq_self unknown]
    simp [outcomeOf]
  · rw [if_neg known]
    simp [outcomeOf, known]

/-- A run over items that a sound catalog holds answers how many of the attempted ones it embedded,
and leaves the catalog with these as they come out of it. -/
theorem runFrom_outcome (service : Service) {items : List Item} {memory : Memory}
    (sound : memory.catalog.IsSound) (clock : order.now.IsWritable)
    (held : ∀ item ∈ items, item ∈ memory.catalog.values)
    (distinct : (items.map (·.id)).Nodup) (report : Report) (asked : List String) :
    ∃ catalog, catalog.IsSound ∧
      (runFrom service.watched watched.updateItem order report items).outcome ⟨asked, memory⟩ =
        (.ok ⟨report.processed +
            (attempted service order report.processed items).countP service.embeds,
          report.failed +
            (attempted service order report.processed items).countP (! service.embeds ·)⟩,
          ⟨asked ++ (attempted service order report.processed items).map (·.canonicalText),
            { memory with catalog }⟩) ∧
      catalog.values = memory.catalog.values.map
        (outcomeOf service order (attempted service order report.processed items)) := by
  have untried : ∀ values : List Item, values = values.map (outcomeOf service order []) :=
    fun values => (List.map_id' values).symm
  induction items generalizing memory report asked with
  | nil =>
    refine ⟨memory.catalog, sound, ?_, untried _⟩
    rw [attempted, List.map_nil, List.append_nil]
    rfl
  | cons item rest ih =>
    obtain ⟨fresh, distinct⟩ := List.nodup_cons.mp distinct
    obtain ⟨here, others⟩ := List.forall_mem_cons.mp held
    cases finished : isDone order.limit report.processed with
    | true =>
      refine ⟨memory.catalog, sound, ?_, ?_⟩
      · rw [attempted, runFrom, finished, if_pos rfl, if_pos rfl, List.map_nil, List.append_nil]
        rfl
      · rw [attempted, finished, if_pos rfl]
        exact untried _
    | false =>
      cases pending : isPending order.kind item with
      | false =>
        have onward := ih sound others distinct report asked
        rw [attempted, runFrom, finished, pending]
        exact onward
      | true =>
        obtain ⟨middle, kept, steps, values⟩ :=
          runFrom_pending service sound clock finished pending here rest asked
        have found : ∀ other ∈ rest, other ∈ middle.values := by
          intro other member
          have apart : other.id ≠ item.id := fun same =>
            fresh (List.mem_map.mpr ⟨other, member, same⟩)
          rw [values]
          exact List.mem_map.mpr ⟨other, others other member, if_neg apart⟩
        obtain ⟨catalog, after, runs, final⟩ := ih
          (show ({ memory with catalog := middle } : Memory).catalog.IsSound from kept) found
          distinct (report.counted (service.embeds item)) (asked ++ [item.canonicalText])
        have tries : attempted service order report.processed (item :: rest) = item ::
            attempted service order (report.counted (service.embeds item)).processed rest := by
          rw [attempted, finished, pending, if_neg Bool.false_ne_true, if_neg (by simp),
            Report.counted, apply_ite Report.processed]
        refine ⟨catalog, after, ?_, ?_⟩
        · rw [steps, runs, tries]
          simp only [List.countP_cons, List.map_cons, List.append_assoc, List.singleton_append]
          cases service.embeds item <;> simp [Report.counted] <;> omega
        · have unknown : item.id ∉ (attempted service order
              (report.counted (service.embeds item)).processed rest).map (·.id) := fun tried =>
            fresh (((attempted_sublist _ rest).map _).subset tried)
          rw [final, values, tries, List.map_map]
          refine List.map_congr_left fun other member => ?_
          exact (outcomeOf_cons unknown fun same => sound.eq_of_id member here same).symm

/-- A run attempts the first of the pending items. -/
theorem attempted_first (processed : Nat) (items : List Item) :
    attempted service order processed items <+: items.filter (isPending order.kind) := by
  induction items generalizing processed with
  | nil => exact List.prefix_refl []
  | cons item rest ih =>
    rw [attempted]
    split
    · exact List.nil_prefix
    · split
      · next passed =>
        rw [List.filter_cons_of_neg (by simpa using passed)]
        exact ih processed
      · next pending =>
        rw [List.filter_cons_of_pos (by simpa using pending)]
        exact (List.prefix_cons_inj item).mpr (ih _)

/-- A run embeds no more items than its limit allows. -/
theorem embedded_le_limit {bound : Int} (limited : order.limit = some bound) {processed : Nat}
    (within : (processed : Int) ≤ bound) (items : List Item) :
    ((processed + (attempted service order processed items).countP service.embeds : Nat) : Int) ≤
      bound := by
  induction items generalizing processed with
  | nil => simpa [attempted] using within
  | cons item rest ih =>
    rw [attempted]
    split
    · simpa using within
    · next unfinished =>
      have room : (processed : Int) < bound := by simpa [isDone, limited] using unfinished
      split
      · exact ih within
      · rw [List.countP_cons]
        have still : ((if service.embeds item then processed + 1 else processed : Nat) : Int) ≤
            bound := by split <;> omega
        have onward := ih still
        split at onward
        · next embeds => simp only [if_pos embeds]; omega
        · next fails => simp only [if_neg fails]; omega

/-- A run that has not reached its limit has attempted all pending items. -/
theorem attempted_eq_pending {processed : Nat} {items : List Item}
    (unfinished : isDone order.limit
      (processed + (attempted service order processed items).countP service.embeds) = false) :
    attempted service order processed items = items.filter (isPending order.kind) := by
  induction items generalizing processed with
  | nil => rfl
  | cons item rest ih =>
    rw [attempted] at unfinished ⊢
    split at unfinished
    · next finished =>
      rw [List.countP_nil, Nat.add_zero, finished] at unfinished
      cases unfinished
    · next unreached =>
      rw [if_neg unreached]
      split at unfinished
      · next passed =>
        rw [if_pos passed, List.filter_cons_of_neg (by simpa using passed)]
        exact ih unfinished
      · next pending =>
        rw [if_neg pending, List.filter_cons_of_pos (by simpa using pending)]
        rw [List.countP_cons] at unfinished
        refine congrArg (item :: ·) (ih ?_)
        rw [← unfinished]
        congr 1
        split <;> omega

/-- A run over items none of which is pending does nothing. -/
theorem runFrom_idle {σ : Type} (embed : String → Call σ (Option (List Float)))
    (store : String → Row → Call σ Unit) (report : Report) {items : List Item}
    (idle : ∀ item ∈ items, isPending order.kind item = false) :
    runFrom embed store order report items = pure report := by
  induction items with
  | nil => rfl
  | cons item rest ih =>
    obtain ⟨here, others⟩ := List.forall_mem_cons.mp idle
    rw [runFrom, here, ih others]
    split <;> rfl

/-- A run goes through the items of the catalog as they are at its start. -/
theorem run_eq (asked : List String) (memory : Memory) :
    (run watched service.watched order).outcome ⟨asked, memory⟩ =
      (runFrom service.watched watched.updateItem order ⟨0, 0⟩ memory.catalog.values).outcome
        ⟨asked, memory⟩ := by
  have lists : (watched.listItems .everything).outcome ⟨asked, memory⟩ =
      (.ok memory.catalog.values, ⟨asked, memory⟩) :=
    congrArg (·, (⟨asked, memory⟩ : Watched)) memory.catalog.listItems_everything
  rw [run, Call.outcome_bind, lists]

/-- A run over a catalog none of whose items is pending asks for nothing and changes nothing. -/
theorem run_idle {memory : Memory}
    (idle : ∀ item ∈ memory.catalog.values, isPending order.kind item = false)
    (asked : List String) :
    (run watched service.watched order).outcome ⟨asked, memory⟩ =
      (.ok ⟨0, 0⟩, ⟨asked, memory⟩) := by
  rw [run_eq, runFrom_idle _ _ _ idle]
  rfl

/-- What a run that tried some items did with the items of a catalog: it tried the first pending
ones, as many as the limit allows; what had a style vector, is of another kind or could not be
embedded is as it was; what was embedded has the service's vector for its text, with a note; and the
report counts the changed items and the failures. -/
structure Works (service : Service) (order : Order) (items tried : List Item) (report : Report) :
    Prop where
  first : tried <+: items.filter (isPending order.kind)
  all : isDone order.limit report.processed = false → tried = items.filter (isPending order.kind)
  spared : ∀ item ∈ items, item.styleVector? ≠ none ∨ isWantedKind order.kind item = false ∨
    (∃ fault, service item.canonicalText = .error fault) → outcomeOf service order tried item = item
  changed : ∃ changed : List Item, changed.Sublist items ∧ report.processed = changed.length ∧
    ∀ item ∈ items, (item ∈ changed ↔ outcomeOf service order tried item ≠ item) ∧
      (item ∈ changed → ∃ vector, service item.canonicalText = .ok vector ∧
        outcomeOf service order tried item = item.embedded order item.fabric? vector)
  bounded : ∀ bound ∈ order.limit, report.processed ≤ bound
  failed : report.failed = tried.countP (! service.embeds ·)

/-- An item that is not embedded stays as it is. -/
theorem outcomeOf_of_error {tried : List Item} {fault : Fault}
    (fails : service item.canonicalText = .error fault) :
    outcomeOf service order tried item = item := by
  rw [outcomeOf, fails, ite_self]

/-- A tried item gets the vector that the service has for its text. -/
theorem outcomeOf_of_ok {tried : List Item} (member : item ∈ tried)
    (answer : service item.canonicalText = .ok vector) :
    outcomeOf service order tried item = item.embedded order item.fabric? vector := by
  rw [outcomeOf, if_pos (List.mem_map_of_mem member), answer]

/-- An item that a vector was stored with is not pending any more. -/
theorem not_isPending_embedded (item : Item) (order : Order) (kind : Option String)
    (fabric : Option (List Float)) (nonempty : vector ≠ []) :
    isPending kind (item.embedded order fabric vector) = false := by
  obtain ⟨x, rest, rfl⟩ := List.exists_cons_of_ne_nil nonempty
  rfl

/-- Attempted items are pending. -/
theorem isPending_of_mem_attempted {processed : Nat} {items : List Item}
    (tried : item ∈ attempted service order processed items) : isPending order.kind item = true :=
  (List.mem_filter.mp ((attempted_first processed items).subset tried)).2

/-- An item whose id is attempted is attempted itself, if no other item has this id. -/
theorem mem_attempted_of_id {processed : Nat} {items : List Item}
    (distinct : (items.map (·.id)).Nodup) (member : item ∈ items)
    (known : item.id ∈ (attempted service order processed items).map (·.id)) :
    item ∈ attempted service order processed items := by
  obtain ⟨other, tried, same⟩ := List.mem_map.mp known
  have listed := (attempted_sublist processed items).subset tried
  exact List.inj_on_of_nodup_map distinct listed member same ▸ tried

/-- An item that is not pending stays as it is. -/
theorem outcomeOf_of_not_pending {processed : Nat} {items : List Item}
    (distinct : (items.map (·.id)).Nodup) (member : item ∈ items)
    (passed : isPending order.kind item = false) :
    outcomeOf service order (attempted service order processed items) item = item := by
  refine outcomeOf_eq_self fun known => ?_
  rw [isPending_of_mem_attempted (mem_attempted_of_id distinct member known)] at passed
  cases passed

/-- Trying the attempted items of a list with different ids is the work of a run. -/
theorem works_attempted {items : List Item} (distinct : (items.map (·.id)).Nodup)
    (answers : ∀ text vector, service text = .ok vector → vector ≠ [])
    (bounded : ∀ bound ∈ order.limit, 0 ≤ bound) :
    Works service order items (attempted service order 0 items)
      ⟨(attempted service order 0 items).countP service.embeds,
        (attempted service order 0 items).countP (! service.embeds ·)⟩ := by
  refine ⟨attempted_first 0 items,
    fun unfinished => attempted_eq_pending (by simpa using unfinished), ?spared,
    ⟨(attempted service order 0 items).filter service.embeds,
      List.filter_sublist.trans (attempted_sublist 0 items), List.countP_eq_length_filter,
      ?changed⟩, fun bound limited => ?bounded, rfl⟩
  case spared =>
    rintro item member (styled | unwanted | ⟨fault, fails⟩)
    · refine outcomeOf_of_not_pending distinct member ?_
      rw [isPending, Option.isNone_eq_false_iff.mpr (Option.isSome_iff_ne_none.mpr styled),
        Bool.false_and]
    · exact outcomeOf_of_not_pending distinct member (by rw [isPending, unwanted, Bool.and_false])
    · exact outcomeOf_of_error fails
  case changed =>
    intro item member
    rw [List.mem_filter]
    cases answer : service item.canonicalText with
    | error fault =>
      rw [outcomeOf_of_error answer, Service.embeds_of_error answer]
      simp
    | ok vector =>
      refine ⟨⟨fun ⟨tried, _⟩ same => ?_, fun changes => ⟨?_, Service.embeds_of_ok answer⟩⟩,
        fun ⟨tried, _⟩ => ⟨vector, rfl, outcomeOf_of_ok tried answer⟩⟩
      · -- A tried item had no style vector, and now it has one.
        have now := not_isPending_embedded item order order.kind item.fabric? (answers _ _ answer)
        rw [← outcomeOf_of_ok tried answer, same, isPending_of_mem_attempted tried] at now
        cases now
      · by_contra untried
        exact changes (outcomeOf_eq_self (mt (mem_attempted_of_id distinct member) untried))
  case bounded =>
    have within : ((0 + (attempted service order 0 items).countP service.embeds : Nat) : Int) ≤
        bound := embedded_le_limit limited (bounded bound limited) items
    simpa using within

/-- If nothing stopped a run and nothing failed, no item is pending any more. -/
theorem Works.not_isPending {items tried : List Item} {report : Report}
    (works : Works service order items tried report)
    (answers : ∀ text vector, service text = .ok vector → vector ≠ [])
    (unlimited : order.limit = none) (flawless : report.failed = 0) :
    ∀ item ∈ items, isPending order.kind (outcomeOf service order tried item) = false := by
  intro item member
  cases pending : isPending order.kind item with
  | false =>
    rw [isPending, Bool.and_eq_false_iff, Option.isNone_eq_false_iff,
      Option.isSome_iff_ne_none] at pending
    rw [works.spared item member (pending.imp_right .inl), isPending, Bool.and_eq_false_iff,
      Option.isNone_eq_false_iff, Option.isSome_iff_ne_none]
    exact pending
  | true =>
    have tried_item : item ∈ tried := by
      rw [works.all (by simp [isDone, unlimited])]
      exact List.mem_filter.mpr ⟨member, pending⟩
    have embeds : service.embeds item = true := by
      have none := List.countP_eq_zero.mp (works.failed.symm.trans flawless) item tried_item
      simpa using none
    cases answer : service item.canonicalText with
    | error fault =>
      rw [Service.embeds_of_error answer] at embeds
      cases embeds
    | ok vector =>
      rw [outcomeOf_of_ok tried_item answer]
      exact not_isPending_embedded _ _ _ _ (answers _ _ answer)

/-- A run over a catalog that keeps every item under its own id leaves every item in its place, and
it stores a vector and a note with those that it embeds and changes nothing else. If all could be
embedded, no later run for the same kind asks for a text or changes an item. -/
theorem run_outcome {memory : Memory} (keyed : memory.catalog.Keyed (·.id))
    (parsed : ∀ item ∈ memory.catalog.values, ∃ row, Item.parse row = .ok item)
    (clock : order.now.IsWritable)
    (answers : ∀ text vector, service text = .ok vector → vector ≠ [])
    (bounded : ∀ bound ∈ order.limit, 0 ≤ bound) (asked : List String) :
    ∃ tried report catalog,
      (run watched service.watched order).outcome ⟨asked, memory⟩ =
        (.ok report, ⟨asked ++ tried.map (·.canonicalText), { memory with catalog }⟩) ∧
      catalog.values = memory.catalog.values.map (outcomeOf service order tried) ∧
      Works service order memory.catalog.values tried report ∧
      (order.limit = none → report.failed = 0 →
        ∀ (later : Order) (other : Service) (heard : List String), later.kind = order.kind →
          (run watched other.watched later).outcome ⟨heard, { memory with catalog }⟩ =
            (.ok ⟨0, 0⟩, ⟨heard, { memory with catalog }⟩)) := by
  have sound : memory.catalog.IsSound := ⟨keyed, fun item member => by
    obtain ⟨row, reads⟩ := parsed item member
    exact Item.writable_of_parse reads⟩
  obtain ⟨catalog, -, runs, values⟩ := runFrom_outcome service sound clock
    (fun _ member => member) keyed.nodup_values ⟨0, 0⟩ asked
  have works := works_attempted keyed.nodup_values answers bounded
  rw [Nat.zero_add, Nat.zero_add, ← run_eq] at runs
  refine ⟨_, _, catalog, runs, values, works, fun unlimited flawless later other heard same => ?_⟩
  refine run_idle (fun item member => ?_) heard
  rw [values] at member
  obtain ⟨before, listed, rfl⟩ := List.mem_map.mp member
  rw [same]
  exact works.not_isPending answers unlimited flawless before listed

section Sample

/-- An item with a fabric vector, and with a style vector or without one. -/
def sampleWoven (id : String) (style : Option (List Float)) : Item :=
  ⟨id, id, none, 20.0, "USD", "loom", none, [], [], some ⟨style, some [0.75]⟩, none, none, none,
    .accessory none⟩

/-- Stores with an item that has a style vector, and two that have none. -/
def sampleStores : Memory :=
  .ofParts [sampleWoven "shirt" (some [1.0]), sampleWoven "belt" none, sampleWoven "scarf" none]
    [] []

/-- A service that has no vector for belts. -/
def sampleService : Service := fun text =>
  if text = "belt" then .error noVector else .ok [0.5, 0.25]

/-- An order for all items. -/
def sampleOrder : Order := ⟨none, none, "small", sampleClock⟩

/-- The items of the stores are read from their own rows. -/
theorem sampleStores_parsed :
    ∀ item ∈ sampleStores.catalog.values, ∃ row, Item.parse row = .ok item := by
  have each : ∀ id style, ∃ row, Item.parse row = .ok (sampleWoven id style) := fun id style =>
    ⟨_, Item.parse_toStoredRow (show (sampleWoven id style).IsWritable from ⟨nofun, nofun⟩)⟩
  intro item member
  have among : item ∈ [sampleWoven "shirt" (some [1.0]), sampleWoven "belt" none,
    sampleWoven "scarf" none] := member
  simp only [List.mem_cons, List.not_mem_nil, or_false] at among
  rcases among with rfl | rfl | rfl <;> exact each _ _

/-- The moment of the order can be written. -/
theorem sampleOrder_writable : sampleOrder.now.IsWritable := by
  refine ⟨by decide, by decide, ?_, ?_⟩ <;> simp [sampleOrder, sampleClock]

/-- The scarf is embedded, and the belt is not. -/
theorem run_outcome_sample :
    sampleStores.catalog.Keyed (·.id) ∧
    (∀ item ∈ sampleStores.catalog.values, ∃ row, Item.parse row = .ok item) ∧
    sampleOrder.now.IsWritable ∧
    (∀ text vector, sampleService text = .ok vector → vector ≠ []) ∧
    (∀ bound ∈ sampleOrder.limit, 0 ≤ bound) ∧
    ((run watched sampleService.watched sampleOrder).outcome ⟨[], sampleStores⟩).1.toOption =
      some ⟨1, 1⟩ ∧
    ((run watched sampleService.watched sampleOrder).outcome ⟨[], sampleStores⟩).2.asked =
      ["belt", "scarf"] ∧
    ∃ tried report catalog,
      (run watched sampleService.watched sampleOrder).outcome ⟨[], sampleStores⟩ =
        (.ok report, ⟨tried.map (·.canonicalText), { sampleStores with catalog }⟩) ∧
      catalog.values = sampleStores.catalog.values.map (outcomeOf sampleService sampleOrder tried) ∧
      Works sampleService sampleOrder sampleStores.catalog.values tried report := by
  have keyed : sampleStores.catalog.Keyed (·.id) := Catalog.ofItems_keyed _
  have answers : ∀ text vector, sampleService text = .ok vector → vector ≠ [] := by
    intro text vector answer
    rw [sampleService] at answer
    split at answer <;> cases answer
    exact List.cons_ne_nil _ _
  have bounded : ∀ bound ∈ sampleOrder.limit, 0 ≤ bound := nofun
  obtain ⟨tried, report, catalog, runs, values, works, -⟩ :=
    run_outcome keyed sampleStores_parsed sampleOrder_writable answers bounded []
  exact ⟨keyed, sampleStores_parsed, sampleOrder_writable, answers, bounded, by decide +kernel,
    by decide +kernel, tried, report, catalog, runs, values, works⟩

/-- The stores after the scarf was given another id where it stands. -/
def sampleRenamed : Memory :=
  (Memory.perform (.update "scarf" [("item_id", .str "shawl")])).outcome
    (.ofParts [sampleWoven "scarf" none] [] []) |>.2

/-- An item under an id that is not its own is counted, but the vector is not stored: no item has
one after the run, and a second run asks for the text again. -/
theorem run_renamed :
    ((run watched sampleService.watched sampleOrder).outcome ⟨[], sampleRenamed⟩).1.toOption =
      some ⟨1, 0⟩ ∧
    ((run watched sampleService.watched sampleOrder).outcome
      ⟨[], sampleRenamed⟩).2.stores.catalog.values.map (·.styleVector?.isSome) = [false] ∧
    ((run watched sampleService.watched sampleOrder).outcome
      ((run watched sampleService.watched sampleOrder).outcome ⟨[], sampleRenamed⟩).2).2.asked =
        ["scarf", "scarf"] := by
  decide +kernel

end Sample

end Backfill

end Storefront
