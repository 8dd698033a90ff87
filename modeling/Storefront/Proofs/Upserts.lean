import Storefront.Proofs.Batches
import Storefront.Proofs.Guarantees
import Storefront.Proofs.Outages
/-!
# Imports can be repeated

Adding items to a catalog one after the other keeps, under every id, the last of the items that have
it; known ids keep their places and new ids go to the end. So what was added before is overwritten
when it is added again: an import that is repeated, or that is taken up again after the store failed
in the middle of it, leaves the catalog of one import that went through.
-/

namespace Storefront

namespace Table

variable {α : Type}

/-- Of two values stored under one key the second one counts. -/
theorem put_put (table : Table α) (key : String) (first second : α) :
    (table.put key first).put key second = table.put key second := by
  obtain ⟨entries⟩ := table
  refine congrArg Table.mk ?_
  change putEntry key second (putEntry key first entries) = putEntry key second entries
  induction entries with
  | nil => simp [putEntry]
  | cons entry rest ih =>
    by_cases here : entry.1 = key
    · simp [putEntry, here]
    · simp [putEntry, here, ih]

/-- Storing under a key that is there already can be exchanged with storing under another key. -/
theorem put_comm {table : Table α} {key other : String} (known : key ∈ table.keys)
    (different : key ≠ other) (value another : α) :
    (table.put key value).put other another = (table.put other another).put key value := by
  obtain ⟨entries⟩ := table
  refine congrArg Table.mk ?_
  change putEntry other another (putEntry key value entries) =
    putEntry key value (putEntry other another entries)
  replace known : key ∈ entries.map Prod.fst := known
  induction entries with
  | nil => cases known
  | cons entry rest ih =>
    by_cases here : entry.1 = key
    · simp [putEntry, here, different]
    · have later : key ∈ rest.map Prod.fst :=
        (List.mem_cons.mp known).resolve_left fun same => here same.symm
      by_cases there : entry.1 = other
      · simp [putEntry, there, Ne.symm different]
      · simp [putEntry, here, there, ih later]

/-- Storing again what is found under a key changes nothing. -/
theorem put_of_find? {table : Table α} {key : String} {value : α}
    (found : table.find? key = some value) : table.put key value = table := by
  obtain ⟨entries⟩ := table
  refine congrArg Table.mk ?_
  replace found : entries.lookup key = some value := found
  induction entries with
  | nil => cases found
  | cons entry rest ih =>
    rw [List.lookup_cons] at found
    by_cases here : entry.1 = key
    · subst here
      simp at found
      simp [putEntry, ← found]
    · rw [beq_false_of_ne (Ne.symm here)] at found
      simp [putEntry, here, ih found]

/-- A key is known after storing if it was known before or is the key stored under. -/
theorem mem_keys_put {table : Table α} {key name : String} {value : α} :
    name ∈ (table.put key value).keys ↔ name ∈ table.keys ∨ name = key := by
  change name ∈ (putEntry key value table.entries).map Prod.fst ↔ _
  rw [keys_putEntry]
  split
  · next known => exact ⟨.inl, fun either => either.elim id fun same => same ▸ known⟩
  · rw [List.mem_append, List.mem_singleton]
    rfl

/-- A key under which a value is found is known. -/
theorem mem_keys_of_find? {table : Table α} {key : String} {value : α}
    (found : table.find? key = some value) : key ∈ table.keys := by
  obtain ⟨before, after, same, -⟩ := List.lookup_eq_some_iff.mp found
  rw [keys, same]
  simp

/-- A value that is found is one of the values. -/
theorem mem_values_of_find? {table : Table α} {key : String} {value : α}
    (found : table.find? key = some value) : value ∈ table.values := by
  obtain ⟨before, after, same, -⟩ := List.lookup_eq_some_iff.mp found
  rw [values, same]
  simp

/-- An entry under another key keeps its place. -/
theorem getElem?_put {table : Table α} {key : String} {value : α} {index : Nat}
    {entry : String × α} (there : table.entries[index]? = some entry) (other : entry.1 ≠ key) :
    (table.put key value).entries[index]? = some entry := by
  obtain ⟨entries⟩ := table
  change (putEntry key value entries)[index]? = some entry
  replace there : entries[index]? = some entry := there
  induction entries generalizing index with
  | nil => cases there
  | cons first rest ih =>
    unfold putEntry
    cases index with
    | zero =>
      cases there
      rw [if_neg other]
      rfl
    | succ index =>
      have there : rest[index]? = some entry := there
      split
      · exact there
      · exact ih there

end Table

namespace Catalog

/-- Add items one after the other. -/
def addAll (catalog : Catalog) (items : List Item) : Catalog := items.foldl add catalog

/-- The last of some items that has an id. -/
def lastOf (items : List Item) (id : String) : Option Item := items.findRev? (·.id == id)

variable {catalog : Catalog} {items : List Item}

/-- The last item with an id is looked for behind the first item first. -/
theorem lastOf_cons (item : Item) (rest : List Item) (id : String) :
    lastOf (item :: rest) id =
      (lastOf rest id).or (if item.id = id then some item else none) := by
  unfold lastOf
  simp only [List.findRev?_eq_find?_reverse, List.reverse_cons, List.find?_append]
  by_cases same : item.id = id <;> simp [same]

/-- There is a last item with an id exactly if there is an item with it. -/
theorem lastOf_isSome_iff {id : String} :
    (lastOf items id).isSome = true ↔ id ∈ items.map (·.id) := by
  induction items with
  | nil => simp [lastOf, List.findRev?]
  | cons item rest ih =>
    rw [lastOf_cons, Option.isSome_or, Bool.or_eq_true, ih, List.map_cons, List.mem_cons]
    by_cases same : item.id = id
    · simp [same]
    · simp [same, Ne.symm same]

/-- Under every id the last item that was added under it is found. -/
theorem find?_addAll (catalog : Catalog) (items : List Item) (id : String) :
    (catalog.addAll items).find? id = (lastOf items id).or (catalog.find? id) := by
  induction items generalizing catalog with
  | nil => rfl
  | cons item rest ih =>
    change ((catalog.add item).addAll rest).find? id = _
    rw [ih, add, Table.find?_put, lastOf_cons]
    by_cases same : item.id = id
    · simp [same]
    · simp [same, Ne.symm same]

/-- An item whose id comes again later is overwritten. -/
theorem addAll_put {id : String} (known : id ∈ catalog.keys) (again : id ∈ items.map (·.id))
    (item : Item) : addAll (catalog.put id item) items = catalog.addAll items := by
  induction items generalizing catalog with
  | nil => cases again
  | cons first rest ih =>
    change addAll (add (catalog.put id item) first) rest = addAll (catalog.add first) rest
    by_cases same : first.id = id
    · rw [add, add, same, Table.put_put]
    · have later : id ∈ rest.map (·.id) :=
        (List.mem_cons.mp again).resolve_left fun equal => same equal.symm
      rw [add, Table.put_comm known (Ne.symm same)]
      exact ih (Table.mem_keys_put.mpr (.inl known)) later

/-- Adding items changes nothing if the last one under each of their ids is there already. -/
theorem addAll_of_holds (holds : ∀ id ∈ items.map (·.id), catalog.find? id = lastOf items id) :
    catalog.addAll items = catalog := by
  induction items with
  | nil => rfl
  | cons item rest ih =>
    have later : ∀ id ∈ rest.map (·.id), catalog.find? id = lastOf rest id := by
      intro id member
      obtain ⟨last, isLast⟩ := Option.isSome_iff_exists.mp (lastOf_isSome_iff.mpr member)
      rw [holds id (List.mem_cons_of_mem _ member), lastOf_cons, isLast, Option.some_or]
    change addAll (catalog.put item.id item) rest = catalog
    -- An item that comes again is overwritten by the rest; any other one is there already.
    by_cases again : item.id ∈ rest.map (·.id)
    · obtain ⟨last, isLast⟩ := Option.isSome_iff_exists.mp (lastOf_isSome_iff.mpr again)
      have known := Table.mem_keys_of_find? ((later item.id again).trans isLast)
      rw [addAll_put known again, ih later]
    · have none : lastOf rest item.id = none :=
        Option.not_isSome_iff_eq_none.mp fun some => again (lastOf_isSome_iff.mp some)
      have found : catalog.find? item.id = some item := by
        rw [holds item.id List.mem_cons_self, lastOf_cons, none, if_pos rfl, Option.none_or]
      rw [Table.put_of_find? found, ih later]

/-- Items that were added may be added again. -/
theorem addAll_addAll (catalog : Catalog) (items : List Item) :
    (catalog.addAll items).addAll items = catalog.addAll items := by
  refine addAll_of_holds fun id member => ?_
  obtain ⟨last, isLast⟩ := Option.isSome_iff_exists.mp (lastOf_isSome_iff.mpr member)
  rw [find?_addAll, isLast, Option.some_or]

/-- Items may be added again from the first one on after some of them were added. -/
theorem addAll_resumed (catalog : Catalog) (stored rest : List Item) :
    (catalog.addAll stored).addAll (stored ++ rest) = catalog.addAll (stored ++ rest) := by
  have joined : ∀ catalog : Catalog,
      catalog.addAll (stored ++ rest) = (catalog.addAll stored).addAll rest :=
    fun catalog => List.foldl_append
  rw [joined, joined, addAll_addAll]

/-- An entry under an id that no added item has keeps its place. -/
theorem getElem?_addAll {index : Nat} {entry : String × Item}
    (there : catalog.entries[index]? = some entry) (other : entry.1 ∉ items.map (·.id)) :
    (catalog.addAll items).entries[index]? = some entry := by
  induction items generalizing catalog with
  | nil => exact there
  | cons item rest ih =>
    obtain ⟨first, later⟩ := not_or.mp (mt List.mem_cons.mpr other)
    exact ih (Table.getElem?_put there first) later

end Catalog

namespace Http

open Listing

/-- The stores with items added to the catalog. -/
def added (memory : Memory) (items : List Item) : Memory :=
  { memory with catalog := memory.catalog.addAll items }

/-- The stores take all items. -/
theorem addItems_outcome {world : Collaborators Memory}
    (stores : world.addItem = Memory.collaborators.addItem) (items : List Item) (memory : Memory) :
    (Service.addItems world items).outcome memory = (.ok (), added memory items) := by
  induction items generalizing memory with
  | nil => rfl
  | cons item rest ih =>
    rw [Service.addItems, Call.outcome_bind, stores]
    change (Service.addItems world rest).outcome (added memory [item]) = _
    rw [ih]
    rfl

/-- A counted store takes an item unless the number of the call is chosen. -/
theorem addItem_struck (chosen : Nat → Option Fault) (item : Item) (calls : Nat)
    (memory : Memory) :
    ((Memory.collaborators.struck chosen false).addItem item).outcome ⟨calls, memory⟩ =
      match chosen calls with
      | some fault => (.error fault, ⟨calls + 1, memory⟩)
      | none => (.ok (), ⟨calls + 1, added memory [item]⟩) := by
  simp only [Collaborators.struck, Call.struck, Call.outcome_ofOutcome]
  cases chosen calls <;> rfl

/-- Stores that fail at some call for the first time take the items before it. -/
theorem addItems_struck {world : Collaborators (Counted Memory)} {chosen : Nat → Option Fault}
    (stores : world.addItem = (Memory.collaborators.struck chosen false).addItem)
    {stored rest : List Item} {next : Item} {fault : Fault} {calls : Nat} (memory : Memory)
    (healthy : ∀ i < stored.length, chosen (calls + i) = none)
    (strikes : chosen (calls + stored.length) = some fault) :
    (Service.addItems world (stored ++ next :: rest)).outcome ⟨calls, memory⟩ =
      (.error fault, ⟨calls + stored.length + 1, added memory stored⟩) := by
  induction stored generalizing calls memory with
  | nil =>
    rw [List.nil_append, Service.addItems, Call.outcome_bind, stores, addItem_struck,
      show chosen calls = some fault from strikes]
    rfl
  | cons item stored ih =>
    have first : chosen calls = none := healthy 0 (Nat.succ_pos _)
    rw [List.cons_append, Service.addItems, Call.outcome_bind, stores, addItem_struck, first]
    have onward : ∀ count, calls + 1 + count = calls + (count + 1) := fun count => by omega
    have healthy : ∀ i < stored.length, chosen (calls + 1 + i) = none :=
      fun i below => onward i ▸ healthy (i + 1) (Nat.succ_lt_succ below)
    have strikes : chosen (calls + 1 + stored.length) = some fault :=
      onward stored.length ▸ strikes
    change (Service.addItems world (stored ++ next :: rest)).outcome
      ⟨calls + 1, added memory [item]⟩ = _
    rw [ih (added memory [item]) healthy strikes, onward]
    rfl

/-- An import whose rows give items leaves the catalog with the items added, and importing again
changes nothing and reports the same. If the store fails at some item, the items before it stay and
the import is not available; importing all rows again then does what one import of the original
stores does. Afterwards the last item with each imported id is found, and every entry under another
id is as it was and where it was. -/
theorem import_repeats {service : Service Memory}
    (stores : service.feeds.world.addItem = Memory.collaborators.addItem)
    {request : ImportRequest} {items : List Item}
    (given : normalizeAll request.source request.vendor request.rows = .ok items)
    (base : Memory) :
    let run := (service.importListings request).outcome
    let report := importReport items.length (request.rows.length - items.length)
      (items.map (·.id))
    run base = (.ok report, added base items) ∧
    run (added base items) = run base ∧
    (∀ (failing : Service (Counted Memory)) (chosen : Nat → Option Fault) (calls : Nat),
      failing.feeds.world.addItem = (service.feeds.world.struck chosen false).addItem →
      ∀ stored next rest fault, items = stored ++ next :: rest →
        (∀ i < stored.length, chosen (calls + i) = none) →
        chosen (calls + stored.length) = some fault →
        (failing.importListings request).outcome ⟨calls, base⟩ =
          (.ok (.detail 503 "Catalog store unavailable"),
            ⟨calls + stored.length + 1, added base stored⟩) ∧
        run (added base stored) = run base) ∧
    (∀ id ∈ items.map (·.id), ∃ last, Catalog.lastOf items id = some last ∧
      (added base items).catalog.find? id = some last) ∧
    (∀ id ∉ items.map (·.id),
      (added base items).catalog.find? id = base.catalog.find? id) ∧
    ∀ (index : Nat) (entry : String × Item), base.catalog.entries[index]? = some entry →
      entry.1 ∉ items.map (·.id) →
      (added base items).catalog.entries[index]? = some entry := by
  intro run report
  have runs : ∀ memory, run memory = (.ok report, added memory items) := by
    intro memory
    change (service.importListings request).outcome memory = _
    rw [importListings_outcome service given, addItems_outcome stores]
  refine ⟨runs base, ?again, ?failing, ?found, ?untouched, ?place⟩
  case again =>
    rw [runs, runs, added, added, Catalog.addAll_addAll]
  case failing =>
    intro failing chosen calls fails stored next rest fault split healthy strikes
    replace fails : failing.feeds.world.addItem =
        (Memory.collaborators.struck chosen false).addItem := by
      rw [fails, Collaborators.struck, Collaborators.struck, stores]
    constructor
    · rw [importListings_outcome failing given, split,
        addItems_struck fails base healthy strikes]
    · rw [runs, runs, added, added, split, Catalog.addAll_resumed]
      rfl
  case found =>
    intro id member
    obtain ⟨last, isLast⟩ := Option.isSome_iff_exists.mp (Catalog.lastOf_isSome_iff.mpr member)
    refine ⟨last, isLast, ?_⟩
    rw [added, Catalog.find?_addAll, isLast, Option.some_or]
  case untouched =>
    intro id absent
    have none : Catalog.lastOf items id = none :=
      Option.not_isSome_iff_eq_none.mp fun some => absent (Catalog.lastOf_isSome_iff.mp some)
    rw [added, Catalog.find?_addAll, none, Option.none_or]
  case place => exact fun index entry there other => Catalog.getElem?_addAll there other

/-- A service over collaborators that keeps events, takes every text for general browsing and has no
database. -/
def plainService {σ : Type} (world : Collaborators σ) (settings : Settings) : Service σ where
  feeds := ⟨world, Memory.sampleSetup.profile, true, Memory.sampleLookups⟩
  settings
  record event := (fun _ => event) <$> world.logEvent event
  route _ := pure (.browsing 0.0 [])
  eventCount _ := 0
  database := ⟨false, .ok false⟩

/-- Three rows of a vendor of which the first and the last one have one identifier. -/
def repeatedRows : List Row :=
  [[("id", .str "1"), ("name", .str "One")], [("id", .str "2"), ("name", .str "Two")],
    [("id", .str "1"), ("name", .str "One again")]]

/-- The second call fails. -/
def secondFails (call : Nat) : Option Fault := if call = 1 then some (.badRequest "late") else none

/-- Three rows are imported into the sample stores once and again, or taken up again after the store
failed at the second one. -/
theorem import_repeats_sample :
    ∃ settings items stopped, Settings.load [] Settings.rehearsalDefaults = .ok settings ∧
      normalizeAll "etsy" none repeatedRows = .ok items ∧ items.map (·.id) = ["1", "2", "1"] ∧
      let request : ImportRequest := ⟨"etsy", none, repeatedRows⟩
      let run := ((plainService Memory.collaborators settings).importListings request).outcome
      let failing := plainService (Memory.collaborators.struck secondFails false) settings
      (run Memory.sample).1 = .ok (importReport 3 0 ["1", "2", "1"]) ∧
        run (run Memory.sample).2 = run Memory.sample ∧
        (failing.importListings request).outcome ⟨0, Memory.sample⟩ =
          (.ok (.detail 503 "Catalog store unavailable"), ⟨2, stopped⟩) ∧
        run stopped = run Memory.sample := by
  obtain ⟨settings, loads⟩ := Call.ok_of_isSome (show (Settings.load []
    Settings.rehearsalDefaults).toOption.isSome = true by decide +kernel)
  obtain ⟨items, given, ids⟩ := Call.ok_of_toOption_map (show
    (normalizeAll "etsy" none repeatedRows).toOption.map (·.map (·.id)) =
      some ["1", "2", "1"] by decide +kernel)
  obtain ⟨first, rest, rfl, -, two⟩ := List.map_eq_cons_iff.mp ids
  obtain ⟨next, last, rfl, -, one⟩ := List.map_eq_cons_iff.mp two
  let service := plainService Memory.collaborators settings
  let request : ImportRequest := ⟨"etsy", none, repeatedRows⟩
  have stores : service.feeds.world.addItem = Memory.collaborators.addItem := rfl
  have normalized : normalizeAll request.source request.vendor request.rows = _ := given
  obtain ⟨imports, again, failing, -⟩ := import_repeats stores normalized Memory.sample
  have healthy : ∀ i < [first].length, secondFails (0 + i) = none := by
    intro i below
    rw [Nat.lt_one_iff.mp below]
    rfl
  obtain ⟨unavailable, resumed⟩ := failing
    (plainService (Memory.collaborators.struck secondFails false) settings) secondFails 0 rfl
    [first] next last (.badRequest "late") rfl healthy rfl
  refine ⟨settings, _, added Memory.sample [first], loads, given, ids, ?_, ?_, unavailable,
    resumed⟩
  · have three : (first :: next :: last).length = 3 := by
      rw [← List.length_map (·.id), ids]
      rfl
    rw [imports, ids, three]
    rfl
  · rw [congrArg Prod.snd imports]
    exact again

end Http

end Storefront
