import Storefront.Feed.Retrieval
import Storefront.Proofs.Sorting
import Storefront.Proofs.Stores
/-!
# How full a retrieved page is

Over stores in memory the search and the newest items are two orders of one catalog. Where the
search finds too few items for a page, twice as many of the newest ones are fetched as the page
lacks, and those that were found already are dropped. So a page falls short exactly if too many of
the fetched items were found already; no page does of which the search fills at most half.
-/

namespace Storefront

/-- Whether an attribute is a date with an offset. -/
def Attribute.hasOffset : Attribute → Bool
  | .moment date => date.offset.isSome
  | _ => false

/-- Where two attributes can be compared, both are dates with offsets or neither is. -/
theorem Attribute.hasOffset_eq_of_less {first second : Attribute} {lower : Bool}
    (compared : less first second = .ok lower) : first.hasOffset = second.hasOffset := by
  cases first <;> cases second <;> simp only [less, reduceCtorEq] at compared
  case value.value => rfl
  case moment.moment date other =>
    split at compared
    · next same => exact eq_of_beq same
    · cases compared

namespace Catalog

variable {catalog : Catalog}

/-- Any two dates of items can be compared. -/
def DatesCompare (catalog : Catalog) : Prop :=
  ∀ first ∈ catalog.values, ∀ second ∈ catalog.values,
    ∀ date ∈ first.createdAt, ∀ other ∈ second.createdAt, date.comparable other = true

instance (catalog : Catalog) : Decidable catalog.DatesCompare :=
  inferInstanceAs (Decidable (∀ first ∈ catalog.values, ∀ second ∈ catalog.values,
    ∀ date ∈ first.createdAt, ∀ other ∈ second.createdAt, date.comparable other = true))

/-- The items by their dates, the newest first. -/
def latest (catalog : Catalog) : List Item :=
  (catalog.listItems (.newest none)).toOption.getD []

/-- A catalog has an item for every id. -/
theorem length_values (catalog : Catalog) : catalog.values.length = catalog.size := by
  rw [Table.values, List.length_map, Table.size]

/-- Without wanted values all items are wanted. -/
theorem wanted_none (catalog : Catalog) : catalog.wanted none = catalog.values :=
  List.filter_eq_self.mpr fun _ _ => rfl

/-- Without an order and a limit the catalog lists its items in their order. -/
theorem listItems_everything (catalog : Catalog) :
    catalog.listItems .everything = .ok catalog.values := congrArg Except.ok (wanted_none catalog)

/-- The instant at which an item was added. Items without a date are not told apart. -/
def addedInstant (item : Item) : Int := (item.createdAt.map Moment.instant).getD 0

/-- The items from the last one added to the first, and then those without a date. -/
def byDate (catalog : Catalog) : List Item :=
  Sequence.descending (Sequence.ranksBelow addedInstant)
      (catalog.values.filter fun item => item.createdAt.isSome) ++
    catalog.values.filter fun item => item.createdAt.isNone

/-- An order by date compares items of the catalog by their dates. -/
theorem mem_withAttribute_date {entry : Attribute × Item}
    (member : entry ∈ withAttribute "created_at" catalog.values) :
    entry.2 ∈ catalog.values ∧
      ∃ date, entry.2.createdAt = some date ∧ entry.1 = .moment date := by
  obtain ⟨item, stored, held⟩ := List.mem_filterMap.mp member
  obtain ⟨held, found, rfl⟩ := Option.map_eq_some_iff.mp held
  obtain ⟨date, known, rfl⟩ := Option.map_eq_some_iff.mp found
  exact ⟨stored, date, known, rfl⟩

/-- An attribute's name is the order upward, and with a minus in front the order downward. -/
theorem orderedBy_name {name : String} (plain : name.startsWith "-" = false) :
    orderedBy name = name ∧ orderedBy ("-" ++ name) = name ∧
      ("-" ++ name).startsWith "-" = true := by
  have kept : name.toList.dropWhile (· == '-') = name.toList := by
    rw [String.startsWith_string_eq_false_iff] at plain
    cases letters : name.toList with
    | nil => rfl
    | cons first rest =>
      refine List.dropWhile_cons_of_neg fun minus => plain ?_
      rw [letters, eq_of_beq minus]
      exact List.prefix_append ['-'] rest
  simp [orderedBy, kept]

/-- An order by date, newest first, sorts the items that have one from the greatest date down. -/
theorem inOrder_date (items : List Item) :
    inOrder "-created_at" items =
      (Sequence.descendingM (fun a b => Attribute.less a.1 b.1)
        (withAttribute "created_at" items)).map
        fun sorted => sorted.map Prod.snd ++ withoutAttribute "created_at" items := by
  have named := orderedBy_name (show "created_at".startsWith "-" = false by cbv)
  rw [show "-" ++ "created_at" = "-created_at" by decide] at named
  simp only [inOrder, named.2.1, named.2.2, if_true]
  cases Sequence.descendingM (fun a b => Attribute.less a.1 b.1)
    (withAttribute "created_at" items) <;> rfl

/-- Items whose dates can be compared have an order by date. -/
theorem inOrder_date_eq (compares : catalog.DatesCompare) :
    inOrder "-created_at" catalog.values = .ok catalog.byDate := by
  have sorts : Sequence.descendingM (fun a b => Attribute.less a.1 b.1)
      (withAttribute "created_at" catalog.values) =
      .ok (Sequence.descending (fun a b => Sequence.ranksBelow addedInstant a.2 b.2)
        (withAttribute "created_at" catalog.values)) := by
    refine Sequence.descendingM_eq fun first member second other => ?_
    obtain ⟨stored, date, known, moment⟩ := mem_withAttribute_date member
    obtain ⟨alsoStored, later, alsoKnown, otherMoment⟩ := mem_withAttribute_date other
    rw [moment, otherMoment, Attribute.less,
      if_pos (compares _ stored _ alsoStored date known later alsoKnown), Sequence.ranksBelow,
      addedInstant, addedInstant, known, alsoKnown]
    rfl
  have dated : ∀ item : Item, (item.attribute? "created_at").isSome = item.createdAt.isSome :=
    fun item => Option.isSome_map
  have undated : ∀ item : Item, (item.attribute? "created_at").isNone = item.createdAt.isNone :=
    fun item => Option.isNone_map
  rw [inOrder_date, sorts, Except.map, Sequence.map_descending Prod.snd, map_withAttribute, byDate]
  simp only [dated, undated, withoutAttribute]

/-- Items that have an order by date have dates that can be compared. -/
theorem datesCompare_of_inOrder {ordered : List Item}
    (sorts : inOrder "-created_at" catalog.values = .ok ordered) : catalog.DatesCompare := by
  -- No comparison succeeds between a date with an offset and one without.
  have apart : ∀ first second : Attribute × Item, ∀ lower,
      Attribute.less first.1 second.1 = .ok lower → first.1.hasOffset = second.1.hasOffset :=
    fun _ _ _ compared => Attribute.hasOffset_eq_of_less compared
  rw [inOrder_date] at sorts
  obtain ⟨sorted, down, -⟩ := Call.map_eq_ok_iff.mp sorts
  intro first stored second alsoStored date known other alsoKnown
  have entry : ∀ {item : Item} {date : Moment}, item ∈ catalog.values →
      date ∈ item.createdAt → (.moment date, item) ∈ withAttribute "created_at" catalog.values := by
    intro item date stored known
    refine List.mem_filterMap.mpr ⟨item, stored, ?_⟩
    rw [show item.attribute? "created_at" = item.createdAt.map .moment from rfl, known]
    rfl
  have alike := Sequence.kind_eq_of_descendingM apart down _ (entry stored known) _
    (entry alsoStored alsoKnown)
  exact beq_iff_eq.mpr alike

/-- A catalog whose dates can be compared lists its items by date. -/
theorem listItems_date (compares : catalog.DatesCompare) (limit : Option Int) :
    catalog.listItems (.newest limit) = .ok (Sequence.cutAt limit catalog.byDate) := by
  have sorted : inOrder "-created_at" (catalog.wanted none) = .ok catalog.byDate := by
    rw [wanted_none, inOrder_date_eq compares]
  unfold listItems CatalogQuery.newest
  exact Call.bind_eq_ok_iff.mpr ⟨catalog.byDate, sorted, rfl⟩

/-- The newest items of a catalog are its items by date, if its dates can be compared, and nothing
otherwise. -/
theorem latest_eq (catalog : Catalog) :
    (catalog.DatesCompare → catalog.latest = catalog.byDate) ∧
      (¬ catalog.DatesCompare → catalog.latest = []) := by
  constructor
  · intro compares
    rw [latest, listItems_date compares]
    rfl
  · intro mixed
    rw [latest]
    rcases lists : catalog.listItems (.newest none) with fault | items
    · rfl
    · unfold listItems CatalogQuery.newest at lists
      obtain ⟨ordered, sorts, -⟩ := Call.bind_eq_ok_iff.mp lists
      rw [wanted_none] at sorts
      exact absurd (datesCompare_of_inOrder sorts) mixed

/-- A catalog whose dates can be compared lists its newest items: a front part of all of them. -/
theorem listItems_newest (compares : catalog.DatesCompare) :
    catalog.latest.Perm catalog.values ∧
      ∀ limit, catalog.listItems (.newest (some limit)) =
        .ok (Sequence.cut limit catalog.latest) := by
  rw [(latest_eq catalog).1 compares]
  exact ⟨inOrder_perm (inOrder_date_eq compares), fun limit => listItems_date compares (some limit)⟩

/-- What a search finds has the ids of a rearranged part of the catalog, and there is no more of it
than asked for. -/
theorem search_finds {query : SearchQuery} {items : List Item}
    (finds : catalog.search query = .ok items) :
    (items.map (·.id)).Subperm (catalog.values.map (·.id)) ∧
      (0 ≤ query.limit → (items.length : Int) ≤ query.limit) := by
  simp only [search, Call.bind_eq_ok_iff, Call.pure_eq_ok, Except.ok.injEq] at finds
  obtain ⟨vectorOf, -, rfl⟩ := finds
  constructor
  · obtain ⟨near, rearranged, part⟩ := Vector.nearest_subperm query.vector vectorOf query.limit
      (catalog.wanted query.filters)
    refine ⟨near.map (·.id), ?_, (part.trans List.filter_sublist).map (·.id)⟩
    have ids := rearranged.map (·.id)
    rwa [List.map_map] at ids ⊢
  · intro nonneg
    rw [List.length_map, Vector.nearest]
    split
    · exact nonneg
    · exact Sequence.length_cut_le nonneg _

end Catalog

/-- A question to the stores with an answer to fall back on leaves the stores as they are. -/
theorem Memory.ask_orElse_run {α : Type} (answer : Memory → Except Fault α) (fallback : α)
    (memory : Memory) :
    ((ask answer).orElse fallback).run memory =
      ((answer memory).toOption.getD fallback, memory) := by
  rw [Call.orElse_run, ask, Call.outcome_ofOutcome]
  cases answer memory <;> rfl

namespace Retrieval

variable {catalog : Catalog} {memory : Memory} {request : Request}

/-- What the search of a request finds in a catalog; a search that fails finds nothing. -/
def found (catalog : Catalog) (request : Request) : List Item :=
  match request.vector with
  | none => []
  | some vector =>
    (catalog.search ⟨vector, request.index, request.limit, request.candidates,
      request.filters⟩).toOption.getD []

/-- How many items the page lacks after the search. -/
def gap (catalog : Catalog) (request : Request) : Nat :=
  request.limit.toNat - (found catalog request).length

/-- The newest items fetched for the gap: twice as many as the page lacks. -/
def topUp (catalog : Catalog) (request : Request) : List Item :=
  catalog.latest.take (2 * gap catalog request)

/-- Whether the search found an item. -/
def isFound (catalog : Catalog) (request : Request) (item : Item) : Bool :=
  ((found catalog request).map (·.id)).contains item.id

/-- How many of the items fetched for the gap were found already. -/
def overlap (catalog : Catalog) (request : Request) : Nat :=
  (topUp catalog request).countP (isFound catalog request)

/-- The items fetched for the gap that were not found already. -/
def fresh (catalog : Catalog) (request : Request) : List Item :=
  (topUp catalog request).filter (!isFound catalog request ·)

/-- A request is answered with as many items as it asks for, or with the whole catalog. -/
def IsFull (memory : Memory) (request : Request) : Prop :=
  ((candidates Memory.collaborators request).run memory).1.length =
    min request.limit.toNat memory.catalog.size

instance (memory : Memory) (request : Request) : Decidable (IsFull memory request) :=
  inferInstanceAs (Decidable (_ = _))

/-- What is found has the ids of a rearranged part of the catalog, and fits the page. -/
theorem found_fits (positive : 1 ≤ request.limit) :
    ((found catalog request).map (·.id)).Subperm (catalog.values.map (·.id)) ∧
      ((found catalog request).length : Int) ≤ request.limit := by
  have nothing : (([] : List Item).map (·.id)).Subperm (catalog.values.map (·.id)) ∧
      (([] : List Item).length : Int) ≤ request.limit :=
    ⟨List.nil_subperm, show (0 : Int) ≤ request.limit by omega⟩
  unfold found
  split
  · exact nothing
  · next vector _ =>
    rcases finds : catalog.search ⟨vector, request.index, request.limit, request.candidates,
      request.filters⟩ with fault | items
    · exact nothing
    · obtain ⟨part, fits⟩ := Catalog.search_finds finds
      exact ⟨part, fits (show 0 ≤ request.limit by omega)⟩

/-- The search of a request leaves the stores as they are. -/
theorem personalized_run (memory : Memory) (request : Request) :
    (personalized Memory.collaborators request).run memory =
      (found memory.catalog request, memory) := by
  unfold personalized found
  cases request.vector with
  | none => rfl
  | some vector => exact Memory.ask_orElse_run _ _ memory

section Built

variable (keyed : catalog.Keyed (·.id)) (compares : catalog.DatesCompare)
  (positive : 1 ≤ request.limit)

include keyed positive in
/-- No two items that are found have one id. -/
theorem found_nodup : ((found catalog request).map (·.id)).Nodup := by
  obtain ⟨ids, rearranged, part⟩ := (found_fits positive).1
  exact rearranged.nodup_iff.mp (keyed.nodup_values.sublist part)

include compares in
/-- What is fetched for the gap is part of the catalog. -/
theorem topUp_subperm (request : Request) : (topUp catalog request).Subperm catalog.values :=
  (List.take_sublist _ _).subperm.trans (Catalog.listItems_newest compares).1.subperm

include compares in
/-- As much is fetched for the gap as there is, up to twice the gap. -/
theorem length_topUp (request : Request) :
    (topUp catalog request).length = min (2 * gap catalog request) catalog.size := by
  rw [topUp, List.length_take, (Catalog.listItems_newest compares).1.length_eq,
    Catalog.length_values]

include keyed compares in
/-- No two items that are fetched for the gap have one id. -/
theorem topUp_nodup (request : Request) : ((topUp catalog request).map (·.id)).Nodup := by
  obtain ⟨items, rearranged, part⟩ := topUp_subperm compares request
  exact (rearranged.map (·.id)).nodup_iff.mp (keyed.nodup_values.sublist (part.map (·.id)))

include keyed compares positive in
/-- The merged batches are what the search found and then the fresh items. -/
theorem dedupe_eq :
    dedupe [found catalog request, topUp catalog request] =
      found catalog request ++ fresh catalog request := by
  rw [dedupe, List.flatten_cons, List.flatten_cons, List.flatten_nil, List.append_nil]
  exact Sequence.firstsBy_append_of_nodup (found_nodup keyed positive)
    (topUp_nodup keyed compares request)

include keyed compares positive in
/-- A catalog has room for what was found and what is fresh. -/
theorem length_merged_le :
    (found catalog request).length + (fresh catalog request).length ≤ catalog.size := by
  have distinct : ((found catalog request ++ fresh catalog request).map (·.id)).Nodup := by
    rw [← dedupe_eq keyed compares positive]
    exact Sequence.firstsBy_nodup _ _
  have part : ((found catalog request ++ fresh catalog request).map (·.id)) ⊆
      catalog.values.map (·.id) := by
    rw [List.map_append, List.append_subset]
    refine ⟨(found_fits positive).1.subset, ?_⟩
    exact List.map_subset _ fun item kept =>
      (topUp_subperm compares request).subset (List.mem_of_mem_filter kept)
  rw [← List.length_append, ← Catalog.length_values]
  exact Sequence.length_le_of_keys distinct part

include keyed compares in
/-- If twice the gap is no less than the catalog, then all of it is found or fresh. -/
theorem size_le_length_merged (enough : catalog.size ≤ 2 * gap catalog request) :
    catalog.size ≤ (found catalog request).length + (fresh catalog request).length := by
  have all : topUp catalog request = catalog.latest := by
    refine List.take_of_length_le ?_
    rwa [(Catalog.listItems_newest compares).1.length_eq, Catalog.length_values]
  have covered : catalog.values.map (·.id) ⊆
      (found catalog request ++ fresh catalog request).map (·.id) := by
    intro id member
    rw [List.map_append, List.mem_append]
    by_cases known : id ∈ (found catalog request).map (·.id)
    · exact .inl known
    · obtain ⟨item, stored, rfl⟩ := List.mem_map.mp member
      have unfound : isFound catalog request item = false := by
        rwa [isFound, ← Bool.not_eq_true, List.contains_iff_mem]
      have fetched : item ∈ topUp catalog request := by
        rw [all]
        exact (Catalog.listItems_newest compares).1.mem_iff.mpr stored
      refine .inr (List.mem_map_of_mem (List.mem_filter.mpr ⟨fetched, ?_⟩))
      rw [unfound]
      rfl
  rw [← List.length_append, ← Catalog.length_values]
  exact Sequence.length_le_of_keys keyed.nodup_values covered

include keyed compares in
/-- No more of the fetched items were found already than were found. -/
theorem overlap_le (request : Request) :
    overlap catalog request ≤ (found catalog request).length := by
  have distinct : (((topUp catalog request).filter (isFound catalog request)).map (·.id)).Nodup :=
    (topUp_nodup keyed compares request).sublist (List.filter_sublist.map _)
  have part : (((topUp catalog request).filter (isFound catalog request)).map (·.id)) ⊆
      (found catalog request).map (·.id) := by
    intro id member
    obtain ⟨item, kept, rfl⟩ := List.mem_map.mp member
    exact List.contains_iff_mem.mp (List.mem_filter.mp kept).2
  rw [overlap, List.countP_eq_length_filter]
  exact Sequence.length_le_of_keys distinct part

end Built

section Runs

variable (keyed : memory.catalog.Keyed (·.id)) (compares : memory.catalog.DatesCompare)
  (positive : 1 ≤ request.limit)

include compares in
/-- For a gap twice as many of the newest items are fetched. -/
theorem newest_run (lacking : ((found memory.catalog request).length : Int) < request.limit) :
    (newest Memory.collaborators
        (2 * (request.limit - (found memory.catalog request).length))).run memory =
      (topUp memory.catalog request, memory) := by
  have asks : ¬ 2 * (request.limit - (found memory.catalog request).length : Int) ≤ 0 := by omega
  have twice : (2 * (request.limit - (found memory.catalog request).length : Int)).toNat =
      2 * gap memory.catalog request := by
    rw [gap]
    omega
  rw [newest, if_neg asks]
  refine (Memory.ask_orElse_run _ _ memory).trans ?_
  rw [(Catalog.listItems_newest compares).2, Sequence.cut_eq_take (by omega), twice]
  rfl

include keyed compares positive in
/-- A request is answered with what the search found and then the fresh items, up to its limit. -/
theorem candidates_run :
    (candidates Memory.collaborators request).run memory =
      ((found memory.catalog request ++ fresh memory.catalog request).take request.limit.toNat,
        memory) := by
  have counted : Sequence.distinctCount ((found memory.catalog request).map (·.id)) =
      (found memory.catalog request).length := by
    rw [Sequence.distinctCount_of_nodup (found_nodup keyed positive), List.length_map]
  rw [← dedupe_eq keyed compares positive, ← Sequence.cut_eq_take (by omega)]
  rw [candidates, StateT.run_bind, personalized_run]
  -- The search has run; what is left to run is the choice whether to fetch.
  change StateT.run (if _ then _ else _) memory = _
  rw [topUpLimit, counted]
  by_cases lacking : ((found memory.catalog request).length : Int) < request.limit
  · rw [if_pos lacking, StateT.run_bind, newest_run compares lacking]
    rfl
  · have nothing : topUp memory.catalog request = [] := by
      have closed : gap memory.catalog request = 0 := by
        rw [gap]
        omega
      rw [topUp, closed]
      rfl
    rw [if_neg lacking, nothing]
    rfl

end Runs

/-- Every item fetched for the gap was found already or is fresh. -/
theorem overlap_add_fresh (catalog : Catalog) (request : Request) :
    overlap catalog request + (fresh catalog request).length =
      (topUp catalog request).length := by
  rw [overlap, fresh, List.countP_eq_length_filter]
  exact (List.length_eq_length_filter_add _).symm

/-- Over a catalog that keeps every item under its id and has dates that can be compared, a request
is answered with what the search found and then the fresh items, up to its limit. The page is full
exactly if the fetched items that were found already are no more than the gap, together with the
places that the whole catalog would leave open. It is always full if the search found at most half
of it. -/
theorem candidates_full_iff (keyed : memory.catalog.Keyed (·.id))
    (compares : memory.catalog.DatesCompare) (positive : 1 ≤ request.limit) :
    (candidates Memory.collaborators request).run memory =
      ((found memory.catalog request ++ fresh memory.catalog request).take request.limit.toNat,
        memory) ∧
    (IsFull memory request ↔
      overlap memory.catalog request ≤
        gap memory.catalog request + (request.limit.toNat - memory.catalog.size)) ∧
    (2 * (found memory.catalog request).length ≤ request.limit.toNat → IsFull memory request) := by
  have answered := candidates_run keyed compares positive
  have shown : IsFull memory request ↔
      min request.limit.toNat
          ((found memory.catalog request).length + (fresh memory.catalog request).length) =
        min request.limit.toNat memory.catalog.size := by
    rw [IsFull, answered, List.length_take, List.length_append]
  have fits : ((found memory.catalog request).length : Int) ≤ request.limit :=
    (found_fits positive).2
  have lacks : gap memory.catalog request =
      request.limit.toNat - (found memory.catalog request).length := rfl
  have fetched := length_topUp compares request
  have split := overlap_add_fresh memory.catalog request
  have within := length_merged_le keyed compares positive
  have reaches : memory.catalog.size ≤ 2 * gap memory.catalog request → _ :=
    size_le_length_merged keyed compares
  have known := overlap_le keyed compares request
  -- The size of the page depends on the merged length alone, so the rest is about numbers.
  refine ⟨answered, ?_, ?_⟩
  · rw [shown]
    omega
  · rw [shown]
    omega

section Sample

/-- An item added on a day of the year 2025, with a style vector or without. -/
def sampleItem (id : String) (day : Int) (style : Option (List Float)) : Item :=
  ⟨id, id, none, 20.0, "USD", "loom", none, [], [], style.map fun vector => ⟨some vector, none⟩,
    none, some ⟨63900000000000000 + day * Moment.perDay, some 0⟩, none, .garment none none⟩

/-- Stores with a new shirt that has a style vector, a scarf, and an old belt that has none. -/
def sampleStores (scarf : Option (List Float)) : Memory :=
  .ofParts [sampleItem "shirt" 3 (some [1.0, 0.0]), sampleItem "scarf" 2 scarf,
    sampleItem "belt" 1 none] [] []

/-- A request for three items near the style vector of the shirt. -/
def sampleRequest : Request := ⟨some [1.0, 0.0], 3, 1000, none, styleIndex⟩

/-- If only the shirt has a style vector, the page holds all three items. -/
theorem candidates_full_iff_sample :
    (sampleStores none).catalog.Keyed (·.id) ∧
    (sampleStores none).catalog.DatesCompare ∧ 1 ≤ sampleRequest.limit ∧
    (found (sampleStores none).catalog sampleRequest).map (·.id) = ["shirt"] ∧
    overlap (sampleStores none).catalog sampleRequest = 1 ∧
    IsFull (sampleStores none) sampleRequest := by
  have keyed : (sampleStores none).catalog.Keyed (·.id) := Catalog.ofItems_keyed _
  have compares : (sampleStores none).catalog.DatesCompare := by decide +kernel
  have positive : 1 ≤ sampleRequest.limit := by decide
  have full := (candidates_full_iff keyed compares positive).2.2
  exact ⟨keyed, compares, positive, by decide +kernel, by decide +kernel,
    full (by decide +kernel)⟩

/-- If the scarf has a style vector as well, the search finds the two newest items, only these are
fetched for the gap, and the belt is missing although the page has a place for it. -/
theorem newest_found_leave_gap :
    (sampleStores (some [1.0, 0.1])).catalog.Keyed (·.id) ∧
    (sampleStores (some [1.0, 0.1])).catalog.DatesCompare ∧ 1 ≤ sampleRequest.limit ∧
    ((sampleStores (some [1.0, 0.1])).catalog.search ⟨[1.0, 0.0], styleIndex, 3, 1000,
      none⟩).toOption.map (·.map (·.id)) = some ["shirt", "scarf"] ∧
    ((sampleStores (some [1.0, 0.1])).catalog.listItems (.newest (some 2))).toOption.map
      (·.map (·.id)) = some ["shirt", "scarf"] ∧
    (sampleStores (some [1.0, 0.1])).catalog.size = 3 ∧
    ((candidates Memory.collaborators sampleRequest).run
      (sampleStores (some [1.0, 0.1]))).1.map (·.id) = ["shirt", "scarf"] ∧
    ¬ IsFull (sampleStores (some [1.0, 0.1])) sampleRequest :=
  ⟨Catalog.ofItems_keyed _, by decide +kernel, by decide, by decide +kernel, by decide +kernel,
    by decide +kernel, by decide +kernel, by decide +kernel⟩

end Sample

end Retrieval

end Storefront
