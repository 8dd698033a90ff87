import Storefront.Proofs.Comparisons
import Storefront.Proofs.Retrieval
/-!
# What a catalog lists

A listing takes the items that have all wanted values, arranges them by an attribute, and cuts the
result at a limit. Items that have the attribute come first, upward or downward, and those that tie
stand in the order of the catalog both ways; items that lack it come last in the order of the
catalog, whatever the direction.
-/

namespace Storefront

namespace Attribute

/-- The order test on attributes is an order up to ties. -/
theorem isOrder : Sequence.IsOrder less ties where
  irrefl := less_irrefl
  trans _ _ _ := less_trans
  tied _ _ _ := less_of_less_of_ties
  apart _ _ := not_ties_of_less

/-- Two attributes can be compared either way round, and unless one of them is below the other they
tie. An undefined number compares with nothing. -/
def Compares (first second : Attribute) : Prop := Sequence.Compares less ties first second

/-- Attributes compare exactly if both comparisons answer and one of the three outcomes holds. -/
theorem compares_iff {first second : Attribute} :
    (less first second).toOption.isSome = true ∧ (less second first).toOption.isSome = true ∧
        (Sequence.isBelow less first second = true ∨ Sequence.isBelow less second first = true ∨
          ties first second = true ∧ ties second first = true) ↔ first.Compares second := by
  simp only [Sequence.isBelow_iff]
  constructor
  · rintro ⟨answers, back, decides⟩
    exact ⟨Call.ok_of_isSome answers, Call.ok_of_isSome back, decides⟩
  · rintro ⟨⟨_, answers⟩, ⟨_, back⟩, decides⟩
    exact ⟨by rw [answers]; rfl, by rw [back]; rfl, decides⟩

instance : DecidableRel Compares := fun _ _ => decidable_of_iff _ compares_iff

end Attribute

namespace Item

/-- An item has all the wanted values; an attribute that it lacks has the value null. -/
def Matches (filters : Row) (item : Item) : Prop :=
  ∀ wanted ∈ filters, match item.attribute? wanted.1 with
    | none => wanted.2 = .null
    | some (.value held) => Json.same held wanted.2 = true
    | some _ => False

/-- Of two items that have an attribute, the first one is below the second. -/
def IsBelow (name : String) (item other : Item) : Prop :=
  ∃ held ∈ item.attribute? name, ∃ higher ∈ other.attribute? name,
    Attribute.less held higher = .ok true

/-- An item has an attribute that ties with a level. -/
def isAt (name : String) (level : Attribute) (item : Item) : Bool :=
  (item.attribute? name).any (Attribute.ties · level)

/-- Two items compare by an attribute if they have it. -/
def Compares (name : String) (item other : Item) : Prop :=
  ∀ held ∈ item.attribute? name, ∀ further ∈ other.attribute? name, held.Compares further

instance (name : String) : DecidableRel (Compares name) := fun item other =>
  inferInstanceAs (Decidable (∀ held ∈ item.attribute? name,
    ∀ further ∈ other.attribute? name, held.Compares further))

end Item

/-- The order that a query asks for; an empty text asks for none. -/
def CatalogQuery.order? (query : CatalogQuery) : Option String := query.sort.filter (! ·.isEmpty)

namespace Catalog

variable {catalog : Catalog} {items : List Item} {filters : Row} {item : Item}

/-- An item is wanted exactly if it has all the wanted values. -/
theorem isWanted_iff : isWanted filters item = true ↔ item.Matches filters := by
  rw [isWanted, List.all_eq_true]
  refine forall₂_congr fun wanted _ => ?_
  change Attribute.equals (item.attribute? wanted.1) wanted.2 = true ↔ _
  cases item.attribute? wanted.1 with
  | none => exact Json.same_iff
  | some held => cases held <;> simp [Attribute.equals]

instance : DecidablePred (Item.Matches filters) := fun _ => decidable_of_iff _ isWanted_iff

/-- The items of a catalog with all the wanted values, in its order. -/
def matching (catalog : Catalog) (filters : Option Row) : List Item :=
  catalog.values.filter (Item.Matches (filters.getD []))

theorem wanted_eq (catalog : Catalog) (filters : Option Row) :
    catalog.wanted filters = catalog.matching filters := by
  refine List.filter_congr fun item _ => ?_
  rw [Bool.eq_iff_iff, isWanted_iff, decide_eq_true_iff]

/-- Items without an attribute, in their order. -/
def lacking (name : String) (items : List Item) : List Item :=
  items.filter fun item => (item.attribute? name).isNone

/-- Items with an attribute, in their order. -/
def having (name : String) (items : List Item) : List Item :=
  items.filter fun item => (item.attribute? name).isSome

/-- Items that have an attribute, arranged by it: nothing stands before what has to come earlier,
and items at one level stand as they came. -/
structure Arranged (name : String) (descends : Bool) (items sorted : List Item) : Prop where
  perm : sorted.Perm items
  order : sorted.Pairwise fun item later =>
    if descends then ¬ item.IsBelow name later else ¬ later.IsBelow name item
  ties : ∀ level, sorted.filter (Item.isAt name level) = items.filter (Item.isAt name level)

/-- The entries that are sorted carry the attribute of their items. -/
theorem attribute_of_mem {name : String} {entry : Attribute × Item}
    (member : entry ∈ withAttribute name items) : entry.2.attribute? name = some entry.1 := by
  obtain ⟨item, -, held⟩ := List.mem_filterMap.mp member
  obtain ⟨_, found, rfl⟩ := Option.map_eq_some_iff.mp held
  exact found

/-- Sorted entries give arranged items. -/
theorem arranged_of_entries {name : String} {descends : Bool}
    {before : Attribute → Attribute → Prop}
    {sorted : List (Attribute × Item)}
    (arranges : Sequence.Arranges before Attribute.ties Prod.fst (withAttribute name items) sorted)
    (allowed : ∀ {held further : Attribute}, before held further →
      if descends then Attribute.less held further ≠ .ok true
      else Attribute.less further held ≠ .ok true) :
    Arranged name descends (having name items) (sorted.map Prod.snd) := by
  have held : ∀ {entry}, entry ∈ sorted → entry.2.attribute? name = some entry.1 :=
    fun member => attribute_of_mem (arranges.perm.subset member)
  rw [having, ← map_withAttribute]
  refine ⟨arranges.perm.map Prod.snd, ?order, fun level => ?ties⟩
  case order =>
    rw [List.pairwise_map]
    refine arranges.order.imp_of_mem fun {entry later} first second stands => ?_
    have stands := allowed stands
    cases descends <;>
      · simp only [Item.IsBelow, held first, held second, Option.mem_some_iff]
        simpa using stands
  case ties =>
    have level_eq : ∀ {entries : List (Attribute × Item)},
        (∀ entry ∈ entries, entry.2.attribute? name = some entry.1) →
        (entries.map Prod.snd).filter (Item.isAt name level) =
          (entries.filter fun entry => Attribute.ties entry.1 level).map Prod.snd := by
      intro entries known
      rw [List.filter_map]
      refine congrArg _ (List.filter_congr fun entry member => ?_)
      simp [Item.isAt, known entry member]
    rw [level_eq fun _ member => held member, level_eq fun _ member => attribute_of_mem member,
      arranges.ties]

/-- Items that compare have an order by an attribute. -/
theorem inOrder_eq_ok {sort : String}
    (compares : items.Pairwise (Item.Compares (orderedBy sort))) :
    ∃ front, inOrder sort items = .ok (front ++ lacking (orderedBy sort) items) ∧
      Arranged (orderedBy sort) (sort.startsWith "-") (having (orderedBy sort) items) front := by
  have entries : (withAttribute (orderedBy sort) items).Pairwise fun entry later =>
      entry.1.Compares later.1 := by
    rw [withAttribute, List.pairwise_filterMap]
    refine compares.imp fun {item later} both entry held other found => ?_
    obtain ⟨first, holds, rfl⟩ := Option.map_eq_some_iff.mp held
    obtain ⟨second, alsoHolds, rfl⟩ := Option.map_eq_some_iff.mp found
    exact both first holds second alsoHolds
  unfold inOrder
  dsimp only
  split
  · next descends =>
    obtain ⟨sorted, sorts, arranges⟩ := Attribute.isOrder.descendingM_arranges entries
    refine ⟨sorted.map Prod.snd, by rw [sorts]; rfl, ?_⟩
    exact arranged_of_entries arranges fun stands => by simpa [descends] using stands
  · next ascends =>
    obtain ⟨sorted, sorts, arranges⟩ := Attribute.isOrder.ascendingM_arranges entries
    refine ⟨sorted.map Prod.snd, by rw [sorts]; rfl, ?_⟩
    exact arranged_of_entries arranges fun stands => by simpa [ascends] using stands

/-- What a catalog lists for a query before the limit: the items with all wanted values, in the
order of the catalog or arranged by an attribute, those that lack it at the end. -/
structure Lists (catalog : Catalog) (query : CatalogQuery) (ordered : List Item) : Prop where
  perm : ordered.Perm (catalog.matching query.filters)
  unsorted : query.order? = none → ordered = catalog.matching query.filters
  sorted : ∀ sort ∈ query.order?, ∃ front,
    ordered = front ++ lacking (orderedBy sort) (catalog.matching query.filters) ∧
      Arranged (orderedBy sort) (sort.startsWith "-")
        (having (orderedBy sort) (catalog.matching query.filters)) front

/-- The first items up to a limit, if there is one. -/
def upTo (limit : Option Int) (items : List Item) : List Item :=
  match limit with
  | none => items
  | some limit => items.take limit.toNat

theorem cutAt_eq {limit : Option Int} (nonneg : ∀ bound ∈ limit, 0 ≤ bound) (items : List Item) :
    Sequence.cutAt limit items = upTo limit items := by
  cases limit with
  | none => rfl
  | some bound =>
    obtain ⟨count, rfl⟩ := Int.eq_ofNat_of_zero_le (nonneg bound rfl)
    rfl

/-- A catalog whose items compare by the attribute that a query sorts by lists them. -/
theorem listItems_eq_ok {query : CatalogQuery} (nonneg : ∀ bound ∈ query.limit, 0 ≤ bound)
    (compares : ∀ sort ∈ query.order?,
      (catalog.matching query.filters).Pairwise (Item.Compares (orderedBy sort))) :
    ∃ ordered, catalog.listItems query = .ok (upTo query.limit ordered) ∧
      catalog.Lists query ordered := by
  simp only [listItems, wanted_eq, cutAt_eq nonneg]
  rw [← CatalogQuery.order?]
  cases given : query.order? with
  | none =>
    refine ⟨_, rfl, .refl _, fun _ => rfl, fun sort asked => ?_⟩
    cases given.symm.trans asked
  | some sort =>
    obtain ⟨front, orders, arranged⟩ := inOrder_eq_ok (compares sort given)
    refine ⟨_, Call.bind_eq_ok_iff.mpr ⟨_, orders, rfl⟩, inOrder_perm orders, fun none => ?_,
      fun other asked => ?_⟩
    · cases given.symm.trans none
    · cases given.symm.trans asked
      exact ⟨front, rfl, arranged⟩

end Catalog

/-- Stores in memory answer a query with the first items that their catalog lists, and are left as
they are. -/
theorem Memory.listItems_lists (memory : Memory) (query : CatalogQuery)
    (nonneg : ∀ bound ∈ query.limit, 0 ≤ bound)
    (compares : ∀ sort ∈ query.order?, (memory.catalog.matching query.filters).Pairwise
      (Item.Compares (Catalog.orderedBy sort))) :
    ∃ ordered, (collaborators.listItems query).outcome memory =
        (.ok (Catalog.upTo query.limit ordered), memory) ∧
      memory.catalog.Lists query ordered := by
  obtain ⟨ordered, lists, listed⟩ := Catalog.listItems_eq_ok nonneg compares
  refine ⟨ordered, ?_, listed⟩
  change (ask fun memory => memory.catalog.listItems query).outcome memory = _
  rw [ask, Call.outcome_ofOutcome, lists]

section Sample

namespace Memory

/-- An item with a number in stock, or without one. -/
def sampleStocked (id : String) (stock : Option Json) : Item :=
  ⟨id, id, none, 20.0, "USD", "loom", none, [],
    (stock.map fun number => ("inventory_quantity", number)).toList, none, none, none, none,
    .accessory none⟩

/-- Stores with three pieces of two items, one of them counted by a float, no count of the belt, and
five pieces of the last one. -/
def sampleShelf : Memory :=
  .ofParts [sampleStocked "shirt" (some (.int 3)), sampleStocked "belt" none,
    sampleStocked "scarf" (some (.float 3.0)), sampleStocked "ring" (some (.int 5))] [] []

/-- The items of one vendor by their stock, the largest first. -/
def sampleBest (limit : Int) : CatalogQuery :=
  ⟨some [("vendor", .str "loom")], some "-inventory_quantity", some limit⟩

/-- A whole number and a float of one size keep their order, and the belt comes last. -/
theorem listItems_lists_sample :
    (∀ bound ∈ (sampleBest 3).limit, 0 ≤ bound) ∧
    (∀ sort ∈ (sampleBest 3).order?, (sampleShelf.catalog.matching (sampleBest 3).filters).Pairwise
      (Item.Compares (Catalog.orderedBy sort))) ∧
    ((sampleShelf.catalog.listItems (sampleBest 4)).toOption.map (·.map (·.id))) =
      some ["ring", "shirt", "scarf", "belt"] ∧
    ∃ ordered, (collaborators.listItems (sampleBest 3)).outcome sampleShelf =
        (.ok (Catalog.upTo (some 3) ordered), sampleShelf) ∧
      sampleShelf.catalog.Lists (sampleBest 3) ordered := by
  have nonneg : ∀ bound ∈ (sampleBest 3).limit, 0 ≤ bound := by decide
  have compares : ∀ sort ∈ (sampleBest 3).order?,
      (sampleShelf.catalog.matching (sampleBest 3).filters).Pairwise
        (Item.Compares (Catalog.orderedBy sort)) := by decide +kernel
  exact ⟨nonneg, compares, by decide +kernel,
    listItems_lists sampleShelf (sampleBest 3) nonneg compares⟩

end Memory

end Sample

end Storefront
