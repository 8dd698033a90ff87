import Storefront.Proofs.Floats.Order
import Storefront.Proofs.Listings
/-!
# What a search finds

A search goes through the items that have all wanted values and a vector in the field of its index
that can be compared with the query. It puts the most similar ones first, those of one similarity in
the order of the catalog, and returns as many as are asked for. So no item that is left out is more
similar than one that is returned, and asking for more only adds items at the end.
-/

namespace Storefront

namespace Catalog

variable {catalog : Catalog} {query : SearchQuery} {item : Item} {items : List Item}

/-- The indexes that a catalog has. -/
def IsIndex (index : String) : Prop := index = styleIndex ∨ index = fabricIndex

instance : DecidablePred IsIndex := fun _ => inferInstanceAs (Decidable (_ ∨ _))

/-- The vector of an item in the field of an index: a fabric vector for the index over these, and
otherwise a style vector. -/
def vectorIn (index : String) (item : Item) : Option (List Float) :=
  item.embeddings.bind fun vectors => if index = fabricIndex then vectors.fabric else vectors.style

/-- An item has, in the field of the index, a vector with the query's number of entries, at least
one, and a norm that is not zero. -/
def IsComparable (query : SearchQuery) (item : Item) : Prop :=
  ∃ vector ∈ vectorIn query.index item, vector ≠ [] ∧ vector.length = query.vector.length ∧
    Scalar.isZero (Vector.norm vector) = false

instance (query : SearchQuery) : DecidablePred (IsComparable query) := fun _ =>
  inferInstanceAs (Decidable (∃ vector ∈ _, _))

/-- An item can be found: it has all the wanted values, and a vector to compare with the query. -/
def Eligible (query : SearchQuery) (item : Item) : Prop :=
  item.Matches (query.filters.getD []) ∧ IsComparable query item

instance (query : SearchQuery) : DecidablePred (Eligible query) := fun _ =>
  inferInstanceAs (Decidable (_ ∧ _))

/-- The items that can be found, in the order of the catalog. -/
def eligible (catalog : Catalog) (query : SearchQuery) : List Item :=
  catalog.values.filter (Eligible query)

/-- How similar an item is to a query. -/
def similarity (query : SearchQuery) (item : Item) : Float :=
  Vector.cosine query.vector ((vectorIn query.index item).getD [])

/-- An index that the catalog has is over the vectors of its own field. -/
theorem indexed_eq (known : IsIndex query.index) :
    indexed query.index = .ok (vectorIn query.index) := by
  have apart : fabricIndex ≠ styleIndex := by decide
  have alsoApart : styleIndex ≠ fabricIndex := by decide
  unfold vectorIn
  rcases known with style | fabric
  · simp only [indexed, style, if_true, if_neg alsoApart]
  · simp only [indexed, fabric, if_neg apart, if_true]

/-- An item has a similarity exactly if it has a vector to compare with the query. -/
theorem similarity?_eq (query : SearchQuery) (item : Item) :
    Vector.similarity? query.vector (vectorIn query.index) item =
      if IsComparable query item then some (similarity query item, item) else none := by
  have tests : ∀ vector, Vector.isComparable query.vector vector = true ↔ vector ≠ [] ∧
      vector.length = query.vector.length ∧ Scalar.isZero (Vector.norm vector) = false := by
    intro vector
    simp [Vector.isComparable, and_assoc]
  rw [Vector.similarity?, similarity]
  cases held : vectorIn query.index item with
  | none =>
    rw [if_neg]
    · rfl
    · rintro ⟨_, found, -⟩
      cases held.symm.trans found
  | some vector =>
    by_cases compares : Vector.isComparable query.vector vector = true
    · rw [Option.filter_some, if_pos compares, if_pos ⟨vector, held, (tests vector).mp compares⟩]
      rfl
    · rw [Option.filter_some, if_neg compares, if_neg]
      rintro ⟨_, found, holds⟩
      cases held.symm.trans found
      exact compares ((tests vector).mpr holds)

/-- The wanted items with a similarity are the items that can be found, each with its own. -/
theorem filterMap_similarity (catalog : Catalog) (query : SearchQuery) :
    (catalog.wanted query.filters).filterMap
        (Vector.similarity? query.vector (vectorIn query.index)) =
      (catalog.eligible query).map fun item => (similarity query item, item) := by
  rw [wanted_eq, matching, eligible, ← List.filterMap_eq_map, List.filterMap_filter,
    List.filterMap_filter]
  refine List.filterMap_congr fun item _ => ?_
  rw [similarity?_eq]
  by_cases wanted : item.Matches (query.filters.getD []) <;> simp [Eligible, wanted]

/-- What a search can find, the most similar first and equally similar items as they come in the
catalog; what it returns is the first part of this. -/
def byLikeness (catalog : Catalog) (query : SearchQuery) : List Item :=
  Sequence.descending (fun item other => decide (similarity query item < similarity query other))
    (catalog.eligible query)

/-- A search with a query that has a direction returns the most similar items that can be found, each
with its similarity as its score. -/
theorem search_eq (known : IsIndex query.index)
    (directed : Scalar.isZero (Vector.norm query.vector) = false) (nonneg : 0 ≤ query.limit) :
    catalog.search query = .ok (((catalog.byLikeness query).take query.limit.toNat).map
      fun item => item.scored (similarity query item)) := by
  have sorted := Sequence.map_descending (fun item => (similarity query item, item))
    (fun a b : Float × Item => Scalar.lt a.1 b.1) (catalog.eligible query)
  have near : Vector.nearest query.vector (vectorIn query.index) query.limit
      (catalog.wanted query.filters) =
      ((catalog.byLikeness query).take query.limit.toNat).map
        fun item => (similarity query item, item) := by
    obtain ⟨count, bounded⟩ := Int.eq_ofNat_of_zero_le nonneg
    rw [Vector.nearest, directed, if_neg Bool.false_ne_true, filterMap_similarity, ← sorted,
      bounded]
    exact List.map_take.symm
  rw [search, indexed_eq known]
  change Except.ok ((Vector.nearest query.vector (vectorIn query.index) query.limit
      (catalog.wanted query.filters)).map _) = _
  rw [near, List.map_map]
  rfl

end Catalog

namespace Memory

open Catalog

/-- Stores in memory answer a search whose query has a norm that is not zero with the most similar
items that can be found, whatever the limit, and are left as they are. -/
theorem search_returns (memory : Memory) (query : SearchQuery) (known : IsIndex query.index)
    (directed : Scalar.isZero (Vector.norm query.vector) = false)
    (defined : ∀ item ∈ memory.catalog.eligible query, (similarity query item).isNaN = false) :
    ∃ ordered, Sequence.Arranges (fun near far => far ≤ near) (· == ·) (similarity query)
        (memory.catalog.eligible query) ordered ∧
      ∀ limit, 0 ≤ limit →
        (collaborators.search.map fun search => (search { query with limit }).outcome memory) =
          some (.ok ((ordered.take limit.toNat).map
            fun item => item.scored (similarity query item)), memory) ∧
        (∀ found ∈ ordered.take limit.toNat, ∀ omitted ∈ ordered.drop limit.toNat,
          similarity query omitted ≤ similarity query found) ∧
        ∀ larger, limit ≤ larger → ordered.take limit.toNat <+: ordered.take larger.toNat := by
  have arranges := Floats.descending_arranges defined
  refine ⟨memory.catalog.byLikeness query, arranges, fun limit nonneg => ⟨?answer, ?best, ?grows⟩⟩
  case answer =>
    have finds : memory.catalog.search { query with limit } = _ :=
      search_eq known directed nonneg
    exact congrArg (fun answer => some (answer, memory)) finds
  case best =>
    have order := arranges.order
    rw [← List.take_append_drop limit.toNat (Sequence.descending _ _),
      List.pairwise_append] at order
    exact order.2.2
  case grows =>
    intro larger more
    exact List.take_prefix_take_left (Int.toNat_le_toNat more)

section Sample

/-- An item with a style vector, or without one. -/
def sampleStyled (id : String) (style : Option (List Float)) : Item :=
  ⟨id, id, none, 20.0, "USD", "loom", none, [], [], style.map fun vector => ⟨some vector, none⟩,
    none, none, none, .accessory none⟩

/-- Stores with two items in one direction, one between that and the query, and a plain one. -/
def sampleDirections : Memory :=
  .ofParts [sampleStyled "shirt" (some [0.0, 1.0]), sampleStyled "belt" none,
    sampleStyled "scarf" (some [0.0, 2.0]), sampleStyled "ring" (some [1.0, 1.0])] [] []

/-- A search near a vector. -/
def sampleNear (vector : List Float) (limit : Int) : SearchQuery :=
  ⟨vector, styleIndex, limit, 10, none⟩

/-- The ring is nearer to the query than the shirt and the scarf, which are equally near. -/
theorem search_returns_sample :
    IsIndex (sampleNear [1.0, 0.0] 2).index ∧
    Scalar.isZero (Vector.norm (sampleNear [1.0, 0.0] 2).vector) = false ∧
    (∀ item ∈ sampleDirections.catalog.eligible (sampleNear [1.0, 0.0] 2),
      (similarity (sampleNear [1.0, 0.0] 2) item).isNaN = false) ∧
    ((sampleDirections.catalog.search (sampleNear [1.0, 0.0] 2)).toOption.map (·.map (·.id))) =
      some ["ring", "shirt"] ∧
    ∃ ordered, Sequence.Arranges (fun near far => far ≤ near) (· == ·)
        (similarity (sampleNear [1.0, 0.0] 2))
        (sampleDirections.catalog.eligible (sampleNear [1.0, 0.0] 2)) ordered ∧
      (collaborators.search.map fun search =>
          (search (sampleNear [1.0, 0.0] 2)).outcome sampleDirections) =
        some (.ok ((ordered.take 2).map fun item =>
          item.scored (similarity (sampleNear [1.0, 0.0] 2) item)), sampleDirections) := by
  have known : IsIndex (sampleNear [1.0, 0.0] 2).index := by decide
  have directed : Scalar.isZero (Vector.norm (sampleNear [1.0, 0.0] 2).vector) = false := by
    decide +kernel
  have defined : ∀ item ∈ sampleDirections.catalog.eligible (sampleNear [1.0, 0.0] 2),
      (similarity (sampleNear [1.0, 0.0] 2) item).isNaN = false := by decide +kernel
  obtain ⟨ordered, arranges, returns⟩ := search_returns sampleDirections _ known directed defined
  exact ⟨known, directed, defined, by decide +kernel, ordered, arranges,
    (returns 2 (by decide)).1⟩

/-- A query that is not zero can be so short that its norm is: then nothing is found, although an
item has the very direction of the query. -/
theorem search_short_query :
    ([1e-200] : List Float).any (fun entry => !Scalar.isZero entry) = true ∧
    (Memory.ofParts [sampleStyled "shirt" (some [1.0])] [] []).catalog.eligible
      (sampleNear [1e-200] 1) ≠ [] ∧
    (similarity (sampleNear [1e-200] 1) (sampleStyled "shirt" (some [1.0]))).isNaN = false ∧
    ((Memory.ofParts [sampleStyled "shirt" (some [1.0])] [] []).catalog.search
      (sampleNear [1e-200] 1)).toOption.map (·.map (·.id)) = some [] := by
  decide +kernel

end Sample

end Memory

end Storefront
