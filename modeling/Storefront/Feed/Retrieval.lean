import Storefront.Collaborators
import Storefront.Sequence
/-!
# Retrieval

Candidates come from a search near a style vector and, if that gives too few, from the newest items
of the catalog. Retrieval never fails: a search or a catalog that cannot answer gives nothing.
-/

namespace Storefront.Retrieval

variable {σ : Type}

/-- The first item of every id, over several batches in order. -/
def dedupe (batches : List (List Item)) : List Item := Sequence.firstsBy (·.id) batches.flatten

/-- The newest items of the catalog. -/
def newest (world : Collaborators σ) (limit : Int) : StateM σ (List Item) :=
  if limit ≤ 0 then pure []
  else (world.listItems (.newest (some limit))).orElse []

/-- What is asked of a retrieval. -/
structure Request where
  vector : Option (List Float)
  limit : Int
  candidates : Int
  filters : Option Row
  index : String

/-- The items near the style vector, if there is a vector and a search. -/
def personalized (world : Collaborators σ) (request : Request) : StateM σ (List Item) :=
  match request.vector, world.search with
  | some vector, some search =>
    (search ⟨vector, request.index, request.limit, request.candidates, request.filters⟩).orElse []
  | _, _ => pure []

/-- How many items are fetched to fill a gap: twice the gap, since some are found already. -/
def topUpLimit (limit : Int) (found : List Item) : Int :=
  2 * (limit - Sequence.distinctCount (found.map (·.id)))

/-- The candidates of a request: what the search found, then the newest items. -/
def candidates (world : Collaborators σ) (request : Request) : StateM σ (List Item) := do
  let found ← personalized world request
  let trending ←
    if (Sequence.distinctCount (found.map (·.id)) : Int) < request.limit then
      newest world (topUpLimit request.limit found)
    else pure []
  pure (Sequence.cut request.limit (dedupe [found, trending]))

end Storefront.Retrieval
