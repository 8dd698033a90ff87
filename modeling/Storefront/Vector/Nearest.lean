import Storefront.Vector
/-!
# Nearest vectors

Candidates near a query, by the cosine of the angle between their vectors and the query. Candidates
without a vector, with a vector of another length, or with a vector of length zero are never near,
and nothing is near a query of length zero.
-/

namespace Storefront.Vector

variable {R α : Type} [Analytic R]

/-- The cosine of the angle between two vectors that are not zero. -/
def cosine (v w : List R) : R := dot v w / (norm v * norm w)

/-- Whether a vector can be compared with a query. -/
def isComparable (query : List R) (vector : List R) : Bool :=
  !vector.isEmpty && vector.length == query.length && !Scalar.isZero (norm vector)

/-- A candidate with its similarity to a query, if it has one. -/
def similarity? (query : List R) (vectorOf : α → Option (List R)) (candidate : α) :
    Option (R × α) :=
  match (vectorOf candidate).filter (isComparable query) with
  | some vector => some (cosine query vector, candidate)
  | none => none

/-- The candidates nearest to a query, the most similar first; equally similar candidates stay in
order. -/
def nearest (query : List R) (vectorOf : α → Option (List R)) (limit : Int)
    (candidates : List α) : List (R × α) :=
  if Scalar.isZero (norm query) then []
  else
    Sequence.cut limit
      (Sequence.descending (fun a b => Scalar.lt a.1 b.1)
        (candidates.filterMap (similarity? query vectorOf)))

end Storefront.Vector
