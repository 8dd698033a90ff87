import Storefront.Scalar
import Storefront.Fault
/-!
# Scoring

The score of an item is a weighted sum of four factors and a boost, computed from the evidence that
is at hand; absent evidence counts as a configured default. The computation is the same on machine
floats and on exact scalars.
-/

namespace Storefront

/-- The weights of the factors, the boost, and what absent evidence counts as. -/
structure ScoringWeights (R : Type) where
  similarity : R
  vendorQuality : R
  leadTime : R
  priceFit : R
  featuredBoost : R
  defaultSimilarity : R
  defaultQuality : R
  defaultLeadTime : R

/-- The weights that every feed uses. -/
def ScoringWeights.standard {R : Type} [Scalar R] : ScoringWeights R where
  similarity := 0.70
  vendorQuality := 0.15
  leadTime := 0.10
  priceFit := 0.05
  featuredBoost := 0.2
  defaultSimilarity := 0.5
  defaultQuality := 0.8
  defaultLeadTime := 3.0

/-- What is known about an item when it is scored. -/
structure Evidence (R : Type) where
  /-- How close the item is to what was searched for. -/
  similarity : Option R
  /-- The vendor's quality, from its success rate or from its own figure. -/
  quality : Option R
  /-- Whether the vendor is featured. -/
  isFeatured : Bool
  /-- The lead time in days. -/
  leadTime : Option R
  price : R
  budget : Option R

/-- The factors behind a score. -/
structure Scoring (R : Type) where
  similarity : R
  vendorQuality : R
  leadTime : R
  priceFit : R
  vendorBoost : R
  pricePenalty : Bool

namespace Scoring

variable {R : Type} [Scalar R]

/-- How well a price fits a budget: fully within it, and by their quotient beyond it. -/
def priceFitOf (price : R) (budget : Option R) : R :=
  match budget with
  | none => Scalar.one
  | some budget =>
    if Scalar.le price budget || Scalar.le price Scalar.zero then Scalar.one else budget / price

/-- The factor of a lead time: the shorter, the larger. -/
def leadTimeFactor (days : R) : Except Fault R :=
  let waiting := days + Scalar.one
  if Scalar.isZero waiting then .error .dividedByZero else .ok (Scalar.one / waiting)

/-- The factors that some evidence gives. -/
def ofEvidence (weights : ScoringWeights R) (evidence : Evidence R) : Except Fault (Scoring R) := do
  let leadTime ← leadTimeFactor (evidence.leadTime.getD weights.defaultLeadTime)
  let priceFit := priceFitOf evidence.price evidence.budget
  pure {
    similarity := evidence.similarity.getD weights.defaultSimilarity
    vendorQuality := evidence.quality.getD weights.defaultQuality
    leadTime
    priceFit
    vendorBoost := if evidence.isFeatured then weights.featuredBoost else Scalar.zero
    pricePenalty := Scalar.lt priceFit Scalar.one }

/-- The weighted sum of the factors, with the boost. -/
def total (weights : ScoringWeights R) (scoring : Scoring R) : R :=
  weights.similarity * scoring.similarity + weights.vendorQuality * scoring.vendorQuality +
    weights.leadTime * scoring.leadTime + weights.priceFit * scoring.priceFit + scoring.vendorBoost

end Scoring

end Storefront
