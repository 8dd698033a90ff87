import Storefront.Feed.Filter
import Storefront.Feed.Scoring
import Storefront.Sequence
/-!
# Ranking

Every candidate is scored by itself, from its own row and from what is known about its vendor, and
the candidates are put in descending order of their scores. Equal scores keep the order in which
the candidates came.
-/

namespace Storefront

/-- An item with its score in one request, and the stream it was placed in, if it was mixed. -/
structure Ranked where
  item : Item
  finalScore : Float
  scoring : Scoring Float
  stream : Option String

/-- What a request contributes to scores. -/
structure RankingContext where
  budget : Option Float
  trust : TrustMap

namespace RankingContext

/-- A request without a budget that knows no vendor. -/
def empty : RankingContext := ⟨none, []⟩

/-- What is known about an item's vendor; a blank vendor is never known. -/
def standing? (context : RankingContext) (item : Item) : Option Standing :=
  if item.vendor.isEmpty then none else context.trust.lookup item.vendor

end RankingContext

namespace Ranker

/-- The quality of an item's vendor: its success rate, or else the vendor's own figure. -/
def quality? (item : Item) (standing : Option Standing) : Except Fault (Option Float) :=
  match standing.bind (·.successRate) with
  | some rate => .ok (some (rate / 100.0))
  | none => FilterSpec.readOptional Json.toFloat item.reportedQuality?

/-- What is known about an item in a request. -/
def evidence (context : RankingContext) (item : Item) : Except Fault (Evidence Float) := do
  let standing := context.standing? item
  let quality ← quality? item standing
  let leadTime ← FilterSpec.readOptional Json.toFloat item.leadTime?
  pure {
    similarity := item.score
    quality
    isFeatured := (standing.map (·.isFeatured)).getD false
    leadTime
    price := item.price
    budget := context.budget }

/-- Score one item. -/
def score (weights : ScoringWeights Float) (context : RankingContext) (item : Item) :
    Except Fault Ranked := do
  let evidence ← evidence context item
  let scoring ← Scoring.ofEvidence weights evidence
  pure ⟨item, scoring.total weights, scoring, none⟩

/-- Score every item; the first fault wins. -/
def scoreAll (weights : ScoringWeights Float) (context : RankingContext) :
    List Item → Except Fault (List Ranked)
  | [] => .ok []
  | item :: rest => do
    let ranked ← score weights context item
    let others ← scoreAll weights context rest
    pure (ranked :: others)

/-- Whether the first item has the lower score. -/
def below (a b : Ranked) : Bool := decide (a.finalScore < b.finalScore)

/-- Scored items in descending order of their scores. -/
def order (ranked : List Ranked) : List Ranked := Sequence.descending below ranked

/-- Score items and put them in order. -/
def rank (weights : ScoringWeights Float) (context : RankingContext) (items : List Item) :
    Except Fault (List Ranked) :=
  (scoreAll weights context items).map order

end Ranker

end Storefront
