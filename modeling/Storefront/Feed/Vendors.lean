import Storefront.Decimal.Fixed
import Storefront.Feed.Stage
/-!
# The feed of vendors

Vendors for one user: the candidates near the user's style are grouped by vendor, and a vendor's
score weighs the mean score of its products against the quality of the vendor.
-/

namespace Storefront.Vendors

variable {σ R : Type} [Scalar R]

/-- A request for a feed of vendors. -/
structure Request where
  userId : Option String
  limit : Option Int
  productsPerVendor : Option Int

/-- How many vendors are shown unless a request says otherwise. -/
def defaultLimit : Int := 10

/-- How many products of a vendor are shown unless a request says otherwise. -/
def defaultProducts : Int := 3

/-- How many candidates are fetched for every product shown. -/
def overfetch : Int := 3

/-- How many neighbours a search considers. -/
def searchWidth : Int := 2000

/-- The share of the products in a vendor's score. -/
def productShare : R := 0.7

/-- The quality of a vendor that none is known of. -/
def defaultQuality : R := 0.5

/-- The mean of some scores. -/
def mean (scores : List R) : R := Scalar.sum scores / Scalar.ofInt scores.length

/-- A vendor's score from the scores of its products and its quality. -/
def scoreOf (scores : List R) (quality : Option R) : R :=
  productShare * mean scores + (Scalar.one - productShare) * quality.getD defaultQuality

/-- A vendor with its ranked products. -/
structure Ranking where
  score : Float
  vendorId : String
  products : List Ranked
  standing : Option Standing

/-- Items grouped by vendor, in the order in which the vendors first occur; items without a vendor
are left out. -/
def groups (items : List Item) : List (String × List Item) :=
  (Sequence.firsts ((items.map (·.vendor)).filter (! ·.isEmpty))).map fun vendor =>
    (vendor, items.filter fun item => item.vendor == vendor)

/-- Rank the products of every vendor. -/
def rankGroups (trust : TrustMap) : List (String × List Item) → Except Fault (List Ranking)
  | [] => .ok []
  | (vendorId, items) :: rest => do
    let products ← Ranker.rank .standard ⟨none, trust⟩ items
    let standing := trust.lookup vendorId
    let score := scoreOf (products.map (·.finalScore)) (standing.bind (·.qualityScore))
    let others ← rankGroups trust rest
    pure (⟨score, vendorId, products, standing⟩ :: others)

/-- Vendors in descending order of their scores. -/
def order (rankings : List Ranking) : List Ranking :=
  Sequence.descending (fun a b => decide (a.score < b.score)) rankings

/-- Explain products at positions from a first one on. -/
def explainProducts (tags : List String) (position : Int) :
    List Ranked → Except Fault (List FeedItem)
  | [] => .ok []
  | ranked :: rest => do
    let explanation ← Explanation.generate .standard tags ranked
    let others ← explainProducts tags (position + 1) rest
    pure (FeedItem.ofRanked ranked position explanation (some "vendor_feed") :: others)

/-- The quality of a vendor as a text for the reader, if one is known and not zero. -/
def qualityText (standing : Option Standing) : List String :=
  match standing.bind (·.qualityScore) with
  | some quality =>
    if quality == 0.0 then []
    else ["Quality score: " ++ Decimal.fixed 0 (quality * 100.0) ++ "%"]
  | none => []

/-- The name of a vendor for the reader. -/
def displayName (standing : Option Standing) : String :=
  ((standing.bind (·.name)).filter (! ·.isEmpty)).getD "Unknown Vendor"

/-- The entry of a vendor, whose products have positions from a first one on. -/
def entryOf (tags : List String) (productsPerVendor position : Int) (ranking : Ranking) :
    Except Fault VendorEntry := do
  let products ← explainProducts tags position (Sequence.cut productsPerVendor ranking.products)
  pure {
    vendorId := ranking.vendorId
    name := displayName ranking.standing
    score := ranking.score
    codes := [.vendorQuality, .productRelevance]
    explanations :=
      ("Top-rated vendor with " ++ toString ranking.products.length ++ " matching products") ::
        qualityText ranking.standing
    products
    productCount := ranking.products.length }

/-- The entries of vendors; every vendor has as many positions as products may be shown. -/
def entriesFrom (tags : List String) (productsPerVendor position : Int) :
    List Ranking → Except Fault (List VendorEntry)
  | [] => .ok []
  | ranking :: rest => do
    let entry ← entryOf tags productsPerVendor position ranking
    let others ← entriesFrom tags productsPerVendor (position + productsPerVendor) rest
    pure (entry :: others)

/-- Assemble a feed of vendors. -/
def feed (setup : FeedSetup σ) (request : Request) : Call σ VendorFeed := do
  let userId ← Call.ofExcept (FeedSetup.requireText "userId" request.userId)
  let limit ← Call.ofExcept (FeedSetup.requirePositive "limit" request.limit)
  let productsPerVendor ←
    Call.ofExcept (FeedSetup.requirePositive "productsPerVendor" request.productsPerVendor)
  let profile ← Call.ofState ((Profile.computeStyle setup.world setup.profile userId).orElse none)
  let candidates ← Call.ofState <| Retrieval.candidates setup.world {
    vector := profile
    limit := limit * productsPerVendor * overfetch
    candidates := searchWidth
    filters := none
    index := styleIndex }
  let trust ← Call.ofState (setup.gatherTrust candidates)
  let result ← Call.ofExcept (Filter.run trust .plain candidates)
  let rankings ← Call.ofExcept (rankGroups trust (groups result.kept))
  let history ← Call.ofState (setup.history userId)
  let tags := Explanation.topTags history Explanation.Rules.standard.topTags
  let vendors ← Call.ofExcept
    (entriesFrom tags productsPerVendor 0 (Sequence.cut limit (order rankings)))
  pure { vendors, trace := FeedTrace.ofFilter candidates.length result }

end Storefront.Vendors
