import Storefront.Event.Basic
import Storefront.Feed.Ranker
/-!
# Explanations

Why an item is shown, as texts for the reader and codes for the client. Five rules look at the
evidence one by one, and every rule that holds adds one text and one code.
-/

namespace Storefront

/-- The codes of reasons. -/
inductive ReasonCode where
  | styleMatch
  | aestheticMatch
  | fastDelivery
  | trustedVendor
  | priceFit
  | newArrival
  | boughtTogether
  | completeLook
  | vendorQuality
  | productRelevance
  deriving DecidableEq, Repr

namespace ReasonCode

/-- The name of a code in records. -/
def name : ReasonCode → String
  | .styleMatch => "STYLE_MATCH"
  | .aestheticMatch => "AESTHETIC_MATCH"
  | .fastDelivery => "FAST_ETA"
  | .trustedVendor => "TRUSTED_VENDOR"
  | .priceFit => "PRICE_FIT"
  | .newArrival => "NEW_ARRIVAL"
  | .boughtTogether => "BOUGHT_TOGETHER"
  | .completeLook => "COMPLETE_LOOK"
  | .vendorQuality => "VENDOR_QUALITY"
  | .productRelevance => "PRODUCT_RELEVANCE"

/-- Every code. -/
def all : List ReasonCode :=
  [.styleMatch, .aestheticMatch, .fastDelivery, .trustedVendor, .priceFit, .newArrival,
    .boughtTogether, .completeLook, .vendorQuality, .productRelevance]

/-- The code with a name. -/
def parse (name : String) : Except Fault ReasonCode :=
  match all.find? (·.name == name) with
  | some code => .ok code
  | none => .error (.unknownReason name)

end ReasonCode

/-- One reason. -/
structure Reason where
  text : String
  code : ReasonCode

/-- The reasons for showing an item, the most important first. -/
structure Explanation where
  reasons : List Reason

namespace Explanation

/-- The texts of an explanation. -/
def texts (explanation : Explanation) : List String := explanation.reasons.map (·.text)

/-- The codes of an explanation. -/
def codes (explanation : Explanation) : List ReasonCode := explanation.reasons.map (·.code)

/-- An explanation with one more reason in front. -/
def prepend (explanation : Explanation) (reason : Reason) : Explanation :=
  ⟨reason :: explanation.reasons⟩

/-- How many occurrences of every text a list has, in the order of first occurrence. -/
def tally (texts : List String) : List (String × Nat) :=
  (Sequence.firsts texts).map fun text => (text, texts.count text)

/-- The tags that occur most often in a user's events, in lower case; equally frequent tags keep
the order of their first occurrence. -/
def topTags (history : List Event) (limit : Int) : List String :=
  let tags := history.flatMap fun event => event.tags.map Text.lower
  let frequent := Sequence.descending (fun a b => decide (a.2 < b.2)) (tally tags)
  (frequent.map (·.1)).take limit.toNat

/-- The thresholds of the rules. -/
structure Rules where
  /-- How many of a user's tags count. -/
  topTags : Int
  /-- How many matching tags a text names. -/
  tagsInText : Int
  /-- A similarity above this is high. -/
  highRelevance : Float
  /-- A lead time of at most so many days is short. -/
  fastDelivery : Json.Amount
  /-- A vendor quality above this is high. -/
  topRated : Float

/-- The thresholds that every feed uses. -/
def Rules.standard : Rules where
  topTags := 5
  tagsInText := 2
  highRelevance := 0.85
  fastDelivery := .whole 3
  topRated := 0.7

/-- The item has tags that the user cares about. -/
def styleReason (rules : Rules) (tags : List String) (item : Item) : List Reason :=
  match item.tags.filter fun tag => tags.contains (Text.lower tag) with
  | [] => []
  | matching =>
    [⟨"Matches your interest in " ++ ", ".intercalate (Sequence.cut rules.tagsInText matching),
      .styleMatch⟩]

/-- The item is close to what was searched for. -/
def aestheticReason (rules : Rules) (scoring : Scoring Float) : List Reason :=
  if rules.highRelevance < scoring.similarity then
    [⟨"Highly relevant to your style", .aestheticMatch⟩]
  else []

/-- The lead time is short; a lead time that is no number cannot be compared. -/
def deliveryReason (rules : Rules) (item : Item) : Except Fault (List Reason) :=
  match item.leadTime? with
  | none => .ok []
  | some days => do
    let isFast ← days.atMost rules.fastDelivery
    pure (if isFast then [⟨"Fast Delivery", .fastDelivery⟩] else [])

/-- The vendor's quality is high. -/
def vendorReason (rules : Rules) (scoring : Scoring Float) : List Reason :=
  if rules.topRated < scoring.vendorQuality then [⟨"Top Rated Vendor", .trustedVendor⟩] else []

/-- The price is within the budget, and the item is not free. -/
def priceReason (scoring : Scoring Float) (item : Item) : List Reason :=
  if !scoring.pricePenalty && decide (0.0 < item.price) then
    [⟨"Within your budget", .priceFit⟩]
  else []

/-- Explain an item to a user with some favourite tags. -/
def generate (rules : Rules) (tags : List String) (ranked : Ranked) : Except Fault Explanation := do
  let delivery ← deliveryReason rules ranked.item
  pure ⟨styleReason rules tags ranked.item ++ aestheticReason rules ranked.scoring ++ delivery ++
    vendorReason rules ranked.scoring ++ priceReason ranked.scoring ranked.item⟩

/-- Explain an item to a user with a history. -/
def generateFor (rules : Rules) (history : List Event) (ranked : Ranked) :
    Except Fault Explanation :=
  generate rules (topTags history rules.topTags) ranked

end Explanation

end Storefront
