import Storefront.Feed.Explanation
import Storefront.Feed.Mixer
import Storefront.Feed.Ranker
/-!
# Tuning

A rehearsal may try other weights for the ranker, other thresholds for explanations and another
way of mixing. A row gives values by name; what it does not name keeps its standard value.
-/

namespace Storefront

/-- A number of a row, else a standard value. -/
def Row.tuned (row : Row) (name : String) (standard : Float) : Except Fault Float :=
  match row.get? name with
  | none => .ok standard
  | some value => value.toFloat

/-- A whole number of a row, else a standard value. -/
def Row.tunedCount (row : Row) (name : String) (standard : Int) : Int :=
  match row.get? name with
  | some (.int value) => value
  | _ => standard

/-- The texts of a row, else standard ones. -/
def Row.tunedTexts (row : Row) (name : String) (standard : List String) : List String :=
  match row.get? name with
  | some (.arr values) => values.filterMap Json.text?
  | _ => standard

/-- The weights of a row. -/
def ScoringWeights.tuned (row : Row) : Except Fault (ScoringWeights Float) := do
  let standard : ScoringWeights Float := .standard
  pure {
    similarity := ← row.tuned "VECTOR_WEIGHT" standard.similarity
    vendorQuality := ← row.tuned "VENDOR_QUALITY_WEIGHT" standard.vendorQuality
    leadTime := ← row.tuned "ETA_WEIGHT" standard.leadTime
    priceFit := ← row.tuned "PRICE_FIT_WEIGHT" standard.priceFit
    featuredBoost := ← row.tuned "FEATURED_VENDOR_BOOST" standard.featuredBoost
    defaultSimilarity := ← row.tuned "DEFAULT_VECTOR_SCORE" standard.defaultSimilarity
    defaultQuality := ← row.tuned "DEFAULT_VENDOR_QUALITY" standard.defaultQuality
    defaultLeadTime := ← row.tuned "DEFAULT_ETA_DAYS" standard.defaultLeadTime }

/-- The thresholds of a row. -/
def Explanation.Rules.tuned (row : Row) : Except Fault Explanation.Rules := do
  let standard := Explanation.Rules.standard
  pure {
    topTags := row.tunedCount "TOP_TAGS" standard.topTags
    tagsInText := row.tunedCount "TAGS_IN_TEXT" standard.tagsInText
    highRelevance := ← row.tuned "HIGH_RELEVANCE_SCORE" standard.highRelevance
    fastDelivery := ((row.get? "FAST_ETA_DAYS").bind Json.amount?).getD standard.fastDelivery
    topRated := ← row.tuned "TOP_RATED_QUALITY" standard.topRated }

/-- The way of mixing of a row. -/
def MixerConfig.tuned (row : Row) : MixerConfig :=
  let standard := MixerConfig.standard
  { pattern := row.tunedTexts "PATTERN" standard.pattern
    fallback := row.tunedTexts "FALLBACK_ORDER" standard.fallback
    maxPerVendorHead := row.tunedCount "MAX_PER_VENDOR_HEAD" standard.maxPerVendorHead
    headSize := row.tunedCount "HEAD_SIZE" standard.headSize }

/-- Read the factors behind a score. -/
def Scoring.read (row : Row) : Checked (Scoring Float) :=
  Scoring.mk <$> row.withDefault "v_score" Reader.float 0.5
    <*> row.withDefault "vendor_quality_score" Reader.float 0.8
    <*> row.withDefault "eta_score" Reader.float 0.25
    <*> row.withDefault "price_fit" Reader.float 1.0
    <*> row.withDefault "vendor_boost" Reader.float 0.0
    <*> row.withDefault "price_penalty" Reader.bool false

end Storefront
