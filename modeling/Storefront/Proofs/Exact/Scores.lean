import Mathlib
import Storefront.Feed.Ranker
import Storefront.Proofs.Calls
import Storefront.Proofs.Exact.Scalars
/-!
# Scores in exact arithmetic

An item is scored from the facts that its row, the standing of its vendor and the request tell.
Facts may be absent, and then something else counts in their place. On machine floats this is how
items are ranked; in exact arithmetic the score follows every single fact in one direction, across
all the places where another rule takes over.
-/

namespace Storefront

/-- What is told about an item when it is scored. -/
structure Facts (R : Type) where
  /-- How close the item is to what was searched for. -/
  similarity : Option R
  /-- The success rate of the vendor, in percent. -/
  successRate : Option R
  /-- The quality that the vendor's own row reports. -/
  reportedQuality : Option R
  /-- Whether the vendor is featured. -/
  isFeatured : Bool
  /-- The lead time in days. -/
  leadTime : Option R
  price : R
  budget : Option R

namespace Facts

variable {R : Type} [Scalar R]

/-- The quality of the vendor: its success rate, or else what the row reports. -/
def quality? (facts : Facts R) : Option R :=
  match facts.successRate with
  | some rate => some (rate / 100.0)
  | none => facts.reportedQuality

/-- The evidence in some facts. -/
def evidence (facts : Facts R) : Evidence R where
  similarity := facts.similarity
  quality := facts.quality?
  isFeatured := facts.isFeatured
  leadTime := facts.leadTime
  price := facts.price
  budget := facts.budget

/-- The score that some facts give, with its factors. -/
def scored (weights : ScoringWeights R) (facts : Facts R) : Except Fault (R × Scoring R) :=
  (Scoring.ofEvidence weights facts.evidence).map fun scoring => (scoring.total weights, scoring)

/-- The score that some facts give with the weights that every feed uses. -/
def finalScore (facts : Facts R) : Except Fault R := (facts.scored .standard).map Prod.fst

end Facts

namespace Ranker

/-- What a request tells about an item. The quality in the row is only read if the vendor has no
success rate. -/
def facts (context : RankingContext) (item : Item) : Except Fault (Facts Float) := do
  let standing := context.standing? item
  let successRate := standing.bind (·.successRate)
  let reportedQuality ← match successRate with
    | some _ => pure none
    | none => FilterSpec.readOptional Json.toFloat item.reportedQuality?
  let leadTime ← FilterSpec.readOptional Json.toFloat item.leadTime?
  pure {
    similarity := item.score
    successRate
    reportedQuality
    isFeatured := (standing.map (·.isFeatured)).getD false
    leadTime
    price := item.price
    budget := context.budget }

/-- Items are scored from what a request tells about them. -/
theorem score_eq (weights : ScoringWeights Float) (context : RankingContext) (item : Item) :
    score weights context item = (do
      let facts ← facts context item
      let (finalScore, scoring) ← facts.scored weights
      pure ⟨item, finalScore, scoring, none⟩) := by
  have joined : ∀ facts : Facts Float, (do
      let (finalScore, scoring) ← facts.scored weights
      pure (⟨item, finalScore, scoring, none⟩ : Ranked)) = (do
      let scoring ← Scoring.ofEvidence weights facts.evidence
      pure ⟨item, scoring.total weights, scoring, none⟩) := by
    intro facts
    unfold Facts.scored
    cases Scoring.ofEvidence weights facts.evidence <;> rfl
  simp only [joined]
  unfold score evidence facts quality?
  dsimp only
  cases (context.standing? item).bind (·.successRate) with
  | some rate => cases FilterSpec.readOptional Json.toFloat item.leadTime? <;> rfl
  | none =>
    cases FilterSpec.readOptional Json.toFloat item.reportedQuality? with
    | error fault => rfl
    | ok quality => cases FilterSpec.readOptional Json.toFloat item.leadTime? <;> rfl

end Ranker

/-- The weights of every feed, as fractions. -/
theorem ScoringWeights.standard_exact :
    (standard : ScoringWeights ℝ) =
      ⟨7 / 10, 3 / 20, 1 / 10, 1 / 20, 1 / 5, 1 / 2, 4 / 5, 3⟩ := by
  change (⟨0.70, 0.15, 0.10, 0.05, 0.2, 0.5, 0.8, 3.0⟩ : ScoringWeights ℝ) = _
  norm_num

namespace Scoring

variable {price : ℝ} {budget : Option ℝ}

/-- A positive price above a budget fits it by their quotient. -/
theorem priceFitOf_beyond {bound : ℝ} (positive : 0 < price) (above : bound < price) :
    priceFitOf price (some bound) = bound / price := by
  simp [priceFitOf, positive.not_ge, above.not_ge]

/-- Every other price fits fully. -/
theorem priceFitOf_within (within : ∀ bound, budget = some bound → price ≤ bound ∨ price ≤ 0) :
    priceFitOf price budget = 1 := by
  cases budget with
  | none => exact Scalar.one_exact
  | some bound => rcases within bound rfl with below | below <;> simp [priceFitOf, below]

/-- A price is within a budget, or it is positive and above it. -/
theorem within_or_beyond (price : ℝ) (budget : Option ℝ) :
    (∀ bound, budget = some bound → price ≤ bound ∨ price ≤ 0) ∨
      ∃ bound, budget = some bound ∧ 0 < price ∧ bound < price := by
  rw [or_iff_not_imp_left]
  intro beyond
  push Not at beyond
  obtain ⟨bound, given, above, positive⟩ := beyond
  exact ⟨bound, given, positive, above⟩

/-- A price fits less than fully exactly if it is positive and above a budget. -/
theorem priceFitOf_lt_one_iff :
    priceFitOf price budget < 1 ↔ ∃ bound, budget = some bound ∧ 0 < price ∧ bound < price := by
  constructor
  · intro less
    refine (within_or_beyond price budget).resolve_left fun within => ?_
    exact less.ne (priceFitOf_within within)
  · rintro ⟨bound, rfl, positive, above⟩
    rw [priceFitOf_beyond positive above]
    exact (div_lt_one positive).mpr above

/-- No price fits more than fully. -/
theorem priceFitOf_le_one (price : ℝ) (budget : Option ℝ) : priceFitOf price budget ≤ 1 := by
  rcases within_or_beyond price budget with within | beyond
  · exact (priceFitOf_within within).le
  · exact (priceFitOf_lt_one_iff.mpr beyond).le

/-- A price fits by no less than zero, unless the budget is below zero. -/
theorem priceFitOf_nonneg (signed : ∀ bound, budget = some bound → 0 ≤ bound) :
    0 ≤ priceFitOf price budget := by
  rcases within_or_beyond price budget with within | ⟨bound, rfl, positive, above⟩
  · rw [priceFitOf_within within]
    exact zero_le_one
  · rw [priceFitOf_beyond positive above]
    exact div_nonneg (signed bound rfl) positive.le

/-- A price that does not rise fits a budget that does not fall no less, unless the price falls
beside a budget below zero. An absent budget is above all others. -/
theorem priceFitOf_mono {cheaper : ℝ} {wider : Option ℝ} (cheap : cheaper ≤ price)
    (wide : ∀ bound, wider = some bound → ∃ narrow, budget = some narrow ∧ narrow ≤ bound)
    (signed : cheaper = price ∨ ∀ bound, wider = some bound → 0 ≤ bound) :
    priceFitOf price budget ≤ priceFitOf cheaper wider := by
  rcases within_or_beyond cheaper wider with within | ⟨bound, rfl, positive, above⟩
  · rw [priceFitOf_within within]
    exact priceFitOf_le_one price budget
  · obtain ⟨narrow, rfl, below⟩ := wide bound rfl
    rw [priceFitOf_beyond positive above,
      priceFitOf_beyond (positive.trans_le cheap) (by linarith)]
    -- Either both quotients have one divisor, or the smaller one goes with a budget from zero on.
    calc narrow / price ≤ bound / price :=
          div_le_div_of_nonneg_right below (positive.trans_le cheap).le
      _ ≤ bound / cheaper := by
          rcases signed with same | nonneg
          · rw [same]
          · exact div_le_div_of_nonneg_left (nonneg bound rfl) positive cheap

/-- Beside a budget below zero a price of two fits better than a price of one. -/
theorem priceFitOf_lt_of_neg {bound : ℝ} (negative : bound < 0) :
    priceFitOf 1 (some bound) < priceFitOf 2 (some bound) := by
  rw [priceFitOf_beyond one_pos (by linarith), priceFitOf_beyond two_pos (by linarith)]
  linarith

/-- A lead time has a factor unless it is minus one day. -/
theorem leadTimeFactor_exact (days : ℝ) :
    leadTimeFactor days = if days = -1 then .error .dividedByZero else .ok (1 / (days + 1)) := by
  unfold leadTimeFactor
  dsimp only
  simp only [Scalar.isZero_exact, Scalar.one_exact, decide_eq_true_eq, add_eq_zero_iff_eq_neg]

end Scoring

namespace Facts

variable {facts weak strong : Facts ℝ}

/-- The lead time that counts, in days. -/
noncomputable def days (facts : Facts ℝ) : ℝ :=
  facts.leadTime.getD ScoringWeights.standard.defaultLeadTime

/-- What some facts are worth if their lead time has a factor. -/
noncomputable def worth (facts : Facts ℝ) : ℝ :=
  let weights : ScoringWeights ℝ := .standard
  weights.similarity * facts.similarity.getD weights.defaultSimilarity +
    weights.vendorQuality * facts.quality?.getD weights.defaultQuality +
    weights.leadTime * (1 / (facts.days + 1)) +
    weights.priceFit * Scoring.priceFitOf facts.price facts.budget +
    if facts.isFeatured then weights.featuredBoost else 0

/-- Three days count where no lead time is told. -/
theorem days_eq (facts : Facts ℝ) : facts.days = facts.leadTime.getD 3 := by
  rw [days, ScoringWeights.standard_exact]

/-- What facts are worth, in fractions. -/
theorem worth_eq (facts : Facts ℝ) :
    facts.worth = 7 / 10 * facts.similarity.getD (1 / 2) + 3 / 20 * facts.quality?.getD (4 / 5) +
      1 / 10 * (1 / (facts.days + 1)) + 1 / 20 * Scoring.priceFitOf facts.price facts.budget +
      if facts.isFeatured then 1 / 5 else 0 := by
  rw [worth, ScoringWeights.standard_exact]

/-- Facts whose lead time has a factor are scored with what they are worth, and with a penalty if
the price does not fit fully. -/
theorem scored_of_days (able : facts.days ≠ -1) :
    ∃ scoring, facts.scored .standard = .ok (facts.worth, scoring) ∧
      scoring.pricePenalty = decide (Scoring.priceFitOf facts.price facts.budget < 1) := by
  rw [days_eq] at able
  rw [worth_eq, days_eq, scored, ScoringWeights.standard_exact, Scoring.ofEvidence, evidence,
    Scoring.leadTimeFactor_exact, if_neg able, Scalar.zero_exact]
  refine ⟨_, rfl, ?_⟩
  rw [Scalar.lt_exact, Scalar.one_exact]

/-- Other facts are not scored. -/
theorem scored_of_not_days (unable : facts.days = -1) :
    facts.scored .standard = .error .dividedByZero := by
  rw [days_eq] at unable
  rw [scored, ScoringWeights.standard_exact, Scoring.ofEvidence, evidence,
    Scoring.leadTimeFactor_exact, if_pos unable]
  rfl

/-- Facts whose lead time has a factor have what they are worth as their score. -/
theorem finalScore_of_days (able : facts.days ≠ -1) : facts.finalScore = .ok facts.worth := by
  obtain ⟨scoring, scores, -⟩ := scored_of_days able
  rw [finalScore, scores]
  rfl

/-- Facts have a score exactly if their lead time has a factor, and then it is what they are
worth. -/
theorem finalScore_eq_ok_iff {score : ℝ} :
    facts.finalScore = .ok score ↔ facts.days ≠ -1 ∧ score = facts.worth := by
  by_cases able : facts.days = -1
  · rw [finalScore, scored_of_not_days able]
    simp [able, Except.map]
  · rw [finalScore_of_days able]
    simp [able, eq_comm]

/-- The score of the first facts, if they have one, is at most that of the second, if these have
one. -/
def ScoresAtMost (first second : Facts ℝ) : Prop :=
  ∀ lower upper, first.finalScore = .ok lower → second.finalScore = .ok upper → lower ≤ upper

/-- Scores compare like what the facts are worth. -/
theorem scoresAtMost_of_worth (least : weak.worth ≤ strong.worth) : weak.ScoresAtMost strong := by
  intro lower upper first second
  rw [(finalScore_eq_ok_iff.mp first).2, (finalScore_eq_ok_iff.mp second).2]
  exact least

/-- Nothing that counts in the second facts speaks less for the item than in the first. The lead
time may only become shorter down to zero, and the price may only fall beside a budget from zero on.
-/
structure Favors (weak strong : Facts ℝ) : Prop where
  similarity : weak.similarity.getD (1 / 2) ≤ strong.similarity.getD (1 / 2)
  quality : weak.quality?.getD (4 / 5) ≤ strong.quality?.getD (4 / 5)
  featured : weak.isFeatured = true → strong.isFeatured = true
  days : strong.days = weak.days ∨ 0 ≤ strong.days ∧ strong.days ≤ weak.days
  price : strong.price ≤ weak.price
  budget : ∀ bound, strong.budget = some bound →
    ∃ narrow, weak.budget = some narrow ∧ narrow ≤ bound
  signed : strong.price = weak.price ∨ ∀ bound, strong.budget = some bound → 0 ≤ bound

/-- Every fact favors itself. -/
theorem Favors.refl (facts : Facts ℝ) : facts.Favors facts where
  similarity := le_rfl
  quality := le_rfl
  featured := id
  days := .inl rfl
  price := le_rfl
  budget bound given := ⟨bound, given, le_rfl⟩
  signed := .inl rfl

/-- What speaks more for an item is worth no less. -/
theorem Favors.worth_le (favors : weak.Favors strong) : weak.worth ≤ strong.worth := by
  have waiting : 1 / (weak.days + 1) ≤ 1 / (strong.days + 1) := by
    rcases favors.days with same | ⟨nonneg, shorter⟩
    · rw [same]
    · exact one_div_le_one_div_of_le (by linarith) (by linarith)
  have boost : (if weak.isFeatured then (1 / 5 : ℝ) else 0) ≤
      if strong.isFeatured then 1 / 5 else 0 := by
    cases featured : weak.isFeatured with
    | false =>
      rw [if_neg Bool.false_ne_true]
      split <;> norm_num
    | true => rw [favors.featured featured]
  have fit := Scoring.priceFitOf_mono favors.price favors.budget favors.signed
  have similarity := favors.similarity
  have quality := favors.quality
  rw [worth_eq, worth_eq]
  linarith

/-- Scores follow what speaks for an item. -/
theorem Favors.scoresAtMost (favors : weak.Favors strong) : weak.ScoresAtMost strong :=
  scoresAtMost_of_worth favors.worth_le

/-- Facts with similarity and quality between zero and one, a lead time from zero on and no budget
below zero are worth between zero and six fifths. -/
theorem worth_bounded (similar : facts.similarity.getD (1 / 2) ∈ Set.Icc 0 1)
    (quality : facts.quality?.getD (4 / 5) ∈ Set.Icc 0 1) (waits : 0 ≤ facts.days)
    (signed : ∀ bound, facts.budget = some bound → 0 ≤ bound) :
    0 ≤ facts.worth ∧ facts.worth ≤ 6 / 5 := by
  obtain ⟨similar, similarAtMost⟩ := similar
  obtain ⟨quality, qualityAtMost⟩ := quality
  have waiting : 0 ≤ 1 / (facts.days + 1) := by positivity
  have waitingAtMost : 1 / (facts.days + 1) ≤ 1 :=
    div_le_one_of_le₀ (by linarith) (by linarith)
  have fit : 0 ≤ Scoring.priceFitOf facts.price facts.budget := Scoring.priceFitOf_nonneg signed
  have fitAtMost := Scoring.priceFitOf_le_one facts.price facts.budget
  have boost : (0 : ℝ) ≤ (if facts.isFeatured then 1 / 5 else 0) ∧
      (if facts.isFeatured then (1 / 5 : ℝ) else 0) ≤ 1 / 5 := by
    split <;> norm_num
  rw [worth_eq]
  constructor <;> linarith [boost.1, boost.2]

/-- Beside a budget below zero an item is worth more at a price of two than at a price of one. -/
theorem worth_lt_of_neg {bound : ℝ} (given : facts.budget = some bound) (negative : bound < 0) :
    ({ facts with price := 1 } : Facts ℝ).worth < ({ facts with price := 2 } : Facts ℝ).worth := by
  have fit := Scoring.priceFitOf_lt_of_neg negative
  have beside : ∀ price, ({ facts with price } : Facts ℝ).worth =
      facts.worth + 1 / 20 * (Scoring.priceFitOf price (some bound) -
        Scoring.priceFitOf facts.price (some bound)) := by
    intro price
    rw [worth_eq, worth_eq, days_eq, days_eq, given]
    unfold quality?
    ring
  rw [beside 1, beside 2]
  linarith

/-- The quality of a vendor in exact arithmetic: a hundredth of the success rate, for which the
quality in the row stands in, or the default one. -/
theorem quality_exact (facts : Facts ℝ) (rate : Option ℝ) :
    ({ facts with successRate := rate } : Facts ℝ).quality?.getD (4 / 5) =
      rate.getD (100 * facts.reportedQuality.getD (4 / 5)) / 100 := by
  have hundred : (100.0 : ℝ) = 100 := by norm_num
  cases rate with
  | none => simp [quality?]
  | some rate => simp [quality?, hundred]

/-- Items are scored from the facts that a request tells about them. In exact arithmetic these facts
have a score unless the lead time is minus one day. The score does not fall with the similarity,
with the success rate of the vendor, with the budget, or when the vendor becomes featured, and it
does not rise with a lead time from zero on. It does not rise with the price exactly if there is no
budget below zero. It lies between zero and six fifths if similarity and quality lie between zero
and one, the lead time is not negative and the budget is not. The price is penalised exactly if it
is positive and above a budget. -/
theorem score_follows_facts (facts : Facts ℝ) :
    (∀ context item, Ranker.score .standard context item = (do
      let told ← Ranker.facts context item
      let (finalScore, scoring) ← told.scored .standard
      pure ⟨item, finalScore, scoring, none⟩)) ∧
    ((∃ score, facts.finalScore = .ok score) ↔ facts.leadTime.getD 3 ≠ -1) ∧
    (∀ x y : Option ℝ, x.getD (1 / 2) ≤ y.getD (1 / 2) →
      ScoresAtMost { facts with similarity := x } { facts with similarity := y }) ∧
    (∀ x y : Option ℝ,
      let reported := 100 * facts.reportedQuality.getD (4 / 5)
      x.getD reported ≤ y.getD reported →
        ScoresAtMost { facts with successRate := x } { facts with successRate := y }) ∧
    ScoresAtMost { facts with isFeatured := false } { facts with isFeatured := true } ∧
    (∀ x y : Option ℝ, (∀ bound, y = some bound → ∃ narrow, x = some narrow ∧ narrow ≤ bound) →
      ScoresAtMost { facts with budget := x } { facts with budget := y }) ∧
    (∀ x y : Option ℝ, 0 ≤ x.getD 3 → x.getD 3 ≤ y.getD 3 →
      ScoresAtMost { facts with leadTime := y } { facts with leadTime := x }) ∧
    (facts.leadTime.getD 3 ≠ -1 →
      ((∀ p q : ℝ, p ≤ q →
        ScoresAtMost { facts with price := q } { facts with price := p }) ↔
          ∀ bound, facts.budget = some bound → 0 ≤ bound)) ∧
    (facts.similarity.getD (1 / 2) ∈ Set.Icc 0 1 → facts.quality?.getD (4 / 5) ∈ Set.Icc 0 1 →
      0 ≤ facts.leadTime.getD 3 → (∀ bound, facts.budget = some bound → 0 ≤ bound) →
        ∃ score, facts.finalScore = .ok score ∧ 0 ≤ score ∧ score ≤ 6 / 5) ∧
    ∀ score scoring, facts.scored .standard = .ok (score, scoring) →
      (scoring.pricePenalty = true ↔
        ∃ bound, facts.budget = some bound ∧ 0 < facts.price ∧ bound < facts.price) := by
  refine ⟨Ranker.score_eq .standard, ?scores, ?similarity, ?successRate, ?featured, ?budget,
    ?leadTime, ?price, ?bounded, ?penalty⟩
  case scores =>
    simp only [finalScore_eq_ok_iff, exists_and_left, exists_eq, and_true, days_eq]
  case similarity =>
    intro x y least
    let weak : Facts ℝ := { facts with similarity := x }
    exact Favors.scoresAtMost { Favors.refl weak with similarity := least }
  case successRate =>
    intro x y reported least
    have quality : ({ facts with successRate := x } : Facts ℝ).quality?.getD (4 / 5) ≤
        ({ facts with successRate := y } : Facts ℝ).quality?.getD (4 / 5) := by
      rw [quality_exact, quality_exact]
      exact div_le_div_of_nonneg_right least (by norm_num)
    exact Favors.scoresAtMost { Favors.refl { facts with successRate := x } with quality }
  case featured =>
    exact Favors.scoresAtMost
      { Favors.refl { facts with isFeatured := false } with featured := fun _ => rfl }
  case budget =>
    intro x y wider
    exact Favors.scoresAtMost
      { Favors.refl { facts with budget := x } with budget := wider, signed := .inl rfl }
  case leadTime =>
    intro x y nonneg shorter
    let weak : Facts ℝ := { facts with leadTime := y }
    let strong : Facts ℝ := { facts with leadTime := x }
    have waits : 0 ≤ strong.days ∧ strong.days ≤ weak.days := by
      rw [days_eq, days_eq]
      exact ⟨nonneg, shorter⟩
    exact Favors.scoresAtMost { Favors.refl weak with days := .inr waits }
  case price =>
    rw [← days_eq]
    intro able
    constructor
    · intro falls bound given
      by_contra negative
      have dearer := worth_lt_of_neg given (not_le.mp negative)
      exact (falls 1 2 one_le_two _ _ (finalScore_of_days able) (finalScore_of_days able)).not_gt
        dearer
    · intro signed p q cheaper
      exact Favors.scoresAtMost
        { Favors.refl { facts with price := q } with price := cheaper, signed := .inr signed }
  case bounded =>
    rw [← days_eq]
    intro similar quality waits signed
    have able : facts.days ≠ -1 := by linarith
    exact ⟨facts.worth, finalScore_of_days able, worth_bounded similar quality waits signed⟩
  case penalty =>
    intro score scoring scores
    by_cases able : facts.days = -1
    · rw [scored_of_not_days able] at scores
      cases scores
    · obtain ⟨computed, same, penalty⟩ := scored_of_days able
      rw [same] at scores
      cases scores
      rw [penalty, decide_eq_true_iff, Scoring.priceFitOf_lt_one_iff]

section Sample

/-- An item of a vendor with a success rate, at twice the budget. -/
noncomputable def sampleFacts : Facts ℝ :=
  ⟨some (1 / 2), some 40, some 1, false, some 5, 200, some 100⟩

/-- The item has a score, it is penalised for its price, and it scores no less at a higher success
rate, within a wider budget, with a shorter lead time or at a lower price. -/
theorem score_follows_facts_sample :
    (∃ score, sampleFacts.finalScore = .ok score ∧ 0 ≤ score ∧ score ≤ 6 / 5) ∧
    (∃ score scoring, sampleFacts.scored .standard = .ok (score, scoring) ∧
      scoring.pricePenalty = true) ∧
    sampleFacts.ScoresAtMost { sampleFacts with similarity := some 1 } ∧
    sampleFacts.ScoresAtMost { sampleFacts with successRate := none } ∧
    sampleFacts.ScoresAtMost { sampleFacts with isFeatured := true } ∧
    sampleFacts.ScoresAtMost { sampleFacts with budget := some 150 } ∧
    sampleFacts.ScoresAtMost { sampleFacts with leadTime := none } ∧
    sampleFacts.ScoresAtMost { sampleFacts with price := 120 } := by
  have able : sampleFacts.leadTime.getD 3 ≠ -1 := by norm_num [sampleFacts]
  have signed : ∀ bound, sampleFacts.budget = some bound → 0 ≤ bound := by
    rintro _ ⟨⟩
    norm_num
  have quality : sampleFacts.quality?.getD (4 / 5) = 2 / 5 := by
    refine (quality_exact sampleFacts (some 40)).trans ?_
    norm_num
  obtain ⟨-, scores, similarity, successRate, featured, budget, leadTime, price, bounded,
    penalty⟩ := score_follows_facts sampleFacts
  refine ⟨bounded ?_ ?_ ?_ signed, ?_, similarity (some (1 / 2)) (some 1) ?_,
    successRate (some 40) none ?_, featured, budget (some 100) (some 150) ?_,
    leadTime none (some 5) ?_ ?_, (price able).mpr signed 120 200 (by norm_num)⟩
  · constructor <;> norm_num [sampleFacts]
  · rw [quality]
    constructor <;> norm_num
  · norm_num [sampleFacts]
  · have waits : sampleFacts.days ≠ -1 := days_eq sampleFacts ▸ able
    obtain ⟨scoring, scores, -⟩ := scored_of_days waits
    exact ⟨_, scoring, scores, (penalty _ _ scores).mpr ⟨100, rfl, by norm_num [sampleFacts]⟩⟩
  · norm_num
  · norm_num [sampleFacts]
  · rintro _ ⟨⟩
    exact ⟨100, rfl, by norm_num⟩
  · norm_num
  · norm_num

/-- A belt without figures at some price. -/
def samplePriced (id : String) (price : Float) : Item :=
  ⟨id, id, none, price, "USD", "loom", none, [], [], none, none, none, none, .accessory none⟩

/-- Beside a budget below zero the score rises with the price, and the dearer item is put first. -/
theorem negative_budget_favors_price :
    let facts (price : ℝ) : Facts ℝ := ⟨none, none, none, false, none, price, some (-10)⟩
    (facts 1).finalScore = .ok (-1 / 200) ∧ (facts 2).finalScore = .ok (49 / 200) ∧
    ¬ (facts 2).ScoresAtMost (facts 1) ∧
    (Ranker.rank .standard ⟨some (-10.0), []⟩
      [samplePriced "belt" 1.0, samplePriced "gown" 2.0]).toOption.map (·.map (·.item.id)) =
        some ["gown", "belt"] := by
  intro facts
  have able : ∀ price, (facts price).days ≠ -1 := by
    intro price
    norm_num [facts, days_eq]
  have first : (facts 1).finalScore = .ok (-1 / 200) := by
    rw [finalScore_of_days (able 1), worth_eq, days_eq,
      Scoring.priceFitOf_beyond (by norm_num [facts]) (by norm_num [facts])]
    norm_num [facts, quality?]
  have second : (facts 2).finalScore = .ok (49 / 200) := by
    rw [finalScore_of_days (able 2), worth_eq, days_eq,
      Scoring.priceFitOf_beyond (by norm_num [facts]) (by norm_num [facts])]
    norm_num [facts, quality?]
  refine ⟨first, second, fun falls => ?_, by decide +kernel⟩
  have wrong := falls _ _ second first
  norm_num at wrong

end Sample

end Facts

end Storefront
