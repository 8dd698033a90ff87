import Storefront.Feed.Explanation
import Storefront.Proofs.Calls
import Storefront.Proofs.Floats.Rounding
/-!
# Figures of vendor rows

Stock, lead time and quality are read from the vendor's own row when they are needed. A row is
usable if each of the three is absent or has the form that its reader needs, and if the lead time is
not minus one day. For usable rows every stage of a feed gives a result, whatever the constraints,
the vendors and the user, and for no other rows: each condition is what one stage needs.
-/

namespace Storefront

/-- The figures of a row have the forms in which the stages of feeds can read them. -/
structure Row.Usable (row : Row) : Prop where
  stock : ∀ value, row.present? "inventory_quantity" = some value → value.amount?.isSome
  quality : ∀ value, row.present? "vendorQuality" = some value → ∃ x, value.toFloat = .ok x
  leadTime : ∀ value, row.present? "eta_days" = some value →
    value.amount?.isSome ∧ ∃ x, value.toFloat = .ok x ∧ x ≠ -1.0

/-- A value is a number of ordinary size: it is no text, within the range of floats, and defined. -/
def Json.IsOrdinary (value : Json) : Prop :=
  value.amount?.isSome ∧ ∃ x, value.toFloat = .ok x ∧ x.isNaN = false

/-- The figures of a row are absent or ordinary, and the lead time is not negative. -/
structure Row.Ordinary (row : Row) : Prop where
  stock : ∀ value, row.present? "inventory_quantity" = some value → value.IsOrdinary
  quality : ∀ value, row.present? "vendorQuality" = some value → value.IsOrdinary
  leadTime : ∀ value, row.present? "eta_days" = some value →
    value.IsOrdinary ∧ ∀ x, value.toFloat = .ok x → 0.0 ≤ x

/-- Ordinary figures are usable. -/
theorem Row.Ordinary.usable {row : Row} (ordinary : row.Ordinary) : row.Usable where
  stock value found := (ordinary.stock value found).1
  quality value found := by
    obtain ⟨-, x, read, -⟩ := ordinary.quality value found
    exact ⟨x, read⟩
  leadTime value found := by
    obtain ⟨⟨number, x, read, -⟩, nonneg⟩ := ordinary.leadTime value found
    refine ⟨number, x, read, ?_⟩
    rintro rfl
    exact absurd (nonneg _ read) (by decide)

/-- An item with ordinary figures and a price that is a number. -/
structure Item.Ordinary (item : Item) : Prop where
  figures : item.raw.Ordinary
  priced : item.price.isNaN = false

/-- The category of the constraints is a text, if there is one. -/
def FilterSpec.Typed (spec : FilterSpec) : Prop :=
  ∀ value, spec.category = some value → ∃ text, value = .str text

/-- The constraints of a request that asks for nothing in particular have no category. -/
theorem FilterSpec.plain_typed : FilterSpec.plain.Typed := by
  intro value some
  cases some

section Reading

/-- An optional value can be read if every value that is there can. -/
theorem FilterSpec.readOptional_ok_iff {α : Type} {read : Json → Except Fault α}
    {value : Option Json} :
    (∃ answer, FilterSpec.readOptional read value = .ok answer) ↔
      ∀ found, value = some found → ∃ answer, read found = .ok answer := by
  cases value with
  | none => simp [FilterSpec.readOptional]
  | some found =>
    simp only [FilterSpec.readOptional, Option.some.injEq, forall_eq']
    cases read found <;> simp [Except.map]

/-- A value can be compared with a bound exactly if it is a number of its own kind. -/
theorem Json.atMost_ok_iff (value : Json) (bound : Json.Amount) :
    (∃ answer, value.atMost bound = .ok answer) ↔ value.amount?.isSome := by
  unfold Json.atMost
  cases value.amount? <;> simp

/-- The lead time has a factor unless it is minus one day. -/
theorem Scoring.leadTimeFactor_ok_iff (days : Float) :
    (∃ factor, Scoring.leadTimeFactor days = .ok factor) ↔ days ≠ -1.0 := by
  have one : (Scalar.one : Float) = 1.0 := by rfl
  unfold Scoring.leadTimeFactor
  rw [one, ← not_iff_not, not_not, ← Floats.isZero_add_one_iff]
  by_cases zero : Scalar.isZero (days + 1.0) = true <;> simp [zero]

end Reading

section Filtering

variable {item : Item}

/-- The stock check gives a result if a reported stock is a number of its own kind. -/
theorem Filter.failsStock_ok
    (counts : ∀ stock, item.stock? = some stock → stock.amount?.isSome) (spec : FilterSpec) :
    ∃ answer, Filter.failsStock spec item = .ok answer := by
  unfold Filter.failsStock
  split
  · exact ⟨false, rfl⟩
  · cases found : item.stock? with
    | none => exact ⟨false, rfl⟩
    | some stock => exact (Json.atMost_ok_iff stock _).mpr (counts stock found)

/-- If a candidate without special wishes is kept or dropped, its stock can be compared with
none. -/
theorem Filter.stock_readable {reason : Option DropReason}
    (checked : Filter.dropReason? [] .plain item = .ok reason) {stock : Json}
    (found : item.stock? = some stock) : stock.amount?.isSome := by
  rw [← Json.atMost_ok_iff stock (.whole 0)]
  have first : Filter.failsStock .plain item = stock.atMost (.whole 0) := by
    simp [Filter.failsStock, FilterSpec.plain, found]
  simp only [Filter.dropReason?, DropReason.all, Filter.firstFailing, Filter.fails,
    Filter.failsVendorGating, List.lookup_nil, first] at checked
  cases compared : stock.atMost (.whole 0) with
  | ok answer => exact ⟨answer, rfl⟩
  | error fault =>
    rw [compared] at checked
    cases checked

/-- The category check gives a result if the category is a text. -/
theorem Filter.failsCategory_ok {spec : FilterSpec} (typed : spec.Typed) (item : Item) :
    ∃ answer, Filter.failsCategory spec item = .ok answer := by
  unfold Filter.failsCategory
  cases given : spec.category with
  | none => exact ⟨false, rfl⟩
  | some value =>
    obtain ⟨text, rfl⟩ := typed value given
    rw [Option.bind_some, Json.given?]
    cases (Json.str text).isTruthy with
    | true => exact ⟨_, rfl⟩
    | false => exact ⟨_, rfl⟩

/-- Every check gives a result if a reported stock is a number and the category is a text. -/
theorem Filter.fails_ok (counts : ∀ stock, item.stock? = some stock → stock.amount?.isSome)
    (trust : TrustMap) {spec : FilterSpec} (typed : spec.Typed) (reason : DropReason) :
    ∃ answer, Filter.fails trust spec item reason = .ok answer := by
  cases reason with
  | stock => exact Filter.failsStock_ok counts spec
  | category => exact Filter.failsCategory_ok typed item
  | vendorGating => exact ⟨_, rfl⟩
  | price => exact ⟨_, rfl⟩
  | blockedVendor => exact ⟨_, rfl⟩
  | demographic => exact ⟨_, rfl⟩

/-- The search for a failing check gives a result if every check does. -/
theorem Filter.firstFailing_ok {trust : TrustMap} {spec : FilterSpec} {reasons : List DropReason}
    (checks : ∀ reason ∈ reasons, ∃ answer, Filter.fails trust spec item reason = .ok answer) :
    ∃ reason, Filter.firstFailing trust spec item reasons = .ok reason := by
  induction reasons with
  | nil => exact ⟨none, rfl⟩
  | cons reason rest ih =>
    rw [List.forall_mem_cons] at checks
    obtain ⟨⟨answer, checked⟩, others⟩ := checks
    cases answer with
    | true => exact ⟨some reason, by simp [Filter.firstFailing, checked]⟩
    | false => simpa [Filter.firstFailing, checked] using ih others

/-- A usable row is kept or dropped for a reason. -/
theorem Filter.dropReason?_ok (usable : item.raw.Usable) (trust : TrustMap) {spec : FilterSpec}
    (typed : spec.Typed) : ∃ reason, Filter.dropReason? trust spec item = .ok reason :=
  Filter.firstFailing_ok fun reason _ => Filter.fails_ok usable.stock trust typed reason

end Filtering

section Ranking

variable {item : Item}

/-- A scored item is the item with its factors; it has no stream yet. -/
theorem Ranker.score_eq_ok {weights : ScoringWeights Float} {context : RankingContext}
    {ranked : Ranked} (scored : Ranker.score weights context item = .ok ranked) :
    ranked.item = item ∧ ranked.stream = none ∧
      ranked.scoring.priceFit = Scoring.priceFitOf item.price context.budget := by
  simp only [Ranker.score, Ranker.evidence, Scoring.ofEvidence, Call.bind_eq_ok_iff,
    Call.pure_eq_ok, Except.ok.injEq] at scored
  obtain ⟨_, ⟨_, _, _, _, rfl⟩, _, ⟨_, _, rfl⟩, rfl⟩ := scored
  exact ⟨rfl, rfl, rfl⟩

/-- The quality has a value or none, whatever the standing says, if a reported one can be read. -/
theorem Ranker.quality?_ok
    (reads : ∀ value, item.reportedQuality? = some value → ∃ x, value.toFloat = .ok x)
    (standing : Option Standing) : ∃ answer, Ranker.quality? item standing = .ok answer := by
  unfold Ranker.quality?
  split
  · exact ⟨_, rfl⟩
  · exact FilterSpec.readOptional_ok_iff.mpr reads

/-- The lead time, or the default one, has a factor if a reported one can be read and has one. -/
theorem Ranker.leadTimeFactor_ok
    (reads : ∀ value, item.leadTime? = some value → ∃ x, value.toFloat = .ok x ∧ x ≠ -1.0) :
    ∃ answer, FilterSpec.readOptional Json.toFloat item.leadTime? = .ok answer ∧
      ∃ factor, Scoring.leadTimeFactor
        (answer.getD ScoringWeights.standard.defaultLeadTime) = .ok factor := by
  cases found : item.leadTime? with
  | none => exact ⟨none, rfl, (Scoring.leadTimeFactor_ok_iff _).mpr (by decide)⟩
  | some value =>
    obtain ⟨x, read, other⟩ := reads value found
    have given : FilterSpec.readOptional Json.toFloat (some value) = .ok (some x) := by
      simp [FilterSpec.readOptional, read, Except.map]
    exact ⟨x, given, (Scoring.leadTimeFactor_ok_iff x).mpr other⟩

/-- An item can be scored in every request exactly if its quality can be read and its lead time
can be read and has a factor. -/
theorem Ranker.score_ok_iff (item : Item) :
    (∀ context, ∃ ranked, Ranker.score .standard context item = .ok ranked) ↔
      (∀ value, item.reportedQuality? = some value → ∃ x, value.toFloat = .ok x) ∧
      ∀ value, item.leadTime? = some value → ∃ x, value.toFloat = .ok x ∧ x ≠ -1.0 := by
  simp only [Ranker.score, Ranker.evidence, Scoring.ofEvidence, Call.bind_eq_ok_iff,
    Call.pure_eq_ok, Except.ok.injEq]
  constructor
  · intro scores
    obtain ⟨_, _, ⟨_, quality, leadTime, read, rfl⟩, _, ⟨_, factor, rfl⟩, rfl⟩ := scores .empty
    have unknown : RankingContext.empty.standing? item = none := by
      simp [RankingContext.standing?, RankingContext.empty]
    simp only [Ranker.quality?, unknown, Option.bind_none] at quality
    refine ⟨FilterSpec.readOptional_ok_iff.mp ⟨_, quality⟩, ?_⟩
    intro value found
    rw [found, FilterSpec.readOptional, Call.map_eq_ok_iff] at read
    obtain ⟨x, read, rfl⟩ := read
    exact ⟨x, read, (Scoring.leadTimeFactor_ok_iff x).mp ⟨_, factor⟩⟩
  · rintro ⟨quality, leadTime⟩ context
    obtain ⟨_, quality⟩ := Ranker.quality?_ok quality (context.standing? item)
    obtain ⟨_, read, _, factor⟩ := Ranker.leadTimeFactor_ok leadTime
    exact ⟨_, _, ⟨_, quality, _, read, rfl⟩, _, ⟨_, factor, rfl⟩, rfl⟩

end Ranking

section Explaining

/-- An item can be explained exactly if its lead time is a number of its own kind. -/
theorem Explanation.generate_ok_iff (tags : List String) (ranked : Ranked) :
    (∃ explanation, Explanation.generate .standard tags ranked = .ok explanation) ↔
      ∀ value, ranked.item.leadTime? = some value → value.amount?.isSome := by
  simp only [Explanation.generate, Explanation.deliveryReason, Call.bind_eq_ok_iff,
    Call.pure_eq_ok, Except.ok.injEq]
  cases found : ranked.item.leadTime? with
  | none => simp
  | some value =>
    simp only [Option.some.injEq, forall_eq', Call.bind_eq_ok_iff, Except.ok.injEq]
    rw [← Json.atMost_ok_iff value Explanation.Rules.standard.fastDelivery]
    constructor
    · rintro ⟨_, _, ⟨answer, compared, _⟩, _⟩
      exact ⟨answer, compared⟩
    · rintro ⟨answer, compared⟩
      exact ⟨_, _, ⟨answer, compared, rfl⟩, rfl⟩

end Explaining

/-- A row is usable exactly if its item passes the three stages in every request. -/
theorem Row.usable_iff (item : Item) :
    item.raw.Usable ↔
      (∀ trust spec, spec.Typed → ∃ reason, Filter.dropReason? trust spec item = .ok reason) ∧
      (∀ context, ∃ ranked, Ranker.score .standard context item = .ok ranked) ∧
      ∀ tags ranked, ranked.item = item →
        ∃ explanation, Explanation.generate .standard tags ranked = .ok explanation := by
  rw [Ranker.score_ok_iff]
  constructor
  · intro usable
    refine ⟨fun trust spec typed => Filter.dropReason?_ok usable trust typed,
      ⟨usable.quality, fun value found => (usable.leadTime value found).2⟩, ?_⟩
    rintro tags ranked rfl
    exact (Explanation.generate_ok_iff tags ranked).mpr fun value found =>
      (usable.leadTime value found).1
  · rintro ⟨filtered, ⟨quality, leadTime⟩, explained⟩
    refine ⟨?_, quality, fun value found => ⟨?_, leadTime value found⟩⟩
    · intro value found
      obtain ⟨reason, checked⟩ := filtered [] .plain FilterSpec.plain_typed
      exact Filter.stock_readable checked found
    · exact (Explanation.generate_ok_iff [] ⟨item, 0.0, ⟨0.0, 0.0, 0.0, 0.0, 0.0, false⟩, none⟩).mp
        (explained [] _ rfl) value found

end Storefront
