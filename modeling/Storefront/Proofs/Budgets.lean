import Storefront.Proofs.Batches
import Storefront.Proofs.Floats.Definedness
import Storefront.Proofs.Imports
/-!
# Budgets and undefined prices

The filters drop what is above a budget, and the ranking fits fully what is at most the budget. The
two agree on numbers. An undefined price is neither above a budget nor at most it: the filters keep
the item under every budget, and it does not fit any. Rows come with such a price if they hold the
undefined number or a text that names it; every other price that is no number is free of charge.
-/

namespace Storefront

namespace Json

variable {value : Json} {x : Float}

/-- A value writes the undefined number: it is that, or it is a text that names it. -/
def IsUndefined : Json → Prop
  | .float value => value.isNaN = true
  | .str text => Numeral.NamesUndefined (Text.trimBy Text.isSpace text.toList)
  | _ => False

instance : DecidablePred IsUndefined
  | .float value => inferInstanceAs (Decidable (value.isNaN = true))
  | .str text =>
    inferInstanceAs (Decidable (Numeral.NamesUndefined (Text.trimBy Text.isSpace text.toList)))
  | .null | .bool _ | .int _ | .arr _ | .obj _ => inferInstanceAs (Decidable False)

/-- What is read from a value is undefined exactly if the value writes the undefined number. -/
theorem isNaN_of_toFloat (reads : value.toFloat = .ok x) : x.isNaN = true ↔ value.IsUndefined := by
  cases value with
  | null => cases reads
  | arr items => cases reads
  | obj entries => cases reads
  | bool truth =>
    cases reads
    refine iff_of_false ?_ id
    cases truth <;> decide
  | int n =>
    simp only [toFloat] at reads
    split at reads
    · next nearest =>
      cases reads
      exact iff_of_false (Bool.eq_false_iff.mp (Floats.isNaN_of_nearestFloat? nearest)) id
    · cases reads
  | float value =>
    cases reads
    exact Iff.rfl
  | str text =>
    simp only [toFloat] at reads
    split at reads
    · next free =>
      cases reads
      exact Numeral.isNaN_of_freeFloat? free
    · cases reads

/-- A value that writes the undefined number is read. -/
theorem IsUndefined.reads (undefined : value.IsUndefined) : ∃ x, value.toFloat = .ok x := by
  cases value with
  | float value => exact ⟨value, rfl⟩
  | str text =>
    obtain ⟨x, free⟩ := Numeral.exists_freeFloat? undefined
    refine ⟨x, ?_⟩
    rw [toFloat, free]
  | _ => exact undefined.elim

end Json

namespace Listing

variable {raw : Row} {source : String} {vendor : Option String} {item : Item}

/-- A price is undefined exactly if its column writes the undefined number. -/
theorem isNaN_of_price {value : Json} {amount : Float} (priced : price value = .ok amount) :
    amount.isNaN = true ↔ value.IsUndefined := by
  have free : (0.0 : Float).isNaN ≠ true := by decide
  unfold price at priced
  split at priced
  · cases priced
    exact iff_of_false free id
  · cases priced
    exact iff_of_false free nofun
  · split at priced
    · next reads =>
      cases priced
      exact Json.isNaN_of_toFloat reads
    · cases priced
    · next unread =>
      cases priced
      refine iff_of_false free fun undefined => ?_
      obtain ⟨x, reads⟩ := undefined.reads
      cases unread.symm.trans reads

/-- An accepted row gives its item the price of its column. -/
theorem price_of_normalize (accepted : normalize raw source vendor = .ok item) :
    price (column raw (Shape.ofSource source).priceColumn) = .ok item.price := by
  obtain ⟨draft, drafts, normalizes⟩ := Call.bind_eq_ok_iff.mp accepted
  rw [draft_eq] at drafts
  obtain ⟨amount, priced, rfl⟩ := Call.map_eq_ok_iff.mp drafts
  dsimp only at normalizes
  split at normalizes
  · cases normalizes
  · split at normalizes
    · cases normalizes
    · have stored : ∀ id vendor, (attached ((Shape.ofSource source).drafted raw amount) id vendor
          raw).get? "price" = some (.float amount) :=
        fun _ _ => (attached_get? (by decide)).trans rfl
      rw [priced, Item.parse_price (stored _ _) normalizes]

/-- The item of an accepted row has an undefined price exactly if the row writes one. -/
theorem isNaN_price_iff (accepted : normalize raw source vendor = .ok item) :
    item.price.isNaN = true ↔ (column raw (Shape.ofSource source).priceColumn).IsUndefined :=
  isNaN_of_price (price_of_normalize accepted)

end Listing

/-- A price that is not above a budget is at most it exactly if both are defined. -/
theorem Scoring.le_budget_iff {price budget : Float} (within : Scalar.lt budget price = false) :
    price ≤ budget ↔ price.isNaN = false ∧ budget.isNaN = false :=
  ⟨Floats.defined_of_le, fun ⟨priced, defined⟩ => (priceFitOf_eq_one priced defined within).1⟩

/-- A price fits a budget fully only if it is defined, and so is the budget unless the item is free
of charge. -/
theorem Scoring.defined_of_priceFitOf {price budget : Float}
    (fits : priceFitOf price (some budget) = 1.0) :
    price.isNaN = false ∧ (budget.isNaN = false ∨ price ≤ 0.0) := by
  change (if decide (price ≤ budget) || decide (price ≤ 0.0) then 1.0 else budget / price) = 1.0
    at fits
  by_cases below : price ≤ budget
  · exact (Floats.defined_of_le below).imp_right .inl
  by_cases free : price ≤ 0.0
  · exact ⟨(Floats.defined_of_le free).1, .inr free⟩
  -- What is neither is the quotient, and with an undefined side that would be undefined.
  rw [decide_eq_false below, decide_eq_false free] at fits
  change budget / price = 1.0 at fits
  have defined : ¬ (budget.isNaN = true ∨ price.isNaN = true) := by
    refine mt Floats.isNaN_div_of_undefined ?_
    rw [fits]
    decide
  rw [not_or, Bool.not_eq_true, Bool.not_eq_true] at defined
  exact ⟨defined.2, .inl defined.1⟩

/-- A price that is not above a budget fits it fully exactly if the price is defined, and so is the
budget unless the item is free of charge. -/
theorem Scoring.priceFitOf_eq_one_iff {price budget : Float}
    (within : Scalar.lt budget price = false) :
    priceFitOf price (some budget) = 1.0 ↔
      price.isNaN = false ∧ (budget.isNaN = false ∨ price ≤ 0.0) := by
  refine ⟨defined_of_priceFitOf, ?_⟩
  rintro ⟨priced, defined | free⟩
  · exact (priceFitOf_eq_one priced defined within).2
  · change (if decide (price ≤ budget) || decide (price ≤ 0.0) then 1.0 else budget / price) = 1.0
    rw [decide_eq_true free, Bool.or_true]
    rfl

namespace Filter

variable {spec : FilterSpec} {item : Item} {budget : Float}

/-- A candidate passes a budget exactly if its price is at most the budget, or one of the two is
undefined. -/
theorem failsPrice_eq_false_iff (bounded : spec.maxPrice = some budget) :
    failsPrice spec item = false ↔
      item.price ≤ budget ∨ item.price.isNaN = true ∨ budget.isNaN = true := by
  have fails : failsPrice spec item = Scalar.lt budget item.price := by
    rw [failsPrice, bounded]
    rfl
  rw [fails]
  constructor
  · intro within
    by_cases defined : item.price.isNaN = false ∧ budget.isNaN = false
    · exact .inl ((Scoring.le_budget_iff within).mpr defined)
    · rw [not_and_or, Bool.not_eq_false, Bool.not_eq_false] at defined
      exact .inr defined
  · rintro (atMost | undefined)
    · exact Floats.not_lt_of_le atMost
    · exact Floats.not_lt_of_undefined undefined.symm

/-- The only candidate of a run is kept unless nothing is. -/
theorem mem_kept_singleton {trust : TrustMap} {result : Result}
    (ran : run trust spec [item] = .ok result) (filled : result.kept ≠ []) :
    item ∈ result.kept := by
  obtain ⟨other, member⟩ := List.exists_mem_of_ne_nil _ filled
  rw [kept_of_run ran] at member
  rwa [← List.mem_singleton.mp (List.mem_of_mem_filter member), kept_of_run ran]

end Filter

namespace Listing

variable {raw : Row} {source : String} {vendor : Option String} {item : Item} {spec : FilterSpec}
  {budget : Float}

/-- The item of an accepted row passes a budget if its price is at most the budget, and else only if
the row writes an undefined price or the budget is undefined. So what the filters keep is within the
budget exactly if both are defined, and the ranking fits it fully exactly if the price is defined,
and so is the budget unless the item is free of charge. -/
theorem budget_binds_iff (accepted : normalize raw source vendor = .ok item)
    (bounded : spec.maxPrice = some budget) :
    let undefined := (column raw (Shape.ofSource source).priceColumn).IsUndefined
    (Filter.failsPrice spec item = false ↔
      item.price ≤ budget ∨ undefined ∨ budget.isNaN = true) ∧
    ∀ trust items result, Filter.run trust spec items = .ok result → item ∈ result.kept →
      (item.price ≤ budget ↔ ¬ undefined ∧ budget.isNaN = false) ∧
      (Scoring.priceFitOf item.price (some budget) = 1.0 ↔
        ¬ undefined ∧ (budget.isNaN = false ∨ item.price ≤ 0.0)) ∧
      ∀ weights context ranked, context.budget = some budget →
        Ranker.score weights context item = .ok ranked →
        ranked.scoring.priceFit = Scoring.priceFitOf item.price (some budget) := by
  intro undefined
  have priced : item.price.isNaN = true ↔ undefined := isNaN_price_iff accepted
  refine ⟨?passes, fun trust items result ran kept => ?kept⟩
  case passes => rw [Filter.failsPrice_eq_false_iff bounded, priced]
  case kept =>
    rw [Filter.kept_of_run ran] at kept
    have within := Filter.price_of_keeps (List.mem_filter.mp kept).2 bounded
    refine ⟨?_, ?_, fun weights context ranked asked scored => ?ranks⟩
    · rw [Scoring.le_budget_iff within, ← priced, Bool.not_eq_true]
    · rw [Scoring.priceFitOf_eq_one_iff within, ← priced, Bool.not_eq_true]
    case ranks =>
      rw [← asked]
      exact (Ranker.score_eq_ok scored).2.2

section Sample

/-- A row of a listing with a price. -/
def samplePriced (price : Json) : Row :=
  [("id", .str "n1"), ("name", .str "Tweed"), ("price", price)]

/-- A request for what costs at most fifty. -/
def sampleBudget : FilterSpec := .ofUser (some 50.0) none none

/-- If the item of a row with a price is not dropped from a run of its own, the row is accepted and
its item kept. -/
theorem exists_kept (price : Json)
    (survives : (normalize (samplePriced price) "etsy" none).toOption.map (fun item =>
      (Filter.run [] sampleBudget [item]).toOption.map (·.kept.isEmpty)) = some (some false)) :
    ∃ item result, normalize (samplePriced price) "etsy" none = .ok item ∧
      Filter.run [] sampleBudget [item] = .ok result ∧ item ∈ result.kept := by
  obtain ⟨item, accepted, runs⟩ := Call.ok_of_toOption_map survives
  obtain ⟨result, ran, filled⟩ := Call.ok_of_toOption_map runs
  exact ⟨item, result, accepted, ran,
    Filter.mem_kept_singleton ran (List.isEmpty_eq_false_iff.mp filled)⟩

/-- A price that is written as a text with space around it is kept, and it is within the budget. -/
theorem budget_binds_iff_sample :
    ∃ item result, normalize (samplePriced (.str " 49.5 ")) "etsy" none = .ok item ∧
      sampleBudget.maxPrice = some 50.0 ∧
      Filter.run [] sampleBudget [item] = .ok result ∧ item ∈ result.kept ∧
      item.price ≤ 50.0 ∧ Scoring.priceFitOf item.price (some 50.0) = 1.0 := by
  obtain ⟨item, result, accepted, ran, kept⟩ := exists_kept (.str " 49.5 ") (by decide +kernel)
  have written : ¬ (column (samplePriced (.str " 49.5 "))
      (Shape.ofSource "etsy").priceColumn).IsUndefined := by decide +kernel
  have defined : (50.0 : Float).isNaN = false := by decide
  have bounded : sampleBudget.maxPrice = some 50.0 := rfl
  obtain ⟨within, fits, -⟩ := (budget_binds_iff accepted bounded).2 [] [item] result ran kept
  exact ⟨item, result, accepted, bounded, ran, kept, within.mpr ⟨written, defined⟩,
    fits.mpr ⟨written, .inl defined⟩⟩

/-- A price that is written as the name of the undefined number is kept as well, although it is not
within the budget and does not fit it. -/
theorem undefined_price_passes :
    ∃ item result, normalize (samplePriced (.str "nan")) "etsy" none = .ok item ∧
      sampleBudget.maxPrice = some 50.0 ∧
      Filter.run [] sampleBudget [item] = .ok result ∧ item ∈ result.kept ∧
      ¬ item.price ≤ 50.0 ∧ Scoring.priceFitOf item.price (some 50.0) ≠ 1.0 := by
  obtain ⟨item, result, accepted, ran, kept⟩ := exists_kept (.str "nan") (by decide +kernel)
  have undefined : item.price.isNaN = true := (isNaN_price_iff accepted).mpr (by decide +kernel)
  have bounded : sampleBudget.maxPrice = some 50.0 := rfl
  refine ⟨item, result, accepted, bounded, ran, kept, fun atMost => ?_, fun fits => ?_⟩
  · exact Bool.eq_false_iff.mp (Floats.defined_of_le atMost).1 undefined
  · exact Bool.eq_false_iff.mp (Scoring.defined_of_priceFitOf fits).1 undefined

end Sample

end Listing

end Storefront
