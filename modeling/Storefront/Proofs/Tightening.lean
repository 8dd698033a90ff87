import Storefront.Proofs.Filtering
import Storefront.Proofs.Floats.Order
/-!
# Stricter constraints

Constraints are stricter than others if they ask for everything that the others ask for: a check
that a candidate passes under the stricter ones is passed under the others as well. Each check looks
at one candidate and at nothing else, so the candidates that are kept are a selection from the list,
and selections can be made one after the other in any order and repeated without effect.
-/

namespace Storefront

/-- Constraints ask for everything that others ask for: they may be restricted to items in stock,
have a highest price that is new or lower, block more vendors, and ask for a gender and for a
category where the others do not. -/
structure FilterSpec.Tightens (spec stricter : FilterSpec) : Prop where
  stock : spec.inStockOnly = true → stricter.inStockOnly = true
  price : ∀ bound, spec.maxPrice = some bound →
    ∃ lower, stricter.maxPrice = some lower ∧ (lower = bound ∨ lower ≤ bound)
  blocked : spec.blockedVendors ⊆ stricter.blockedVendors
  gender : ∀ wanted, spec.gender.bind Json.given? = some wanted →
    stricter.gender.bind Json.given? = some wanted
  category : ∀ wanted, spec.category.bind Json.given? = some wanted →
    stricter.category.bind Json.given? = some wanted

namespace Filter

variable {trust stricterTrust : TrustMap} {spec stricter : FilterSpec} {items : List Item}
  {item : Item}

section Checks

/-- The vendors that are gated without standings are gated with any, and standings that are kept
gate the same vendors. -/
theorem gates_of_supplied {trust stricterTrust : Option TrustMap}
    (supplied : ∀ known, trust = some known → stricterTrust = some known) (item : Item)
    (gated : failsVendorGating (trust.getD []) item = true) :
    failsVendorGating (stricterTrust.getD []) item = true := by
  cases trust with
  | none => cases gated
  | some known => rwa [supplied known rfl]

/-- Stock that is good enough for stricter constraints is good enough. -/
theorem stock_of_tightens (tightens : spec.Tightens stricter)
    (passed : failsStock stricter item = .ok false) : failsStock spec item = .ok false := by
  cases wanted : spec.inStockOnly with
  | false => simp [failsStock, wanted]
  | true => simpa only [failsStock, wanted, tightens.stock wanted] using passed

/-- A price that is low enough for stricter constraints is low enough. -/
theorem price_of_tightens (tightens : spec.Tightens stricter)
    (passed : failsPrice stricter item = false) : failsPrice spec item = false := by
  cases bounded : spec.maxPrice with
  | none => simp [failsPrice, bounded]
  | some bound =>
    obtain ⟨lower, alsoBounded, atMost⟩ := tightens.price bound bounded
    simp only [failsPrice, bounded, alsoBounded, decide_eq_false_iff_not] at passed ⊢
    intro above
    rcases atMost with rfl | atMost
    · exact passed above
    · exact passed (Floats.lt_of_le_of_lt atMost above)

/-- A vendor that stricter constraints do not block is not blocked. -/
theorem vendor_of_tightens (tightens : spec.Tightens stricter)
    (passed : failsBlockedVendor stricter item = false) : failsBlockedVendor spec item = false := by
  simp only [failsBlockedVendor, List.contains_eq_mem, decide_eq_false_iff_not] at passed ⊢
  exact fun blocked => passed (tightens.blocked blocked)

/-- An item that fits the gender of stricter constraints fits. -/
theorem demographic_of_tightens (tightens : spec.Tightens stricter)
    (passed : failsDemographic stricter item = false) : failsDemographic spec item = false := by
  cases wanted : spec.gender.bind Json.given? with
  | none => simp [failsDemographic, wanted]
  | some gender =>
    simpa only [failsDemographic, wanted, tightens.gender gender wanted] using passed

/-- An item in the category of stricter constraints is in the category. -/
theorem category_of_tightens (tightens : spec.Tightens stricter)
    (passed : failsCategory stricter item = .ok false) : failsCategory spec item = .ok false := by
  cases wanted : spec.category.bind Json.given? with
  | none => simp [failsCategory, wanted]
  | some category =>
    simpa only [failsCategory, wanted, tightens.category category wanted] using passed

/-- Candidates that stricter constraints keep are kept. -/
theorem keeps_of_tightens (tightens : spec.Tightens stricter)
    (gates : failsVendorGating trust item = true → failsVendorGating stricterTrust item = true)
    (kept : keeps stricterTrust stricter item = true) : keeps trust spec item = true := by
  rw [keeps_iff] at kept ⊢
  intro reason
  have passed := kept reason
  cases reason with
  | vendorGating =>
    refine congrArg Except.ok (Bool.eq_false_iff.mpr fun gated => ?_)
    exact Bool.eq_false_iff.mp (Except.ok.inj passed) (gates gated)
  | stock => exact stock_of_tightens tightens passed
  | price => exact congrArg Except.ok (price_of_tightens tightens (Except.ok.inj passed))
  | blockedVendor => exact congrArg Except.ok (vendor_of_tightens tightens (Except.ok.inj passed))
  | demographic =>
    exact congrArg Except.ok (demographic_of_tightens tightens (Except.ok.inj passed))
  | category => exact category_of_tightens tightens passed

end Checks

/-- A run over candidates that were all kept before drops none. -/
theorem Sifted.idle {result : Result}
    (sifted : Sifted trust spec (items.filter (keeps trust spec)) result) :
    result.kept = items.filter (keeps trust spec) ∧ ∀ reason, result.dropped reason = 0 := by
  have kept : result.kept = items.filter (keeps trust spec) := by
    rw [sifted.kept, List.filter_filter]
    simp only [Bool.and_self]
  refine ⟨kept, fun reason => ?_⟩
  have counted := sifted.counted
  rw [kept, Nat.add_eq_left, List.sum_eq_zero_iff] at counted
  exact counted _ (List.mem_map_of_mem reason.mem_all)

/-- The filters over candidates whose reported stocks are numbers. If constraints are tightened, or
standings are supplied where there were none, or both, the candidates kept are among those kept
before, in the same order. Under any two constraints and standings, filtering by the one and then by
the other keeps what filtering in the other order keeps, and filtering once more by the same ones
drops nothing. -/
theorem tightened_run (trust stricterTrust : Option TrustMap) (typed : spec.Typed)
    (stricterTyped : stricter.Typed)
    (counts : ∀ item ∈ items, ∀ stock, item.stock? = some stock → stock.amount?.isSome) :
    ∃ first second, run (trust.getD []) spec items = .ok first ∧
      run (stricterTrust.getD []) stricter items = .ok second ∧
      (spec.Tightens stricter → (∀ known, trust = some known → stricterTrust = some known) →
        second.kept.Sublist first.kept) ∧
      (∃ oneWay otherWay, run (stricterTrust.getD []) stricter first.kept = .ok oneWay ∧
        run (trust.getD []) spec second.kept = .ok otherWay ∧ oneWay.kept = otherWay.kept) ∧
      ∃ again, run (trust.getD []) spec first.kept = .ok again ∧ again.kept = first.kept ∧
        ∀ reason, again.dropped reason = 0 := by
  have decided : ∀ item ∈ items, Decides (trust.getD []) spec item :=
    fun item member => fails_ok (counts item member) _ typed
  have stricterDecided : ∀ item ∈ items, Decides (stricterTrust.getD []) stricter item :=
    fun item member => fails_ok (counts item member) _ stricterTyped
  obtain ⟨first, ran, sifted⟩ := run_of_decided decided
  obtain ⟨second, stricterRan, stricterSifted⟩ := run_of_decided stricterDecided
  refine ⟨first, second, ran, stricterRan, ?_⟩
  rw [sifted.kept, stricterSifted.kept]
  obtain ⟨oneWay, oneRan, oneSifted⟩ :=
    run_of_decided fun item member => stricterDecided item (List.mem_of_mem_filter member)
  obtain ⟨otherWay, otherRan, otherSifted⟩ :=
    run_of_decided fun item member => decided item (List.mem_of_mem_filter member)
  obtain ⟨again, ranAgain, siftedAgain⟩ :=
    run_of_decided fun item member => decided item (List.mem_of_mem_filter member)
  refine ⟨?tightened, ⟨oneWay, otherWay, oneRan, otherRan, ?commute⟩,
    again, ranAgain, siftedAgain.idle⟩
  case tightened =>
    intro tightens supplied
    exact List.monotone_filter_right items fun item kept =>
      keeps_of_tightens tightens (gates_of_supplied supplied item) kept
  case commute =>
    rw [oneSifted.kept, otherSifted.kept, List.filter_filter, List.filter_filter]
    simp only [Bool.and_comm]

section Sample

/-- At most ninety may be paid, for items in stock or not. -/
def sampleLooseSpec : FilterSpec := { FilterSpec.plain with
  inStockOnly := false
  maxPrice := some 90.0 }

/-- The loose constraints keep all seven sample candidates, the sample constraints with standings
only one of them. -/
theorem tightened_run_sample :
    sampleLooseSpec.Typed ∧ sampleSpec.Typed ∧ sampleLooseSpec.Tightens sampleSpec ∧
    (∀ item ∈ sampleItems, ∀ stock, item.stock? = some stock → stock.amount?.isSome) ∧
    (run [] sampleLooseSpec sampleItems).toOption.map (·.kept.map (·.id)) =
      some ["shirt", "belt", "hat", "coat", "gown", "suit", "scarf"] ∧
    (run sampleTrust sampleSpec sampleItems).toOption.map (·.kept.map (·.id)) =
      some ["shirt"] ∧
    ∃ first second, run [] sampleLooseSpec sampleItems = .ok first ∧
      run sampleTrust sampleSpec sampleItems = .ok second ∧
      second.kept.Sublist first.kept := by
  have typed : sampleLooseSpec.Typed := FilterSpec.plain_typed
  have tightens : sampleLooseSpec.Tightens sampleSpec :=
    { stock := fun _ => rfl
      price := by
        rintro _ ⟨⟩
        exact ⟨50.0, rfl, .inr (by decide +kernel)⟩
      blocked := List.nil_subset _
      gender := by rintro _ ⟨⟩
      category := by rintro _ ⟨⟩ }
  obtain ⟨first, second, ran, stricterRan, selects, -⟩ :=
    tightened_run none (some sampleTrust) typed sampleSpec_typed sampleItems_count
  exact ⟨typed, sampleSpec_typed, tightens, sampleItems_count, by decide +kernel, by decide +kernel,
    first, second, ran, stricterRan, selects tightens (by rintro _ ⟨⟩)⟩

end Sample

end Filter

end Storefront
