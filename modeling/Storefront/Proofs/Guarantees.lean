import Storefront.Proofs.Feeds.Arrivals
import Storefront.Proofs.Feeds.Companions
import Storefront.Proofs.Feeds.Home
import Storefront.Proofs.Floats.Comparison
import Storefront.Proofs.Stores
/-!
# What feeds over the stores guarantee

The feeds of items over stores in memory, for catalogs built by adding items with ordinary figures
and with time for the lookups. Whatever the other stores hold, a feed is no longer than asked for,
numbers its entries, repeats no item, and shows only items that are in stock and whose vendors may
be shown. Feeds for a user also spare the vendors that the user has blocked and keep to the budget.
The traces of feeds account for their candidates; only where no item is found that a feed could be
made around does it say so in place of that.
-/

namespace Storefront

/-- A standing is not gated exactly if the vendor is active and any status is a trusted one. -/
theorem Standing.isGated_eq_false_iff (standing : Standing) :
    standing.isGated = false ↔ standing.isActive = true ∧
      ∀ status, standing.status = some status → status = .approved ∨ status = .verified := by
  unfold isGated
  cases standing.isActive with
  | false => simp
  | true =>
    rcases standing.status with _ | _ | _ | _ | _ | _ <;> simp [VendorStatus.isTrusted]

/-- A price that is not above a budget fits it fully, if both are defined. -/
theorem Scoring.priceFitOf_eq_one {price budget : Float} (priced : price.isNaN = false)
    (defined : budget.isNaN = false) (within : Scalar.lt budget price = false) :
    price ≤ budget ∧ Scoring.priceFitOf price (some budget) = 1.0 := by
  have below : Scalar.le price budget = true := Floats.le_of_not_lt priced defined within
  refine ⟨of_decide_eq_true below, ?_⟩
  rw [Scoring.priceFitOf, below, Bool.true_or]
  rfl

namespace Feed

/-- The trace of a feed accounts for its candidates: every one that the filters met was kept or is
counted under one check, and what is shown is among the kept ones. -/
def Accounts (feed : Feed) : Prop :=
  ∃ result : Filter.Result, feed.trace.metrics = result.metrics ∧
    feed.trace.filtered = result.totalOutput ∧
    result.totalOutput + (DropReason.all.map result.dropped).sum = result.totalInput ∧
    feed.items.length ≤ result.totalOutput ∧ result.totalInput ≤ feed.trace.candidates

/-- No item costs more than the budget; if the budget is a number, every item fits it fully. -/
def Affordable (budget : Option Float) (feed : Feed) : Prop :=
  ∀ bound, budget = some bound → ∀ entry ∈ feed.items, ¬ bound < entry.item.price ∧
    (bound.isNaN = false → entry.item.price ≤ bound ∧ entry.scoring.priceFit = 1.0)

end Feed

namespace Memory

/-- What a feed of items over the stores guarantees, whichever feed it is. -/
structure Guarantees (base : Memory) (limit : Option Int) (feed : Feed) : Prop where
  limited : ∃ count, limit = some count ∧ (feed.items.length : Int) ≤ count
  positions : feed.items.map (·.position) = (List.range feed.items.length).map Int.ofNat
  distinct : (feed.items.map (·.item.id)).Nodup
  streams : ∀ entry ∈ feed.items, entry.stream = entry.item.kind.stream
  inStock : ∀ entry ∈ feed.items, ∀ stock, entry.item.stock? = some stock →
    stock.atMost (.whole 0) = .ok false
  trusted : ∀ entry ∈ feed.items, entry.item.vendor ≠ "" →
    ∀ standing, base.standings.find? entry.item.vendor = some standing →
      standing.isActive = true ∧
      ∀ status, standing.status = some status → status = .approved ∨ status = .verified

/-- A feed shows nothing of the vendors that a user has blocked. -/
def Spares (base : Memory) (userId : Option String) (feed : Feed) : Prop :=
  ∀ id preferences, userId = some id → id ≠ "" → base.preferences.find? id = some preferences →
    ∀ entry ∈ feed.items, entry.item.vendor ∉ preferences.blockedVendors

variable {base : Memory} {limit : Option Int} {count : Int} {feed : Feed}

/-- A feed without items guarantees everything. -/
theorem nothing_guarantees (given : limit = some count) (positive : 1 ≤ count) (message : String) :
    base.Guarantees limit (.nothing message) where
  limited := ⟨count, given, show (0 : Int) ≤ count by omega⟩
  positions := rfl
  distinct := List.nodup_nil
  streams entry member := by cases member
  inStock entry member := by cases member
  trusted entry member := by cases member

section Assembled

variable {candidates : List Item} {trust : TrustMap} {spec : FilterSpec} {budget : Option Float}

/-- A feed that is assembled from different candidates in stock, with the standings of the stores,
guarantees everything. -/
theorem guarantees_of_assembled (assembled : feed.Assembled candidates trust spec budget count)
    (given : limit = some count) (inStockOnly : spec.inStockOnly = true)
    (distinct : (candidates.map (·.id)).Nodup)
    (gathered : ∀ item ∈ candidates, item.vendor ≠ "" →
      trust.lookup item.vendor = base.standings.find? item.vendor) :
    base.Guarantees limit feed where
  limited := ⟨count, given, assembled.limited⟩
  positions := assembled.positions
  distinct := assembled.distinct distinct
  streams := assembled.streams
  inStock entry member stock reported :=
    Filter.stock_of_keeps (assembled.kept entry member).2 inStockOnly reported
  trusted entry member named standing known := by
    obtain ⟨candidate, kept⟩ := assembled.kept entry member
    rw [← gathered entry.item candidate named] at known
    exact standing.isGated_eq_false_iff.mp (Filter.standing_of_keeps kept known)

/-- The trace of a feed that is assembled from no more candidates than it says accounts for
them. -/
theorem accounts_of_assembled (assembled : feed.Assembled candidates trust spec budget count)
    (counted : candidates.length ≤ feed.trace.candidates) : feed.Accounts := by
  obtain ⟨result, sifted, filtered, metrics⟩ := assembled.counted
  have shown := assembled.shown
  rw [filtered] at shown
  exact ⟨result, metrics, filtered, sifted.counted.trans sifted.totalInput.symm, shown,
    sifted.totalInput ▸ counted⟩

/-- A feed assembled under the constraints of a user spares the vendors the user has blocked. -/
theorem spares_of_assembled {userId : Option String} {price : Option Float} {days : Option Int}
    {preferences : Option Preferences}
    (assembled : feed.Assembled candidates trust (.ofUser price days preferences) budget count)
    (stated : ∀ id, userId = some id → id ≠ "" → preferences = base.preferences.find? id) :
    base.Spares userId feed := by
  intro id known given named found entry member blocked
  have spared := Filter.vendor_of_keeps (assembled.kept entry member).2
  rw [stated id given named, found] at spared
  exact spared (List.mem_eraseDups.mpr blocked)

/-- A feed assembled within a budget from candidates with defined prices is affordable. -/
theorem affordable_of_assembled {days : Option Int} {preferences : Option Preferences}
    (assembled : feed.Assembled candidates trust (.ofUser budget days preferences) budget count)
    (priced : ∀ item ∈ candidates, item.price.isNaN = false) : feed.Affordable budget := by
  rintro bound rfl entry member
  obtain ⟨candidate, kept⟩ := assembled.kept entry member
  have within : Scalar.lt bound entry.item.price = false := Filter.price_of_keeps kept rfl
  refine ⟨of_decide_eq_false within, fun defined => ?_⟩
  rw [assembled.priceFit entry member]
  exact Scoring.priceFitOf_eq_one (priced _ candidate) defined within

end Assembled

section Feeds

variable {embed : Embedding} {profile : Profile.Config} {mixes : Bool} {lookups : FanOut.Budget}

/-- Every feed of items over stores whose catalog was built by adding items with ordinary figures
and defined prices keeps its guarantees, and every valid request gets its feed. -/
theorem feeds_guarantee (built : ∃ items, base.catalog = Catalog.ofItems items)
    (ordinary : ∀ item ∈ base.catalog.values, item.Ordinary)
    (timely : lookups.hasTime = true) :
    (∀ request : Home.Request, Call.Answers request.IsValid
      (fun feed => base.Guarantees request.limit feed ∧ feed.Accounts ∧
        base.Spares request.userId feed ∧ feed.Affordable request.budget ∧
        (mixes = true → feed.HeadCapped))
      ((Home.feed (feedSetup embed profile mixes lookups) request).outcome base).1) ∧
    (∀ limit, Call.Answers (IsPositive limit)
      (fun feed => base.Guarantees limit feed ∧ feed.Accounts ∧ (mixes = true → feed.HeadCapped))
      ((Arrivals.trending (feedSetup embed profile mixes lookups) limit).outcome base).1) ∧
    (∀ limit days, Call.Answers
      (IsPositive limit ∧ IsPositive days ∧
        ∀ span, days = some span → ∃ cutoff, Arrivals.daysAgo profile.now span = .ok cutoff)
      (fun feed => base.Guarantees limit feed ∧ feed.Accounts)
      ((Arrivals.newArrivals (feedSetup embed profile mixes lookups) limit days).outcome base).1) ∧
    (∀ itemId limit, Call.Answers (IsFilled itemId ∧ IsPositive limit)
      (fun feed => base.Guarantees limit feed ∧
        (feed = .nothing "Item not found" ∨ feed.Accounts))
      ((Companions.boughtTogether (feedSetup embed profile mixes lookups) itemId
        limit).outcome base).1) ∧
    ∀ itemIds userId limit, Call.Answers ((∃ id ∈ itemIds, id ≠ "") ∧ IsPositive limit)
      (fun feed => base.Guarantees limit feed ∧ base.Spares userId feed ∧
        (feed = .nothing "No reference items found" ∨ feed.Accounts))
      ((Companions.completeLook (feedSetup embed profile mixes lookups) itemIds userId
        limit).outcome base).1 := by
  obtain ⟨items, built⟩ := built
  have keyed : base.catalog.Keyed (·.id) := built ▸ Catalog.ofItems_keyed items
  let conduct := base.conduct Item.Ordinary (fun _ sound => sound.figures.usable)
    (fun _ _ sound => ⟨sound.figures, sound.priced⟩) keyed ordinary embed profile mixes lookups
  have serves : ∀ {distinct spec budget count feed limit},
      conduct.Serves distinct spec budget count feed → distinct → limit = some count →
      spec.inStockOnly = true → base.Guarantees limit feed ∧ feed.Accounts := by
    rintro _ _ _ _ _ _ ⟨candidates, trust, offers, gathered, assembled, counted⟩ unique given
      inStockOnly
    exact ⟨guarantees_of_assembled assembled given inStockOnly (offers.nodup unique)
      (gathered timely), accounts_of_assembled assembled counted⟩
  have agrees := Agrees.refl base
  refine ⟨fun request => ?home, fun limit => ?trending, fun limit days => ?newArrivals,
    fun itemId limit => ?boughtTogether, fun itemIds userId limit => ?completeLook⟩
  case home =>
    refine (Home.feed_ends conduct request).answers agrees (fun _ fails => fails.2) ?_
    rintro feed ⟨userId, count, preferences, user, given, -, stated, served, capped⟩
    obtain ⟨guarantees, accounts⟩ := serves served trivial given rfl
    refine ⟨guarantees, accounts, ?_, ?_, capped⟩
    · obtain ⟨candidates, trust, -, -, assembled, -⟩ := served
      refine spares_of_assembled assembled fun id same _ => ?_
      cases user.symm.trans same
      exact stated
    · obtain ⟨candidates, trust, offers, -, assembled, -⟩ := served
      exact affordable_of_assembled assembled fun item member => (offers.each item member).priced
  case trending =>
    refine (Arrivals.trending_ends conduct limit).answers agrees (fun _ fails => fails.2) ?_
    rintro feed ⟨count, given, -, served, capped⟩
    obtain ⟨guarantees, accounts⟩ := serves served trivial given rfl
    exact ⟨guarantees, accounts, capped⟩
  case newArrivals =>
    refine (Arrivals.newArrivals_ends conduct limit days).answers agrees ?_ ?_
    · rintro fault (⟨-, lacks⟩ | ⟨span, lasting, early⟩) ⟨limited, positive, reaches⟩
      · exact lacks ⟨limited, positive⟩
      · obtain ⟨cutoff, reached⟩ := reaches span lasting
        cases early.symm.trans reached
    · rintro feed ⟨count, given, -, served⟩
      exact serves served trivial given rfl
  case boughtTogether =>
    refine (Companions.boughtTogether_ends conduct itemId limit).answers agrees
      (fun _ fails => fails.2) ?_
    rintro feed ⟨count, given, positive, rfl | served⟩
    · exact ⟨nothing_guarantees given positive _, .inl rfl⟩
    · obtain ⟨guarantees, accounts⟩ := serves served trivial given rfl
      exact ⟨guarantees, .inr accounts⟩
  case completeLook =>
    refine (Companions.completeLook_ends conduct itemIds userId limit).answers agrees
      (fun _ fails => fails.2) ?_
    rintro feed ⟨count, given, positive, rfl | ⟨preferences, stated, served⟩⟩
    · refine ⟨nothing_guarantees given positive _, ?_, .inl rfl⟩
      intro _ _ _ _ _ _ member
      cases member
    · obtain ⟨guarantees, accounts⟩ := serves served trivial given rfl
      obtain ⟨candidates, trust, -, -, assembled, -⟩ := served
      exact ⟨guarantees, spares_of_assembled assembled stated, .inr accounts⟩

end Feeds

section Sample

/-- An item with some stock or none that arrives within two days. -/
def sampleItem (id vendor : String) (inStock : Bool) (details : Details) : Item :=
  ⟨id, id, none, 20.0, "USD", vendor, none, ["linen"],
    [("inventory_quantity", .int (if inStock then 3 else 0)), ("eta_days", .int 2)],
    none, none, none, none, details⟩

/-- The figures and the price of a sample item are ordinary. -/
theorem sampleItem_ordinary (id vendor : String) (inStock : Bool) (details : Details) :
    (sampleItem id vendor inStock details).Ordinary where
  figures := by
    refine ⟨fun value found => ?_, fun value found => ?_, fun value found => ?_⟩
    · cases inStock <;> cases found
      · exact ⟨rfl, 0.0, rfl, rfl⟩
      · exact ⟨rfl, 3.0, rfl, rfl⟩
    · cases found
    · cases found
      refine ⟨⟨rfl, 2.0, rfl, rfl⟩, fun x read => ?_⟩
      cases read
      decide
  priced := show (20.0 : Float).isNaN = false by decide

/-- Stores with a ring that is out of stock, a fabric of a vendor that is not approved yet, and a
belt of a vendor whom a user has blocked. -/
def sample : Memory :=
  ofParts
    [sampleItem "shirt" "loom" true (.garment none none),
      sampleItem "scarf" "loom" true (.accessory none),
      sampleItem "ring" "smith" false (.accessory none),
      sampleItem "twill" "mill" true (.fabric none),
      sampleItem "belt" "tannery" true (.accessory none)]
    [⟨"ada", none, [], [], [], ["tannery"], none⟩]
    [⟨"loom", none, true, some .approved, none, false, none⟩,
      ⟨"mill", none, true, some .pending, none, false, none⟩]

/-- All items of the sample stores are ordinary. -/
theorem sample_ordinary : ∀ item ∈ sample.catalog.values, item.Ordinary := by
  change ∀ item ∈ [sampleItem _ _ _ _, sampleItem _ _ _ _, sampleItem _ _ _ _,
    sampleItem _ _ _ _, sampleItem _ _ _ _], item.Ordinary
  simp [sampleItem_ordinary]

/-- Lookups with time, four at once. -/
def sampleLookups : FanOut.Budget := ⟨4, true⟩

/-- A setup over the sample stores that mixes kinds, on a day of the year 2025. -/
def sampleSetup : FeedSetup Memory :=
  feedSetup none ⟨4, ⟨63900000000000000, some 0⟩⟩ true sampleLookups

/-- Of the sample stores only the scarf completes the look of the shirt. -/
theorem feeds_guarantee_sample :
    (∃ items, sample.catalog = Catalog.ofItems items) ∧
    (∀ item ∈ sample.catalog.values, item.Ordinary) ∧ sampleLookups.hasTime = true ∧
    ((Companions.completeLook sampleSetup ["shirt"] (some "ada") (some 2)).outcome
      sample).1.toOption.map (·.items.map (·.item.id)) = some ["scarf"] ∧
    Call.Answers ((∃ id ∈ ["shirt"], id ≠ "") ∧ IsPositive (some 2))
      (fun feed => sample.Guarantees (some 2) feed ∧ sample.Spares (some "ada") feed ∧
        (feed = .nothing "No reference items found" ∨ feed.Accounts))
      ((Companions.completeLook sampleSetup ["shirt"] (some "ada") (some 2)).outcome sample).1 := by
  have built : ∃ items, sample.catalog = Catalog.ofItems items := ⟨_, rfl⟩
  have timely : sampleLookups.hasTime = true := rfl
  exact ⟨built, sample_ordinary, timely, by decide +kernel,
    (feeds_guarantee built sample_ordinary timely).2.2.2.2 ["shirt"] (some "ada") (some 2)⟩

end Sample

end Memory

end Storefront
