import Storefront.Feed.Filter
import Storefront.Proofs.Figures
/-!
# What the filters keep and count

A candidate is kept exactly if it passes every check, and a candidate that is not kept is counted
under the first check that it does not pass. Where every check gives a result, this determines what
a run of the filters gives: the kept candidates stand in the order in which they came, the counters
add up to the other ones, and making the checks in another order keeps the same candidates.
-/

namespace Storefront

/-- Every check is among the checks that a candidate meets. -/
theorem DropReason.mem_all (reason : DropReason) : reason ∈ all := by
  cases reason <;> decide

namespace Filter

variable {trust : TrustMap} {spec : FilterSpec} {items : List Item} {item : Item}

/-- Whether no check drops a candidate. -/
def keeps (trust : TrustMap) (spec : FilterSpec) (item : Item) : Bool :=
  match dropReason? trust spec item with
  | .ok none => true
  | _ => false

/-- No check finds a failure exactly if every check gives no failure. -/
theorem firstFailing_eq_none_iff {reasons : List DropReason} :
    firstFailing trust spec item reasons = .ok none ↔
      ∀ reason ∈ reasons, fails trust spec item reason = .ok false := by
  induction reasons with
  | nil => simp [firstFailing]
  | cons reason rest ih =>
    rw [List.forall_mem_cons, ← ih, firstFailing]
    rcases fails trust spec item reason with fault | _ | _ <;> simp

/-- The first failing check is one of the checks made, and the candidate fails it. -/
theorem fails_of_firstFailing {reasons : List DropReason} {reason : DropReason}
    (found : firstFailing trust spec item reasons = .ok (some reason)) :
    reason ∈ reasons ∧ fails trust spec item reason = .ok true := by
  induction reasons with
  | nil => cases found
  | cons first rest ih =>
    rw [firstFailing] at found
    rcases checked : fails trust spec item first with fault | _ | _
    · simp [checked] at found
    · simp only [checked] at found
      exact ⟨List.mem_cons_of_mem _ (ih found).1, (ih found).2⟩
    · simp only [checked] at found
      cases found
      exact ⟨List.mem_cons_self, checked⟩

/-- A candidate is dropped for its vendor exactly if its vendor is gated: this check comes first. -/
theorem dropReason?_eq_vendorGating_iff :
    dropReason? trust spec item = .ok (some .vendorGating) ↔
      failsVendorGating trust item = true := by
  constructor
  · exact fun dropped => Except.ok.inj (fails_of_firstFailing dropped).2
  · intro gated
    have checked : fails trust spec item .vendorGating = .ok true := congrArg Except.ok gated
    rw [dropReason?, DropReason.all, firstFailing, checked]

/-- A candidate is kept exactly if it passes every check. -/
theorem keeps_iff :
    keeps trust spec item = true ↔ ∀ reason, fails trust spec item reason = .ok false := by
  have kept : keeps trust spec item = true ↔ dropReason? trust spec item = .ok none := by
    unfold keeps
    split <;> simp_all
  rw [kept, dropReason?, firstFailing_eq_none_iff]
  exact ⟨fun passes reason => passes reason reason.mem_all, fun passes reason _ => passes reason⟩

section Kept

variable (kept : keeps trust spec item = true)
include kept

/-- A kept candidate has stock above zero, if it reports any and only items in stock are wanted. -/
theorem stock_of_keeps (wanted : spec.inStockOnly = true) {stock : Json}
    (reported : item.stock? = some stock) : stock.atMost (.whole 0) = .ok false := by
  have passed : failsStock spec item = .ok false := keeps_iff.mp kept .stock
  simpa only [failsStock, wanted, Bool.not_true, Bool.false_eq_true, if_false, reported]
    using passed

/-- The vendor of a kept candidate is not gated, if its standing is known. -/
theorem standing_of_keeps {standing : Standing} (known : trust.lookup item.vendor = some standing) :
    standing.isGated = false := by
  have passed : failsVendorGating trust item = false :=
    Except.ok.inj (keeps_iff.mp kept .vendorGating)
  rwa [failsVendorGating, known] at passed

/-- The vendor of a kept candidate is not blocked. -/
theorem vendor_of_keeps : item.vendor ∉ spec.blockedVendors := by
  have passed : failsBlockedVendor spec item = false :=
    Except.ok.inj (keeps_iff.mp kept .blockedVendor)
  simpa only [failsBlockedVendor, List.contains_eq_mem, decide_eq_false_iff_not] using passed

/-- A kept candidate does not cost more than the highest price. -/
theorem price_of_keeps {bound : Float} (bounded : spec.maxPrice = some bound) :
    Scalar.lt bound item.price = false := by
  have passed : failsPrice spec item = false := Except.ok.inj (keeps_iff.mp kept .price)
  rwa [failsPrice, bounded] at passed

end Kept

section Tallying

/-- Whether a candidate passes one check. -/
def passes (trust : TrustMap) (spec : FilterSpec) (item : Item) (reason : DropReason) : Bool :=
  match fails trust spec item reason with
  | .ok false => true
  | _ => false

/-- The first of the checks that a candidate does not pass. -/
def firstMissed? (trust : TrustMap) (spec : FilterSpec) (item : Item) : Option DropReason :=
  DropReason.all.find? fun reason => !passes trust spec item reason

/-- Every check gives a result on a candidate. -/
def Decides (trust : TrustMap) (spec : FilterSpec) (item : Item) : Prop :=
  ∀ reason, ∃ answer, fails trust spec item reason = .ok answer

/-- A check that gives a result says whether it is passed. -/
theorem Decides.fails_eq (decides : Decides trust spec item) (reason : DropReason) :
    fails trust spec item reason = .ok (!passes trust spec item reason) := by
  obtain ⟨answer, checked⟩ := decides reason
  cases answer <;> simp [passes, checked]

/-- A candidate is kept exactly if it passes all checks in the list of checks. -/
theorem keeps_eq_all :
    keeps trust spec item = DropReason.all.all (passes trust spec item) := by
  have passed : ∀ reason, passes trust spec item reason = true ↔
      fails trust spec item reason = .ok false := by
    intro reason
    unfold passes
    split <;> simp_all
  rw [Bool.eq_iff_iff, keeps_iff, List.all_eq_true]
  simp only [passed]
  exact ⟨fun all reason _ => all reason, fun all reason => all reason reason.mem_all⟩

/-- The search for a failing check gives the first check of its list that is not passed. -/
theorem Decides.firstFailing_eq (decides : Decides trust spec item) (reasons : List DropReason) :
    firstFailing trust spec item reasons =
      .ok (reasons.find? fun reason => !passes trust spec item reason) := by
  induction reasons with
  | nil => rfl
  | cons reason rest ih =>
    rw [firstFailing, decides.fails_eq, List.find?_cons]
    cases passes trust spec item reason with
    | true => exact ih
    | false => rfl

/-- Some check is missed exactly if not all are passed. -/
theorem find?_missed_eq_none_iff {reasons : List DropReason} :
    (reasons.find? fun reason => !passes trust spec item reason) = none ↔
      reasons.all (passes trust spec item) = true := by
  simp [List.find?_eq_none]

/-- What the filters make of candidates: those that pass all checks are kept in order, and every
other one is counted under the first check that it misses. -/
def tally (trust : TrustMap) (spec : FilterSpec) (totalInput : Nat) (items : List Item) :
    Result where
  totalInput := totalInput
  kept := items.filter fun item => DropReason.all.all (passes trust spec item)
  dropped reason := items.countP fun item => firstMissed? trust spec item == some reason

/-- One more candidate that misses no check is kept. -/
theorem tally_cons_none (totalInput : Nat) (missed : firstMissed? trust spec item = none) :
    tally trust spec totalInput (item :: items) =
      (tally trust spec totalInput items).keep item := by
  have passed : DropReason.all.all (passes trust spec item) = true :=
    find?_missed_eq_none_iff.mp missed
  simp [tally, Result.keep, passed, missed]

/-- One more candidate that misses a check is counted under the first one it misses. -/
theorem tally_cons_some (totalInput : Nat) {reason : DropReason}
    (missed : firstMissed? trust spec item = some reason) :
    tally trust spec totalInput (item :: items) =
      (tally trust spec totalInput items).drop reason := by
  have failed : DropReason.all.all (passes trust spec item) = false := by
    rw [← Bool.not_eq_true, ← find?_missed_eq_none_iff]
    exact fun none => Option.some_ne_none reason (missed.symm.trans none)
  have counted : ∀ other, (item :: items).countP (firstMissed? trust spec · == some other) =
      if other = reason then items.countP (firstMissed? trust spec · == some other) + 1
      else items.countP (firstMissed? trust spec · == some other) := by
    intro other
    rw [List.countP_cons, missed]
    by_cases own : other = reason
    · simp [own]
    · simp [own, Ne.symm own]
  simp only [tally, Result.drop, List.filter_cons, failed, counted]
  rfl

/-- Candidates on which every check gives a result are tallied. -/
theorem applyFrom_eq_tally (totalInput : Nat) (decided : ∀ item ∈ items, Decides trust spec item) :
    applyFrom trust spec totalInput items = .ok (tally trust spec totalInput items) := by
  induction items with
  | nil => rfl
  | cons item rest ih =>
    rw [List.forall_mem_cons] at decided
    have checked : dropReason? trust spec item = .ok (firstMissed? trust spec item) :=
      decided.1.firstFailing_eq DropReason.all
    rw [applyFrom, checked, ih decided.2]
    cases missed : firstMissed? trust spec item with
    | none => exact congrArg Except.ok (tally_cons_none totalInput missed).symm
    | some reason => exact congrArg Except.ok (tally_cons_some totalInput missed).symm

/-- One more candidate dropped is one more counted. -/
theorem Result.sum_drop (result : Result) (reason : DropReason) :
    (DropReason.all.map (result.drop reason).dropped).sum =
      (DropReason.all.map result.dropped).sum + 1 := by
  cases reason <;> simp [Result.drop, DropReason.all] <;> omega

/-- Every candidate of a tally is kept or counted under one check. -/
theorem tally_total (trust : TrustMap) (spec : FilterSpec) (totalInput : Nat) (items : List Item) :
    (tally trust spec totalInput items).totalOutput +
      (DropReason.all.map (tally trust spec totalInput items).dropped).sum = items.length := by
  induction items with
  | nil => rfl
  | cons item rest ih =>
    rw [List.length_cons, ← ih]
    cases missed : firstMissed? trust spec item with
    | none =>
      rw [tally_cons_none totalInput missed]
      simp only [Result.keep, Result.totalOutput, List.length_cons]
      omega
    | some reason =>
      rw [tally_cons_some totalInput missed, Result.sum_drop]
      simp only [Result.drop, Result.totalOutput]
      omega

/-- What a run of the filters does to candidates: the ones that pass are kept in order, and every
other one is counted once. -/
structure Sifted (trust : TrustMap) (spec : FilterSpec) (items : List Item) (result : Result) :
    Prop where
  totalInput : result.totalInput = items.length
  kept : result.kept = items.filter (keeps trust spec)
  counted : result.kept.length + (DropReason.all.map result.dropped).sum = items.length

/-- The filters run over candidates on which every check gives a result. -/
theorem run_of_decided (decided : ∀ item ∈ items, Decides trust spec item) :
    ∃ result, run trust spec items = .ok result ∧ Sifted trust spec items result := by
  refine ⟨_, applyFrom_eq_tally items.length decided, rfl, ?_, tally_total ..⟩
  exact List.filter_congr fun item _ => keeps_eq_all.symm

/-- The filters run over candidates with usable rows. -/
theorem run_ok (trust : TrustMap) (typed : spec.Typed) (usable : ∀ item ∈ items, item.raw.Usable) :
    ∃ result, run trust spec items = .ok result ∧ Sifted trust spec items result :=
  run_of_decided fun item member => fails_ok (usable item member).stock trust typed

end Tallying

section Reordering

/-- The candidates that are left when the checks are made in some order. -/
def survivors (order : List DropReason) (trust : TrustMap) (spec : FilterSpec) :
    List Item → Except Fault (List Item)
  | [] => .ok []
  | item :: rest =>
    match firstFailing trust spec item order with
    | .error fault => .error fault
    | .ok none => (survivors order trust spec rest).map (item :: ·)
    | .ok (some _) => survivors order trust spec rest

/-- The filters keep the candidates that are left when the checks are made in their order. -/
theorem run_kept (trust : TrustMap) (spec : FilterSpec) (items : List Item) :
    (run trust spec items).map (·.kept) = survivors DropReason.all trust spec items := by
  have applied : ∀ total, (applyFrom trust spec total items).map (·.kept) =
      survivors DropReason.all trust spec items := by
    intro total
    induction items with
    | nil => rfl
    | cons item rest ih =>
      rw [applyFrom, survivors, ← ih, dropReason?]
      rcases firstFailing trust spec item DropReason.all with fault | _ | reason
      · rfl
      · cases applyFrom trust spec total rest <;> rfl
      · cases applyFrom trust spec total rest <;> rfl
  exact applied items.length

/-- The candidates left by the checks in their order are those that no check drops. -/
theorem eq_filter_of_survivors {left : List Item}
    (survive : survivors DropReason.all trust spec items = .ok left) :
    left = items.filter (keeps trust spec) := by
  induction items generalizing left with
  | nil =>
    cases survive
    rfl
  | cons item rest ih =>
    rw [survivors] at survive
    rw [List.filter_cons, keeps, dropReason?]
    rcases checked : firstFailing trust spec item DropReason.all with fault | _ | reason
    · simp [checked] at survive
    · simp only [checked] at survive
      obtain ⟨others, behind, rfl⟩ := Call.map_eq_ok_iff.mp survive
      exact congrArg (item :: ·) (ih behind)
    · simp only [checked] at survive
      exact ih survive

/-- A run that gives a result has kept exactly the candidates that no check drops. -/
theorem kept_of_run {result : Result} (ran : run trust spec items = .ok result) :
    result.kept = items.filter (keeps trust spec) := by
  refine eq_filter_of_survivors ?_
  rw [← run_kept, ran]
  rfl

/-- Where every check gives a result, the candidates left are those that pass the checks made. -/
theorem survivors_eq_filter (order : List DropReason)
    (decided : ∀ item ∈ items, Decides trust spec item) :
    survivors order trust spec items =
      .ok (items.filter fun item => order.all (passes trust spec item)) := by
  induction items with
  | nil => rfl
  | cons item rest ih =>
    rw [List.forall_mem_cons] at decided
    rw [survivors, decided.1.firstFailing_eq, ih decided.2, List.filter_cons]
    cases missed : order.find? fun reason => !passes trust spec item reason with
    | none => simp [find?_missed_eq_none_iff.mp missed, Except.map]
    | some reason =>
      have failed : order.all (passes trust spec item) = false := by
        rw [← Bool.not_eq_true, ← find?_missed_eq_none_iff, missed]
        exact Option.some_ne_none reason
      simp [failed]

end Reordering

/-- The filters over candidates whose reported stocks are numbers, with or without a map of
standings. They keep exactly the candidates that pass all six checks, in order, and would keep them
with the checks made in any order. Every counter counts the candidates whose first missed check is
its own, and the counters and the kept candidates add up to all candidates. -/
theorem run_keeps_and_counts (trust : Option TrustMap) (typed : spec.Typed)
    (counts : ∀ item ∈ items, ∀ stock, item.stock? = some stock → stock.amount?.isSome) :
    ∃ result, run (trust.getD []) spec items = .ok result ∧
      result.kept =
        items.filter (fun item => DropReason.all.all (passes (trust.getD []) spec item)) ∧
      (trust = none → ∀ item, passes (trust.getD []) spec item .vendorGating = true) ∧
      (∀ order : List DropReason, order.Perm DropReason.all →
        survivors order (trust.getD []) spec items = .ok result.kept) ∧
      (∀ reason, result.dropped reason =
        items.countP fun item => firstMissed? (trust.getD []) spec item == some reason) ∧
      result.metrics = [("total_input", items.length)] ++
        DropReason.all.map (fun reason => ("dropped_" ++ reason.name, result.dropped reason)) ++
        [("total_output", result.kept.length)] ∧
      items.length = result.kept.length + (DropReason.all.map result.dropped).sum := by
  have decided : ∀ item ∈ items, Decides (trust.getD []) spec item :=
    fun item member => fails_ok (counts item member) _ typed
  refine ⟨tally (trust.getD []) spec items.length items, applyFrom_eq_tally items.length decided,
    rfl, ?ungated, ?reordered, fun _ => rfl, rfl, (tally_total ..).symm⟩
  case ungated =>
    rintro rfl item
    rfl
  case reordered =>
    intro order same
    rw [survivors_eq_filter order decided]
    exact congrArg Except.ok (List.filter_congr fun item _ => same.all_eq)

section Sample

/-- An item with a vendor, a price and a stock. -/
def sampleItem (id vendor : String) (price : Float) (stock : Int) (details : Details) : Item :=
  ⟨id, id, none, price, "USD", vendor, none, [], [("inventory_quantity", .int stock)],
    none, none, none, none, details⟩

/-- At most fifty may be paid for a garment for women, and a vendor is blocked. -/
def sampleSpec : FilterSpec := { FilterSpec.plain with
  maxPrice := some 50.0
  blockedVendors := ["smith"]
  gender := some (.str "women")
  category := some (.str "Garment") }

/-- The category of the sample constraints is a text. -/
theorem sampleSpec_typed : sampleSpec.Typed := by
  rintro _ ⟨⟩
  exact ⟨_, rfl⟩

/-- A shirt that may be shown, a belt of a vendor who is not active, a hat that is out of stock and
too expensive, a coat that is too expensive and of a blocked vendor, a gown of that vendor, a suit
for men, and a scarf. -/
def sampleItems : List Item :=
  [sampleItem "shirt" "loom" 20.0 3 (.garment none none),
    sampleItem "belt" "tannery" 20.0 1 (.accessory none),
    sampleItem "hat" "loom" 90.0 0 (.accessory none),
    sampleItem "coat" "smith" 90.0 1 (.garment none none),
    sampleItem "gown" "smith" 20.0 1 (.garment none none),
    sampleItem "suit" "loom" 20.0 1 (.garment (some ⟨some "men", none, []⟩) none),
    sampleItem "scarf" "loom" 20.0 1 (.accessory none)]

/-- The stock of a sample item is a number. -/
theorem sampleItem_counts (id vendor : String) (price : Float) (stock : Int) (details : Details) :
    ∀ held, (sampleItem id vendor price stock details).stock? = some held →
      held.amount?.isSome := by
  intro held reported
  cases reported
  rfl

/-- The stocks of all sample candidates are numbers. -/
theorem sampleItems_count : ∀ item ∈ sampleItems, ∀ stock,
    item.stock? = some stock → stock.amount?.isSome := by
  intro item member
  simp only [sampleItems, List.mem_cons, List.not_mem_nil, or_false] at member
  rcases member with rfl | rfl | rfl | rfl | rfl | rfl | rfl <;> exact sampleItem_counts _ _ _ _ _

/-- What is known about one of the vendors. -/
def sampleTrust : TrustMap := [("tannery", ⟨"tannery", none, false, none, none, false, none⟩)]

/-- Of the sample candidates the shirt is kept, and each check is the first one that one of the
others misses. -/
theorem run_keeps_and_counts_sample :
    sampleSpec.Typed ∧
    (∀ item ∈ sampleItems, ∀ stock, item.stock? = some stock → stock.amount?.isSome) ∧
    (run sampleTrust sampleSpec sampleItems).toOption.map (·.metrics) =
      some [("total_input", 7), ("dropped_vendor_gating", 1), ("dropped_stock", 1),
        ("dropped_price", 1), ("dropped_blocked_vendor", 1), ("dropped_demographic", 1),
        ("dropped_category", 1), ("total_output", 1)] ∧
    sampleItems.map (firstMissed? sampleTrust sampleSpec) =
      [none, some .vendorGating, some .stock, some .price, some .blockedVendor,
        some .demographic, some .category] ∧
    ∃ result, run sampleTrust sampleSpec sampleItems = .ok result ∧
      result.kept =
        sampleItems.filter (fun item => DropReason.all.all (passes sampleTrust sampleSpec item)) ∧
      (some sampleTrust = none →
        ∀ item, passes sampleTrust sampleSpec item .vendorGating = true) ∧
      (∀ order : List DropReason, order.Perm DropReason.all →
        survivors order sampleTrust sampleSpec sampleItems = .ok result.kept) ∧
      (∀ reason, result.dropped reason =
        sampleItems.countP fun item =>
          firstMissed? sampleTrust sampleSpec item == some reason) ∧
      result.metrics = [("total_input", 7)] ++
        DropReason.all.map (fun reason => ("dropped_" ++ reason.name, result.dropped reason)) ++
        [("total_output", result.kept.length)] ∧
      7 = result.kept.length + (DropReason.all.map result.dropped).sum := by
  exact ⟨sampleSpec_typed, sampleItems_count, by decide +kernel, by decide +kernel,
    run_keeps_and_counts (some sampleTrust) sampleSpec_typed sampleItems_count⟩

end Sample

end Filter

end Storefront
