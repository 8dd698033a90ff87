import Storefront.Listing.Import
import Storefront.Proofs.Guarantees
import Storefront.Proofs.Feeds.Vendors
import Storefront.Proofs.Records
/-!
# Feeds over imported rows

An import keeps the vendor's row as it came, with figures of any form. The stages of a feed complete
on the imported item exactly if the figures of the row are usable, and over a catalog of such
imports feeds fail with refusals only. A row with other figures is imported all the same, and then
stops the feeds.
-/

namespace Storefront

section Readings

/-- The price of an item that is read comes from the field for it, and so does the vendor's row. -/
theorem Item.fields_of_parse {row : Row} {item : Item} (parses : Item.parse row = .ok item) :
    row.withDefault "price" Reader.float 0.0 = .valid item.price ∧
      row.withDefault "raw_vendor_data" Reader.row [] = .valid item.raw := by
  have reads : Item.read row = .valid item := by
    unfold Item.parse at parses
    cases given : Item.read row with
    | valid other =>
      rw [given] at parses
      cases parses
      rfl
    | invalid issues =>
      rw [given] at parses
      cases parses
  unfold Item.read at reads
  split at reads
  · simp only [Checked.under_eq_valid_iff, Item.readAs, Checked.seq_eq_valid_iff,
      Checked.map_eq_valid_iff] at reads
    -- The fields from the last one to the first; the price is the fourth and the row the ninth.
    obtain ⟨_, _, ⟨_, _, ⟨_, _, ⟨_, _, ⟨_, _, ⟨_, _, ⟨_, _, ⟨_, _, ⟨_, _, ⟨_, _, ⟨_, _, ⟨_, _,
      ⟨_, _, ⟨_, _, rfl⟩, _, rfl⟩, _, rfl⟩, costs, rfl⟩, _, rfl⟩, _, rfl⟩, _, rfl⟩, _, rfl⟩, keeps,
      rfl⟩, _, rfl⟩, _, rfl⟩, _, rfl⟩, _, rfl⟩, _, rfl⟩ := reads
    exact ⟨costs, keeps⟩
  · cases reads

/-- An item keeps the vendor's row that it is read with. -/
theorem Item.parse_raw {row raw : Row} {item : Item}
    (stored : row.get? "raw_vendor_data" = some (.obj raw)) (parses : Item.parse row = .ok item) :
    item.raw = raw := by
  have kept := (Item.fields_of_parse parses).2
  rw [Row.withDefault_eq (Reader.restores_row raw) stored] at kept
  exact (Checked.valid.inj kept).symm

/-- An item has the price that it is read with. -/
theorem Item.parse_price {row : Row} {amount : Float} {item : Item}
    (stored : row.get? "price" = some (.float amount)) (parses : Item.parse row = .ok item) :
    item.price = amount := by
  have costs := (Item.fields_of_parse parses).1
  rw [Row.withDefault_eq (Reader.restores_float amount) stored] at costs
  exact (Checked.valid.inj costs).symm

/-- A vendor's row is accepted from some source, as an item. -/
def Listing.Accepts (raw : Row) (item : Item) : Prop :=
  ∃ source vendor, normalize raw source vendor = .ok item

/-- An accepted row is kept with its item as it came. -/
theorem Listing.Accepts.raw {raw : Row} {item : Item} (accepts : Listing.Accepts raw item) :
    item.raw = raw := by
  obtain ⟨source, vendor, accepted⟩ := accepts
  obtain ⟨draft, -, normalizes⟩ := Call.bind_eq_ok_iff.mp accepted
  dsimp only at normalizes
  split at normalizes
  · cases normalizes
  · split at normalizes
    · cases normalizes
    · exact Item.parse_raw (Row.get?_put _ _ _) normalizes

end Readings

section Stages

/-- The filters, the ranking and the explanations give a result for an item, whatever the request,
the vendors and the user. -/
structure Item.Completes (item : Item) : Prop where
  filters : ∀ trust spec, spec.Typed → ∃ result, Filter.run trust spec [item] = .ok result
  ranks : ∀ context, ∃ ranked, Ranker.rank .standard context [item] = .ok ranked
  explains : ∀ tags ranked, ranked.item = item →
    ∃ explanation, Explanation.generate .standard tags ranked = .ok explanation

/-- The stages complete on an item exactly if its row is usable. -/
theorem Item.completes_iff (item : Item) : item.Completes ↔ item.raw.Usable := by
  constructor
  · rintro ⟨filters, ranks, explains⟩
    refine (Row.usable_iff item).mpr ⟨fun trust spec typed => ?_, fun context => ?_, explains⟩
    · obtain ⟨result, ran⟩ := filters trust spec typed
      cases checked : Filter.dropReason? trust spec item with
      | ok reason => exact ⟨reason, rfl⟩
      | error fault => simp [Filter.run, Filter.applyFrom, checked] at ran
    · obtain ⟨ranked, ranks⟩ := ranks context
      obtain ⟨all, scores, -⟩ := Call.map_eq_ok_iff.mp ranks
      obtain ⟨first, scored, -⟩ := Call.bind_eq_ok_iff.mp scores
      exact ⟨first, scored⟩
  · intro usable
    refine ⟨fun trust spec typed => ?_, fun context => ?_, ((Row.usable_iff item).mp usable).2.2⟩
    · obtain ⟨result, ran, -⟩ := Filter.run_ok trust typed (List.forall_mem_singleton.mpr usable)
      exact ⟨result, ran⟩
    · obtain ⟨ranked, ranks, -⟩ :=
        Ranker.rank_ok context (List.forall_mem_singleton.mpr usable)
      exact ⟨ranked, ranks⟩

end Stages

section Feeds

open Call (Ends IsRefusal)

/-- A valid request gets an answer, and requests fail with some faults only. -/
structure Call.Responds {α : Type} (valid : Prop) (faults : Fault → Prop)
    (outcome : Except Fault α) : Prop where
  given : valid → ∃ answer, outcome = .ok answer
  fails : ∀ fault, outcome = .error fault → faults fault

/-- A call responds as it ends. -/
theorem Call.Ends.responds {σ α : Type} {safe : σ → Prop} {call : Call σ α} {post : α → Prop}
    {faults others : Fault → Prop} {valid : Prop} (ends : Ends safe call post faults) {state : σ}
    (kept : safe state) (refused : ∀ fault, faults fault → ¬ valid)
    (only : ∀ fault, faults fault → others fault) :
    Call.Responds valid others (call.outcome state).1 := by
  refine ⟨(ends.answers kept refused fun _ holds => holds).given, fun fault fails => ?_⟩
  have ended := (ends state kept).2
  rw [fails] at ended
  exact only fault ended

/-- The stages complete on the items of accepted rows exactly if the figures of the row are usable.
Over a catalog built from such imports every feed answers its valid requests and fails with refusals
only; new arrivals may also be asked for from before the calendar. -/
theorem imports_complete {rows : List Row} {items : List Item}
    (imported : List.Forall₂ Listing.Accepts rows items) :
    List.Forall₂ (fun raw item => item.Completes ↔ raw.Usable) rows items ∧
    ((∀ raw ∈ rows, raw.Usable) →
      ∀ base : Memory, base.catalog = Catalog.ofItems items →
      ∀ embed profile mixes lookups, let setup := Memory.feedSetup embed profile mixes lookups
        (∀ request, Call.Responds request.IsValid IsRefusal
          ((Home.feed setup request).outcome base).1) ∧
        (∀ request, Call.Responds request.IsValid IsRefusal
          ((Vendors.feed setup request).outcome base).1) ∧
        (∀ limit, Call.Responds (IsPositive limit) IsRefusal
          ((Arrivals.trending setup limit).outcome base).1) ∧
        (∀ limit days, Call.Responds (Arrivals.IsInRange profile.now limit days)
          (fun fault => IsRefusal fault ∨
            ∃ span, days = some span ∧ Arrivals.daysAgo profile.now span = .error fault)
          ((Arrivals.newArrivals setup limit days).outcome base).1) ∧
        (∀ itemId limit, Call.Responds (IsFilled itemId ∧ IsPositive limit) IsRefusal
          ((Companions.boughtTogether setup itemId limit).outcome base).1) ∧
        ∀ itemIds userId limit,
          Call.Responds ((∃ id ∈ itemIds, id ≠ "") ∧ IsPositive limit) IsRefusal
            ((Companions.completeLook setup itemIds userId limit).outcome base).1) := by
  refine ⟨imported.imp fun raw item accepts => ?_, ?_⟩
  · rw [item.completes_iff, accepts.raw]
  intro figures base built embed profile mixes lookups setup
  have usable : ∀ item ∈ base.catalog.values, item.raw.Usable := by
    intro item member
    rw [built] at member
    obtain ⟨raw, row, accepts⟩ :=
      Sequence.exists_of_forall₂ imported item (Catalog.mem_of_mem_ofItems member)
    exact accepts.raw ▸ figures raw row
  let conduct : Conduct setup := base.conduct (fun item => item.raw.Usable) (fun _ usable => usable)
    (fun _ _ usable => usable) (built ▸ Catalog.ofItems_keyed items) usable embed profile mixes
    lookups
  have agrees := Memory.Agrees.refl base
  refine ⟨fun request => ?home, fun request => ?vendors, fun limit => ?trending,
    fun limit days => ?newArrivals, fun itemId limit => ?boughtTogether,
    fun itemIds userId limit => ?completeLook⟩
  case home =>
    exact (Home.feed_ends conduct request).responds agrees (fun _ fails => fails.2)
      fun _ fails => fails.1
  case vendors =>
    exact (Vendors.feed_ends conduct request).responds agrees (fun _ fails => fails.2)
      fun _ fails => fails.1
  case trending =>
    exact (Arrivals.trending_ends conduct limit).responds agrees (fun _ fails => fails.2)
      fun _ fails => fails.1
  case newArrivals =>
    exact (Arrivals.newArrivals_ends conduct limit days).responds agrees
      (fun _ fails => fails.not_inRange) fun _ fails => fails.imp_left And.left
  case boughtTogether =>
    exact (Companions.boughtTogether_ends conduct itemId limit).responds agrees
      (fun _ fails => fails.2) fun _ fails => fails.1
  case completeLook =>
    exact (Companions.completeLook_ends conduct itemIds userId limit).responds agrees
      (fun _ fails => fails.2) fun _ fails => fails.1

end Feeds

section Sample

/-- A row of a listing with some stock. -/
def sampleRow (id : String) (stock : Json) : Row :=
  [("id", .str id), ("name", .str "Tweed"), ("price", .int 30), ("inventory_quantity", stock)]

/-- A row with a number of pieces in stock is usable. -/
theorem sampleRow_usable (id : String) (stock : Int) : (sampleRow id (.int stock)).Usable where
  stock value found := by
    cases found
    rfl
  quality value found := by cases found
  leadTime value found := by cases found

/-- Two rows with numbers for their stock are imported, and the feed around the first of them is
there. -/
theorem imports_complete_sample :
    ∃ items, List.Forall₂ Listing.Accepts [sampleRow "n1" (.int 5), sampleRow "n2" (.int 0)] items ∧
      (∀ raw ∈ [sampleRow "n1" (.int 5), sampleRow "n2" (.int 0)], raw.Usable) ∧
      List.Forall₂ (fun raw item => item.Completes ↔ raw.Usable)
        [sampleRow "n1" (.int 5), sampleRow "n2" (.int 0)] items ∧
      Call.Responds (IsFilled (some "n1") ∧ IsPositive (some 5)) Call.IsRefusal
        ((Companions.boughtTogether Memory.sampleSetup (some "n1") (some 5)).outcome
          (Memory.ofParts items [] [])).1 := by
  obtain ⟨first, accepted⟩ := Call.ok_of_isSome (show (Listing.normalize
    (sampleRow "n1" (.int 5)) "etsy" none).toOption.isSome = true by decide +kernel)
  obtain ⟨second, also⟩ := Call.ok_of_isSome (show (Listing.normalize
    (sampleRow "n2" (.int 0)) "etsy" none).toOption.isSome = true by decide +kernel)
  have imported : List.Forall₂ Listing.Accepts
      [sampleRow "n1" (.int 5), sampleRow "n2" (.int 0)] [first, second] :=
    .cons ⟨"etsy", none, accepted⟩ (.cons ⟨"etsy", none, also⟩ .nil)
  have usable : ∀ raw ∈ [sampleRow "n1" (.int 5), sampleRow "n2" (.int 0)], raw.Usable := by
    simp [sampleRow_usable]
  obtain ⟨complete, served⟩ := imports_complete imported
  exact ⟨[first, second], imported, usable, complete,
    (served usable (Memory.ofParts [first, second] [] []) rfl none Memory.sampleSetup.profile true
      Memory.sampleLookups).2.2.2.2.1 (some "n1") (some 5)⟩

/-- A row whose stock is a text is imported as well, although the stages do not complete on it, and
the feed around another item fails with a fault that is no refusal. -/
theorem unusable_import_stops_feed :
    ∃ first second, Listing.Accepts (sampleRow "n1" (.int 5)) first ∧
      Listing.Accepts (sampleRow "n2" (.str "5")) second ∧ ¬ second.Completes ∧
      ((Companions.boughtTogether Memory.sampleSetup (some "n1") (some 5)).outcome
        (Memory.ofParts [first, second] [] [])).1.map (fun _ => ()) =
          .error (.unordered "<=" "str" "int") := by
  obtain ⟨first, accepted⟩ := Call.ok_of_isSome (show (Listing.normalize
    (sampleRow "n1" (.int 5)) "etsy" none).toOption.isSome = true by decide +kernel)
  obtain ⟨second, also⟩ := Call.ok_of_isSome (show (Listing.normalize
    (sampleRow "n2" (.str "5")) "etsy" none).toOption.isSome = true by decide +kernel)
  have accepts : Listing.Accepts (sampleRow "n2" (.str "5")) second := ⟨"etsy", none, also⟩
  have stops : ((Companions.boughtTogether Memory.sampleSetup (some "n1") (some 5)).outcome
      (Memory.ofParts ((Listing.normalize (sampleRow "n1" (.int 5)) "etsy" none).toOption.toList ++
        (Listing.normalize (sampleRow "n2" (.str "5")) "etsy" none).toOption.toList) [] [])).1.map
          (fun _ => ()) = .error (.unordered "<=" "str" "int") := by
    decide +kernel
  rw [accepted, also] at stops
  refine ⟨first, second, ⟨"etsy", none, accepted⟩, accepts, fun completes => ?_, stops⟩
  have usable := second.completes_iff.mp completes
  rw [accepts.raw] at usable
  cases usable.stock (.str "5") rfl

end Sample

end Storefront
