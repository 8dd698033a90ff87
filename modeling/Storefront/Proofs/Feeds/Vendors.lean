import Storefront.Feed.Vendors
import Storefront.Proofs.Feeds.Shared
/-!
# What the feed of vendors returns

Kept candidates are grouped, ranked and explained vendor by vendor, which succeeds for usable rows.
-/

namespace Storefront

open Call (Ends IsRefusal)

variable {σ : Type} {setup : FeedSetup σ} (conduct : Conduct setup)

namespace Vendors

variable {trust : TrustMap} {rankings : List Ranking}

/-- A request that names a user and asks for at least one vendor and one product of each. -/
def Request.IsValid (request : Request) : Prop :=
  IsFilled request.userId ∧ IsPositive request.limit ∧ IsPositive request.productsPerVendor

/-- The products of a group are items of the list. -/
theorem mem_of_mem_groups {items : List Item} {group : String × List Item}
    (member : group ∈ groups items) : ∀ item ∈ group.2, item ∈ items := by
  obtain ⟨vendor, -, rfl⟩ := List.mem_map.mp member
  exact fun item found => List.mem_of_mem_filter found

/-- Groups of items with usable rows are ranked; the products are items of the groups. -/
theorem rankGroups_ok (trust : TrustMap) {groups : List (String × List Item)}
    (usable : ∀ group ∈ groups, ∀ item ∈ group.2, item.raw.Usable) :
    ∃ rankings, rankGroups trust groups = .ok rankings ∧
      ∀ ranking ∈ rankings, ∀ product ∈ ranking.products, product.item.raw.Usable := by
  induction groups with
  | nil => exact ⟨[], rfl, by simp⟩
  | cons group rest ih =>
    rw [List.forall_mem_cons] at usable
    obtain ⟨products, ranks, ordered⟩ := Ranker.rank_ok ⟨none, trust⟩ usable.1
    obtain ⟨rankings, others, each⟩ := ih usable.2
    refine ⟨_ :: rankings, by simp only [rankGroups, ranks, others]; rfl, ?_⟩
    rw [List.forall_mem_cons]
    refine ⟨fun product member => ?_, each⟩
    exact usable.1 _ (ordered.items.subset (List.mem_map.mpr ⟨product, member, rfl⟩))

/-- Products with usable rows are explained. -/
theorem explainProducts_ok (tags : List String) {products : List Ranked}
    (usable : ∀ product ∈ products, product.item.raw.Usable) :
    ∀ position, ∃ entries, explainProducts tags position products = .ok entries := by
  induction products with
  | nil => exact fun _ => ⟨[], rfl⟩
  | cons product rest ih =>
    intro position
    rw [List.forall_mem_cons] at usable
    obtain ⟨explanation, generated⟩ :=
      ((Row.usable_iff product.item).mp usable.1).2.2 tags product rfl
    obtain ⟨entries, others⟩ := ih usable.2 (position + 1)
    exact ⟨_ :: entries, by simp only [explainProducts, generated, others]; rfl⟩

/-- Vendors whose products have usable rows get one entry each. -/
theorem entriesFrom_ok (tags : List String) (productsPerVendor : Int)
    (usable : ∀ ranking ∈ rankings, ∀ product ∈ ranking.products, product.item.raw.Usable) :
    ∀ position, ∃ entries, entriesFrom tags productsPerVendor position rankings = .ok entries ∧
      entries.length = rankings.length := by
  induction rankings with
  | nil => exact fun _ => ⟨[], rfl, rfl⟩
  | cons ranking rest ih =>
    intro position
    rw [List.forall_mem_cons] at usable
    obtain ⟨products, explained⟩ := explainProducts_ok tags
      (fun product member => usable.1 product
        ((Sequence.cut_sublist productsPerVendor ranking.products).subset member)) position
    obtain ⟨entries, others, length⟩ := ih usable.2 (position + productsPerVendor)
    exact ⟨_ :: entries, by simp only [entriesFrom, entryOf, explained, others]; rfl,
      by simp [length]⟩

/-- The feed of vendors shows at most so many of them, unless the request is refused. -/
theorem feed_ends (request : Request) :
    Ends conduct.safe (feed setup request)
      (fun feed => ∃ count, request.limit = some count ∧ (feed.vendors.length : Int) ≤ count)
      (fun fault => IsRefusal fault ∧ ¬ request.IsValid) := by
  refine (FeedSetup.requireText_ends "userId" request.userId fun lacks _ refusal =>
    ⟨refusal, fun valid => lacks valid.1⟩).bind fun userId _ => ?_
  refine (FeedSetup.requirePositive_ends "limit" request.limit fun lacks _ refusal =>
    ⟨refusal, fun valid => lacks valid.2.1⟩).bind ?_
  rintro count ⟨given, positive⟩
  refine (FeedSetup.requirePositive_ends "productsPerVendor" request.productsPerVendor
    fun lacks _ refusal => ⟨refusal, fun valid => lacks valid.2.2⟩).bind fun products _ => ?_
  refine (Ends.ofState (conduct.steady.computeStyle _ userId)).bind fun profile _ => ?_
  refine (Ends.ofState (conduct.candidates _)).bind fun candidates offers => ?_
  refine (Ends.ofState (conduct.gather candidates)).bind fun trust _ => ?_
  have usable : ∀ item ∈ candidates, item.raw.Usable :=
    fun item member => conduct.usable item (offers.each item member)
  obtain ⟨result, ran, sifted⟩ := Filter.run_ok trust FilterSpec.plain_typed usable
  refine (Ends.ofOk ⟨result, ran, rfl⟩).bind ?_
  rintro _ rfl
  have grouped : ∀ group ∈ groups result.kept, ∀ item ∈ group.2, item.raw.Usable := by
    intro group member item found
    have kept := mem_of_mem_groups member item found
    rw [sifted.kept] at kept
    exact usable item (List.mem_of_mem_filter kept)
  obtain ⟨rankings, ranks, each⟩ := rankGroups_ok trust grouped
  refine (Ends.ofOk ⟨rankings, ranks, rfl⟩).bind ?_
  rintro _ rfl
  refine (Ends.ofState (conduct.recent userId _)).bind fun history _ => ?_
  have shown : ∀ ranking ∈ Sequence.cut count (order rankings), ∀ product ∈ ranking.products,
      product.item.raw.Usable := by
    intro ranking member
    exact each ranking ((Sequence.descending_perm _ _).subset
      ((Sequence.cut_sublist _ _).subset member))
  obtain ⟨entries, made, length⟩ := entriesFrom_ok
    (Explanation.topTags history Explanation.Rules.standard.topTags) products shown 0
  refine (Ends.ofOk ⟨entries, made, rfl⟩).bind ?_
  rintro _ rfl
  refine .pure ⟨count, given, ?_⟩
  rw [length]
  exact Sequence.length_cut_le (by omega) _

end Vendors

end Storefront
