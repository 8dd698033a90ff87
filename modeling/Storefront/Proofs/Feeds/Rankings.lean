import Storefront.Proofs.Feeds.Grouping
/-!
# Ranking apart from the competition

The score of an item depends on the item and on the request alone. So ranking some of the items
gives what the ranking of all of them has of these: filters can be applied before or after, and the
products of a vendor can be ranked by themselves.
-/

namespace Storefront

namespace Vendors

variable {trust : TrustMap} {groups : List (String × List Item)}

/-- Groups are ranked if the products of each of them are. -/
theorem rankGroups_of_ranks
    (ranks : ∀ group ∈ groups,
      ∃ products, Ranker.rank .standard ⟨none, trust⟩ group.2 = .ok products) :
    ∃ rankings, rankGroups trust groups = .ok rankings := by
  induction groups with
  | nil => exact ⟨[], rfl⟩
  | cons group rest ih =>
    rw [List.forall_mem_cons] at ranks
    obtain ⟨⟨products, own⟩, others⟩ := ranks
    obtain ⟨rankings, all⟩ := ih others
    exact ⟨_ :: rankings, by simp only [rankGroups, own, all]; rfl⟩

end Vendors

namespace Ranker

variable {weights : ScoringWeights Float} {context : RankingContext} {items : List Item}

/-- Items whose scores can be compared are ranked: each has the score that it has by itself, and
they are arranged by their scores. The ranking of some of the items is what the ranking of all has of
them, whichever they are; they may be those that the filters keep, or, for the weights of the feeds
and no budget, the products of each vendor. -/
theorem rank_restricts (scorable : Scorable weights context items) :
    ∃ scored ranked, ScoredAs weights context items scored ∧
      rank weights context items = .ok ranked ∧ Arranges scored ranked ∧
      (∀ picks : Item → Bool, rank weights context (items.filter picks) =
        .ok (ranked.filter fun entry => picks entry.item)) ∧
      (∀ trust spec result, Filter.run trust spec items = .ok result →
        rank weights context result.kept =
          .ok (ranked.filter fun entry => Filter.keeps trust spec entry.item)) ∧
      (weights = .standard → context.budget = none →
        ∃ rankings, Vendors.rankGroups context.trust (Vendors.groups items) = .ok rankings ∧
          rankings.map (·.vendorId) = (Vendors.groups items).map Prod.fst ∧
          ∀ ranking ∈ rankings, ranking.products =
            ranked.filter fun entry => entry.item.vendor == ranking.vendorId) := by
  obtain ⟨scored, all, defined⟩ := scorable.scoredAs
  have restricts : ∀ picks : Item → Bool, rank weights context (items.filter picks) =
      .ok ((order scored).filter fun entry => picks entry.item) := by
    intro picks
    rw [(all.filter picks).rank_eq, filter_order defined]
  refine ⟨scored, order scored, all, all.rank_eq, order_arranges defined, restricts, ?filters,
    ?vendors⟩
  case filters =>
    intro trust spec result ran
    rw [Filter.kept_of_run ran, restricts]
  case vendors =>
    rintro rfl unlimited
    have same : context = ⟨none, context.trust⟩ := unlimited ▸ rfl
    have ranks : ∀ group ∈ Vendors.groups items,
        rank .standard ⟨none, context.trust⟩ group.2 =
          .ok ((order scored).filter fun entry => entry.item.vendor == group.1) := by
      intro group member
      rw [← same, (Vendors.of_mem_groups member).2, restricts]
    obtain ⟨rankings, grouped⟩ :=
      Vendors.rankGroups_of_ranks fun group member => ⟨_, ranks group member⟩
    have each := Vendors.ranks_of_rankGroups grouped
    refine ⟨rankings, grouped, Vendors.map_of_ranks each, fun ranking member => ?_⟩
    obtain ⟨group, found, own⟩ := Sequence.exists_of_forall₂ each ranking member
    rw [own.vendor]
    exact Except.ok.inj (own.products.symm.trans (ranks group found))

/-- Three wares of two vendors, the second of which a search found near. -/
def sampleWares : List Item :=
  [Memory.sampleItem "shirt" "loom" true (.garment none none),
    (Memory.sampleItem "belt" "tannery" true (.accessory none)).scored 0.9,
    Memory.sampleItem "scarf" "loom" true (.accessory none)]

/-- The belt comes first, and the wares of the loom, which have one score, stay in order; by
themselves they are ranked like this as well. -/
theorem rank_restricts_sample :
    Scorable .standard .empty sampleWares ∧
      ∃ ranked, rank .standard .empty sampleWares = .ok ranked ∧
        ranked.map (·.item.id) = ["belt", "shirt", "scarf"] ∧
        rank .standard .empty (sampleWares.filter fun item => item.vendor == "loom") =
          .ok (ranked.filter fun entry => entry.item.vendor == "loom") := by
  have each : ∀ item ∈ sampleWares, (score .standard .empty item).toOption.map
      (·.finalScore.isNaN) = some false := by decide +kernel
  have scorable : Scorable .standard .empty sampleWares :=
    fun item member => Call.ok_of_toOption_map (each item member)
  obtain ⟨_, ranked, -, ranks, -, restricts, -⟩ := rank_restricts scorable
  obtain ⟨_, same, ids⟩ := Call.ok_of_toOption_map (show
    (rank .standard .empty sampleWares).toOption.map (·.map (·.item.id)) =
      some ["belt", "shirt", "scarf"] by decide +kernel)
  cases ranks.symm.trans same
  exact ⟨scorable, ranked, ranks, ids, restricts _⟩

end Ranker

end Storefront
