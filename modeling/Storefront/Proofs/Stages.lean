import Storefront.Feed.Stage
import Storefront.Proofs.Filtering
import Storefront.Proofs.Mixing.Filling
import Storefront.Proofs.Sequences
/-!
# The stages of a feed

What every stage between retrieval and response does to its input, for inputs on which no reading
fails: the ranking rearranges what the filters kept and scores it, the selection shows a part of it,
and explaining puts what is shown at the positions of the feed. Each stage is described by one
structure. The filters, the first of the stages, are in `Storefront.Proofs.Filtering`.
-/

namespace Storefront

namespace Ranker

variable {context : RankingContext} {items : List Item}

/-- What ranking does to items: each is scored, and they are rearranged. -/
structure Ordered (context : RankingContext) (items : List Item) (ranked : List Ranked) :
    Prop where
  items : (ranked.map (·.item)).Perm items
  scored : ∀ entry ∈ ranked, score .standard context entry.item = .ok entry

/-- Items are scored if every one of them can be. -/
theorem scoreAll_ok (scores : ∀ item ∈ items, ∃ ranked, score .standard context item = .ok ranked) :
    ∃ ranked, scoreAll .standard context items = .ok ranked := by
  induction items with
  | nil => exact ⟨[], rfl⟩
  | cons item rest ih =>
    rw [List.forall_mem_cons] at scores
    obtain ⟨⟨first, scored⟩, others⟩ := scores
    obtain ⟨ranked, all⟩ := ih others
    exact ⟨first :: ranked, by simp [scoreAll, scored, all, bind, Except.bind, pure, Except.pure]⟩

/-- The entries are the items, in order, each with the score that it has by itself. -/
abbrev ScoredAs (weights : ScoringWeights Float) (context : RankingContext) :
    List Item → List Ranked → Prop :=
  List.Forall₂ fun item entry => score weights context item = .ok entry

/-- All items are scored exactly if each is scored by itself. -/
theorem scoreAll_eq_ok_iff {weights : ScoringWeights Float} {scored : List Ranked} :
    scoreAll weights context items = .ok scored ↔ ScoredAs weights context items scored := by
  induction items generalizing scored with
  | nil => simp [scoreAll, ScoredAs, eq_comm]
  | cons item rest ih =>
    simp only [scoreAll, Call.bind_eq_ok_iff, Call.pure_eq_ok, Except.ok.injEq,
      List.forall₂_cons_left_iff, ih]
    constructor
    · rintro ⟨entry, own, others, all, rfl⟩
      exact ⟨entry, others, own, all, rfl⟩
    · rintro ⟨entry, others, own, all, rfl⟩
      exact ⟨entry, own, others, all, rfl⟩

/-- Scored items are in order, each with its own score. -/
theorem scored_of_scoreAll {ranked : List Ranked}
    (scores : scoreAll .standard context items = .ok ranked) :
    ranked.map (·.item) = items ∧
      ∀ entry ∈ ranked, score .standard context entry.item = .ok entry := by
  have all := scoreAll_eq_ok_iff.mp scores
  constructor
  · have same := Sequence.map_eq_of_forall₂ all fun item entry own => (score_eq_ok own).1.symm
    rw [← same, List.map_id']
  · intro entry member
    obtain ⟨item, -, own⟩ := Sequence.exists_of_forall₂ all entry member
    rwa [(score_eq_ok own).1]

/-- Ranked items are the items in some order, each with its own score. -/
theorem ordered_of_rank {ranked : List Ranked}
    (ranks : rank .standard context items = .ok ranked) : Ordered context items ranked := by
  obtain ⟨scored, scores, rfl⟩ := Call.map_eq_ok_iff.mp ranks
  obtain ⟨same, each⟩ := scored_of_scoreAll scores
  have perm : (order scored).Perm scored := Sequence.descending_perm below scored
  exact ⟨same ▸ perm.map (·.item), fun entry member => each entry (perm.subset member)⟩

/-- Items with usable rows are ranked. -/
theorem rank_ok (context : RankingContext) (usable : ∀ item ∈ items, item.raw.Usable) :
    ∃ ranked, rank .standard context items = .ok ranked ∧ Ordered context items ranked := by
  obtain ⟨scored, scores⟩ := scoreAll_ok fun item member =>
    ((Row.usable_iff item).mp (usable item member)).2.1 context
  have ranks : rank .standard context items = .ok (order scored) := by rw [rank, scores]; rfl
  exact ⟨order scored, ranks, ordered_of_rank ranks⟩

end Ranker

namespace FeedSetup

variable {σ : Type} {setup : FeedSetup σ} {ranked shown : List Ranked} {limit : Int}

/-- A shown item is a ranked one, in no stream or in the stream of its kind. -/
def Shows (ranked : List Ranked) (entry : Ranked) : Prop :=
  ∃ other ∈ ranked, entry.item = other.item ∧ entry.scoring = other.scoring ∧
    ∀ stream, entry.stream = some stream → stream = entry.item.stream

/-- What is selected from ranked items: no more than the limit, each of them ranked, and no id twice
if no two ranked items share one. -/
structure Selected (ranked : List Ranked) (limit : Int) (shown : List Ranked) : Prop where
  limited : (shown.length : Int) ≤ limit
  shorter : shown.length ≤ ranked.length
  shows : ∀ entry ∈ shown, Shows ranked entry
  distinct : (ranked.map (·.item.id)).Nodup → (shown.map (·.item.id)).Nodup

/-- The best items are selected by a cut. -/
theorem cut_selected (limited : 0 ≤ limit) (unplaced : ∀ entry ∈ ranked, entry.stream = none) :
    Selected ranked limit (Sequence.cut limit ranked) where
  limited := Sequence.length_cut_le limited ranked
  shorter := (Sequence.cut_sublist limit ranked).length_le
  shows entry member := by
    have kept := (Sequence.cut_sublist limit ranked).subset member
    refine ⟨entry, kept, rfl, rfl, ?_⟩
    intro stream placed
    rw [unplaced entry kept] at placed
    cases placed
  distinct nodup := nodup.sublist ((Sequence.cut_sublist limit ranked).map _)

/-- A pick comes from the part of the ranked items that has the kind of its stream. -/
theorem pick_shows {picks : List Mixer.Pick} {final : Mixer.Progress}
    (account : Mixer.Account .standard (Mixer.split ranked) picks final) {pick : Mixer.Pick}
    (member : pick ∈ picks) : Shows ranked pick.shown := by
  have own : pick.ranked ∈ Mixer.drawn picks pick.source :=
    List.mem_map.mpr ⟨pick, List.mem_filter.mpr ⟨member, decide_eq_true rfl⟩, rfl⟩
  have queued : pick.ranked ∈ Mixer.split ranked pick.source :=
    (account.ordered pick.source).subset (List.mem_append_left _ own)
  obtain ⟨found, kind⟩ := List.mem_filter.mp queued
  refine ⟨pick.ranked, found, rfl, rfl, ?_⟩
  rintro stream placed
  cases placed
  rw [← of_decide_eq_true kind]
  rfl

/-- Mixed items are selected, and no vendor has more than two of the first ten places. -/
theorem mixRanked_selected (limited : 0 ≤ limit) (ranked : List Ranked) :
    ∃ shown, Mixer.mixRanked .standard ranked limit = .ok shown ∧ Selected ranked limit shown ∧
      ∀ vendor, ((shown.take 10).map (·.item.vendor)).count vendor ≤ 2 := by
  obtain ⟨picks, final, mixed, account, bounded⟩ :=
    Mixer.mix_account MixerConfig.standard_admissible (Mixer.split ranked) limit
  have distinct : ((picks.map Mixer.Pick.shown).map (·.item.id)).Nodup := by
    rw [List.map_map]
    exact account.distinct
  have shows : ∀ entry ∈ picks.map Mixer.Pick.shown, Shows ranked entry := by
    intro entry member
    obtain ⟨pick, picked, rfl⟩ := List.mem_map.mp member
    exact pick_shows account picked
  have ids : (picks.map Mixer.Pick.shown).map (·.item.id) ⊆ ranked.map (·.item.id) := by
    intro id member
    obtain ⟨entry, shown, rfl⟩ := List.mem_map.mp member
    obtain ⟨other, found, same, -⟩ := shows entry shown
    exact List.mem_map.mpr ⟨other, found, by rw [same]⟩
  refine ⟨picks.map Mixer.Pick.shown, mixed, ⟨?_, ?_, shows, fun _ => distinct⟩, ?_⟩
  · rw [List.length_map]
    omega
  · exact Sequence.length_le_of_keys distinct ids
  · intro vendor
    have capped := account.capped vendor
    rw [← List.map_take, List.map_map]
    exact Int.ofNat_le.mp capped

/-- Something is selected from ranked items, mixed or not. -/
theorem select_ok (setup : FeedSetup σ) (limited : 0 ≤ limit)
    (unplaced : ∀ entry ∈ ranked, entry.stream = none) :
    ∃ shown, setup.select ranked limit = .ok shown ∧ Selected ranked limit shown ∧
      (setup.mixes = true →
        ∀ vendor, ((shown.take 10).map (·.item.vendor)).count vendor ≤ 2) := by
  unfold select
  by_cases mixes : setup.mixes = true
  · obtain ⟨shown, mixed, selected, capped⟩ := mixRanked_selected limited ranked
    exact ⟨shown, by rw [if_pos mixes, mixed], selected, fun _ => capped⟩
  · exact ⟨_, if_neg mixes, cut_selected limited unplaced, fun mixed => absurd mixed mixes⟩

/-- An entry of a feed shows a selected item with its factors. -/
def Tells (ranked : Ranked) (entry : FeedItem) : Prop :=
  entry.item = ranked.item ∧ entry.scoring = ranked.scoring ∧
    entry.stream = FeedItem.streamOf ranked none

/-- What is explained is told, one entry for each item. -/
theorem tells_of_explainFrom {tags : List String} {shared : Option Reason} {position : Nat}
    {entries : List FeedItem} (explained : explainFrom tags shared position shown = .ok entries) :
    List.Forall₂ Tells shown entries := by
  induction shown generalizing position entries with
  | nil =>
    cases explained
    exact .nil
  | cons ranked rest ih =>
    obtain ⟨explanation, -, following⟩ := Call.bind_eq_ok_iff.mp explained
    obtain ⟨others, all, same⟩ := Call.bind_eq_ok_iff.mp following
    cases same
    exact .cons ⟨rfl, rfl, rfl⟩ (ih all)

/-- Items with usable rows are explained, one entry for each, at consecutive positions. -/
theorem explainFrom_ok (tags : List String) (shared : Option Reason)
    (usable : ∀ entry ∈ shown, entry.item.raw.Usable) :
    ∀ position : Nat, ∃ entries, explainFrom tags shared position shown = .ok entries ∧
      List.Forall₂ Tells shown entries ∧
      entries.map (·.position) = (List.range' position shown.length).map Int.ofNat := by
  induction shown with
  | nil => exact fun _ => ⟨[], rfl, .nil, rfl⟩
  | cons ranked rest ih =>
    intro position
    rw [List.forall_mem_cons] at usable
    obtain ⟨explanation, generated⟩ :=
      ((Row.usable_iff ranked.item).mp usable.1).2.2 tags ranked rfl
    obtain ⟨entries, others, tells, positions⟩ := ih usable.2 (position + 1)
    refine ⟨_ :: entries, by simp only [explainFrom, generated, others]; rfl,
      .cons ⟨rfl, rfl, rfl⟩ tells, ?_⟩
    rw [List.map_cons, List.length_cons, List.range'_succ, List.map_cons, positions]
    rfl

end FeedSetup

end Storefront
