import Storefront.Proofs.Stages
/-!
# Feeds assembled from candidates

A feed that went through the stages, seen from its candidates: how many entries it has and at which
positions, which candidates they show, how they are scored, and how its trace accounts for the
candidates that it does not show.
-/

namespace Storefront

/-- Candidates after the filters and the ranking, with what is known about their vendors. -/
structure Stage.Staged (candidates : List Item) (spec : FilterSpec) (budget : Option Float)
    (stage : Stage) : Prop where
  sifted : Filter.Sifted stage.trust spec candidates stage.result
  ordered : Ranker.Ordered ⟨budget, stage.trust⟩ stage.result.kept stage.ranked

namespace Stage.Staged

variable {candidates : List Item} {spec : FilterSpec} {budget : Option Float} {stage : Stage}

/-- A ranked item is a candidate that passed every check. -/
theorem mem_ranked (staged : stage.Staged candidates spec budget) {entry : Ranked}
    (member : entry ∈ stage.ranked) :
    entry.item ∈ candidates ∧ Filter.keeps stage.trust spec entry.item = true := by
  have kept : entry.item ∈ stage.result.kept :=
    staged.ordered.items.subset (List.mem_map.mpr ⟨entry, member, rfl⟩)
  rw [staged.sifted.kept] at kept
  exact List.mem_filter.mp kept

/-- Ranked items are in no stream yet, and their prices are compared with the budget. -/
theorem scored (staged : stage.Staged candidates spec budget) {entry : Ranked}
    (member : entry ∈ stage.ranked) :
    entry.stream = none ∧
      entry.scoring.priceFit = Scoring.priceFitOf entry.item.price budget :=
  (Ranker.score_eq_ok (staged.ordered.scored entry member)).2

/-- As many items are ranked as were kept. -/
theorem length_ranked (staged : stage.Staged candidates spec budget) :
    stage.ranked.length = stage.result.kept.length := by
  simpa only [List.length_map] using staged.ordered.items.length_eq

/-- No two ranked items share an id if no two candidates do. -/
theorem distinct (staged : stage.Staged candidates spec budget)
    (nodup : (candidates.map (·.id)).Nodup) : (stage.ranked.map (·.item.id)).Nodup := by
  have kept : (stage.result.kept.map (·.id)).Nodup := by
    rw [staged.sifted.kept]
    exact nodup.sublist (List.filter_sublist.map _)
  have perm := (staged.ordered.items.map (·.id)).nodup_iff.mpr kept
  rwa [List.map_map] at perm

end Stage.Staged

/-- A feed of at most so many of some candidates that pass the constraints, given what is known
about their vendors. -/
structure Feed.Assembled (candidates : List Item) (trust : TrustMap) (spec : FilterSpec)
    (budget : Option Float) (limit : Int) (feed : Feed) : Prop where
  limited : (feed.items.length : Int) ≤ limit
  positions : feed.items.map (·.position) = (List.range feed.items.length).map Int.ofNat
  streams : ∀ entry ∈ feed.items, entry.stream = entry.item.stream
  distinct : (candidates.map (·.id)).Nodup → (feed.items.map (·.item.id)).Nodup
  kept : ∀ entry ∈ feed.items,
    entry.item ∈ candidates ∧ Filter.keeps trust spec entry.item = true
  priceFit : ∀ entry ∈ feed.items,
    entry.scoring.priceFit = Scoring.priceFitOf entry.item.price budget
  shown : feed.items.length ≤ feed.trace.filtered
  counted : ∃ result, Filter.Sifted trust spec candidates result ∧
    feed.trace.filtered = result.kept.length ∧ feed.trace.metrics = result.metrics

namespace FeedSetup

variable {shown ranked : List Ranked} {entries : List FeedItem}

/-- The stream shown with an item is the stream of its kind, if the item was mixed into no other. -/
theorem streamOf_eq {entry : Ranked}
    (own : ∀ stream, entry.stream = some stream → stream = entry.item.stream) :
    FeedItem.streamOf entry none = entry.item.stream := by
  unfold FeedItem.streamOf
  cases placed : entry.stream with
  | none => rfl
  | some stream =>
    obtain rfl := own stream placed
    have named : (!entry.item.stream.isEmpty) = true := by
      unfold Item.stream
      cases entry.item.kind <;> decide
    simp only [Option.filter_none, Option.filter_some, named, if_true]

/-- Entries show the items of what is selected, in order, so whatever is read from the items
agrees. -/
theorem map_of_tells {α : Type} (read : Item → α) (tells : List.Forall₂ Tells shown entries) :
    entries.map (fun entry => read entry.item) =
      shown.map fun ranked => read ranked.item :=
  (Sequence.map_eq_of_forall₂ tells fun _ _ told => congrArg read told.1.symm).symm

/-- Explaining a selection gives one entry for each item, at the positions from zero on. -/
theorem explain_ok (history : List Event) (shared : Option Reason)
    (usable : ∀ entry ∈ shown, entry.item.raw.Usable) :
    ∃ entries, explain history shared shown = .ok entries ∧ List.Forall₂ Tells shown entries ∧
      entries.map (·.position) = (List.range entries.length).map Int.ofNat := by
  obtain ⟨entries, explained, tells, positions⟩ := explainFrom_ok
    (Explanation.topTags history Explanation.Rules.standard.topTags) shared usable 0
  refine ⟨entries, explained, tells, ?_⟩
  rw [positions, ← tells.length_eq, List.range_eq_range']

/-- A feed whose entries explain a selection of ranked candidates is assembled from them. -/
theorem assembled {candidates : List Item} {spec : FilterSpec} {budget : Option Float}
    {limit : Int} {stage : Stage} {feed : Feed} (staged : stage.Staged candidates spec budget)
    (selected : Selected stage.ranked limit shown) (tells : List.Forall₂ Tells shown feed.items)
    (positions : feed.items.map (·.position) = (List.range feed.items.length).map Int.ofNat)
    (filtered : feed.trace.filtered = stage.result.kept.length)
    (metrics : feed.trace.metrics = stage.result.metrics) :
    feed.Assembled candidates stage.trust spec budget limit := by
  have length := tells.length_eq
  refine ⟨?limited, positions, ?streams, ?distinct, ?kept, ?priceFit, ?shown,
    stage.result, staged.sifted, filtered, metrics⟩
  case limited => exact length ▸ selected.limited
  case streams =>
    intro entry member
    obtain ⟨ranked, shows, item, -, stream⟩ := Sequence.exists_of_forall₂ tells entry member
    obtain ⟨-, -, -, -, own⟩ := selected.shows ranked shows
    rw [stream, item, streamOf_eq own]
  case distinct =>
    intro nodup
    rw [map_of_tells (·.id) tells]
    exact selected.distinct (staged.distinct nodup)
  case kept =>
    intro entry member
    obtain ⟨ranked, shows, item, -, -⟩ := Sequence.exists_of_forall₂ tells entry member
    obtain ⟨other, found, same, -, -⟩ := selected.shows ranked shows
    rw [item, same]
    exact staged.mem_ranked found
  case priceFit =>
    intro entry member
    obtain ⟨ranked, shows, item, scoring, -⟩ := Sequence.exists_of_forall₂ tells entry member
    obtain ⟨other, found, same, factors, -⟩ := selected.shows ranked shows
    rw [item, scoring, same, factors]
    exact (staged.scored found).2
  case shown =>
    have shorter := selected.shorter
    rw [filtered, ← staged.length_ranked, ← length]
    exact shorter

end FeedSetup

end Storefront
