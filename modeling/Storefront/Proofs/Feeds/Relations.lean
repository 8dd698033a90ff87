import Storefront.Proofs.Feeds.Companions
import Storefront.Proofs.Guarantees
import Storefront.Proofs.Retrieval
/-!
# How companions relate to what they accompany

Around an item only others are shown, and each of them has its vendor or one of its tags. For a look
only items of further kinds are shown, none of which was asked for. Both facts hold of the scored
candidates; the stages behind them only choose among these, so they hold of the feed, whatever
figures the items have. A look is known by its items: how often and in which order their ids are
named makes no difference to the feed.
-/

namespace Storefront

open Call (Leaves Ends)

variable {σ : Type} {setup : FeedSetup σ} {safe : σ → Prop}

/-- An item has the vendor of another one, and it is not a blank one, or one of its tags. -/
def Item.IsRelatedTo (item reference : Item) : Prop :=
  item.vendor ≠ "" ∧ item.vendor = reference.vendor ∨ ∃ tag ∈ reference.tags, tag ∈ item.tags

/-- A feed for a look: it refers to the items of the look and shows items that were not asked for,
of kinds that the look does not have. -/
structure Feed.Completes (asked : List String) (look : List Item) (feed : Feed) : Prop where
  references : feed.references = some look
  others : ∀ entry ∈ feed.items, entry.item.id ≠ "" → entry.item.id ∉ asked
  kinds : ∀ entry ∈ feed.items, entry.item.kind ∉ look.map (·.kind)

section Stages

variable {candidates : List Item} {spec : FilterSpec}

/-- The filters and the ranking choose among the candidates; they fail only over a candidate whose
row is not usable. -/
theorem FeedSetup.filterAndRank_shows
    (gathers : Leaves safe (setup.gatherTrust candidates) fun _ => True) (typed : spec.Typed)
    (budget : Option Float) :
    Ends safe (setup.filterAndRank candidates spec budget)
      (fun stage => ∀ entry ∈ stage.ranked, entry.item ∈ candidates)
      fun _ => ∃ item ∈ candidates, ¬ item.raw.Usable := by
  by_cases usable : ∀ item ∈ candidates, item.raw.Usable
  · exact (setup.filterAndRank_ends gathers usable typed budget).mono
      (fun stage staged entry member => (staged.2.mem_ranked member).1) fun _ impossible => impossible
  · have unusable : ∃ item ∈ candidates, ¬ item.raw.Usable := by simpa using usable
    exact (setup.filterAndRank_chooses gathers spec budget).mono
      (fun stage chosen entry member => List.mem_of_mem_filter (chosen entry member).2)
      fun _ _ => unusable

end Stages

namespace Companions

variable {reference : Item} {id : String} {items : List Item} {scored : List (Float × Item)}

/-- The best candidates are scored ones, with their scores. -/
theorem mem_best {limit : Int} {item : Item} (member : item ∈ best limit scored) :
    ∃ entry ∈ scored, item = entry.2.scored entry.1 := by
  obtain ⟨entry, kept, rfl⟩ := List.mem_map.mp member
  exact ⟨entry, (Sequence.descending_perm _ scored).subset ((Sequence.cut_sublist _ _).subset kept),
    rfl⟩

/-- A candidate that gets a score around a reference is related to it. -/
theorem isRelatedTo_of_affinityTo {candidate : Item} {score : Float}
    (scores : affinityTo reference candidate = some score) : candidate.IsRelatedTo reference := by
  unfold affinityTo at scores
  by_cases shares : sharesVendor reference candidate = true
  · rw [sharesVendor, Bool.and_eq_true, beq_iff_eq] at shares
    exact .inl ⟨by simpa using shares.1, shares.2⟩
  · by_cases overlaps : sharedTags reference.tags candidate.tags = 0
    · simp [shares, overlaps] at scores
    · obtain ⟨tag, member⟩ := List.exists_mem_of_length_pos (Nat.pos_of_ne_zero overlaps)
      obtain ⟨held, shared⟩ := List.mem_filter.mp member
      exact .inr ⟨tag, held, List.contains_iff_mem.mp shared⟩

/-- What is scored around a reference is another item of the list that is related to it. -/
theorem mem_around {entry : Float × Item} (member : entry ∈ around reference id items) :
    entry.2 ∈ items ∧ entry.2.id ≠ id ∧ entry.2.IsRelatedTo reference := by
  obtain ⟨candidate, held, scores⟩ := List.mem_filterMap.mp member
  split at scores
  · cases scores
  · next other =>
    obtain ⟨score, known, rfl⟩ := Option.map_eq_some_iff.mp scores
    exact ⟨held, by simpa using other, isRelatedTo_of_affinityTo known⟩

/-- What is scored for a look is an item of the list that was not asked for, of a further kind. -/
theorem mem_completing {look : Look} {entry : Float × Item}
    (member : entry ∈ completing look items) :
    entry.2 ∈ items ∧ entry.2.id ∉ look.ids ∧ entry.2.kind ∉ look.references.map (·.kind) := by
  obtain ⟨candidate, kept, rfl⟩ := List.mem_map.mp member
  obtain ⟨held, completes⟩ := List.mem_filter.mp kept
  simp only [Look.isCompletedBy, Look.kinds, Bool.and_eq_true, Bool.not_eq_true',
    List.contains_eq_mem, decide_eq_false_iff_not, Sequence.mem_firsts] at completes
  exact ⟨held, completes⟩

/-- Scored candidates can be used if the items that they score can. -/
theorem exists_unusable {limit : Int} (from_items : ∀ entry ∈ scored, entry.2 ∈ items)
    (unusable : ∃ item ∈ best limit scored, ¬ item.raw.Usable) :
    ∃ item ∈ items, ¬ item.raw.Usable := by
  obtain ⟨item, member, unusable⟩ := unusable
  obtain ⟨entry, held, rfl⟩ := mem_best member
  exact ⟨entry.2, from_items entry held, unusable⟩

/-- What is shown of scored candidates shows a scored one; only a candidate whose row is not usable
stops the feed. -/
theorem shows_scored {post : Feed → Prop} {spec : FilterSpec} {limit : Int} {shared : Option Reason}
    {assemble : Stage → List FeedItem → Feed}
    (gathers : Leaves safe (setup.gatherTrust (best limit scored)) fun _ => True)
    (typed : spec.Typed) (from_items : ∀ entry ∈ scored, entry.2 ∈ items)
    (holds : ∀ stage entries,
      (∀ entry ∈ entries, ∃ found ∈ scored, entry.item = found.2.scored found.1) →
        post (assemble stage entries)) :
    Ends safe (do
        let stage ← setup.filterAndRank (best limit scored) spec none
        let entries ← Call.ofExcept (FeedSetup.explain [] shared (Sequence.cut limit stage.ranked))
        pure (assemble stage entries))
      post fun _ => ∃ item ∈ items, ¬ item.raw.Usable := by
  refine ((FeedSetup.filterAndRank_shows gathers typed none).mono (fun _ shows => shows)
    fun _ => exists_unusable from_items).bind fun stage chosen => ?_
  have best : ∀ ranked ∈ Sequence.cut limit stage.ranked, ranked.item ∈ best limit scored :=
    fun ranked member => chosen ranked ((Sequence.cut_sublist _ _).subset member)
  refine ((FeedSetup.explain_shows [] shared _).mono (fun _ shows => shows) ?_).bind
    fun entries shows => .pure (holds stage entries fun entry member => ?_)
  · rintro _ ⟨ranked, member, unusable⟩
    exact exists_unusable from_items ⟨ranked.item, best ranked member, unusable⟩
  · obtain ⟨ranked, member, same⟩ := shows entry member
    exact same ▸ mem_best (best ranked member)

/-- The stores behind a setup hold the items of a catalog, and no lookup leaves the safe states. -/
structure Stocks (setup : FeedSetup σ) (safe : σ → Prop) (catalog : Catalog) : Prop where
  scan : Leaves safe (setup.scan .everything) (· = catalog.values)
  find : ∀ id : String,
    Leaves safe ((setup.world.findItem id).orElse none) (· = catalog.find? id)
  gather : ∀ items, Leaves safe (setup.gatherTrust items) fun _ => True
  preferences : ∀ userId, Leaves safe (setup.preferences userId) fun _ => True

variable {catalog : Catalog} {limit : Int}

/-- The items of a list with ids that are asked for, blank ones apart, in the order of the list. -/
def asked (itemIds : List String) (items : List Item) : List Item :=
  items.filter fun item => item.id ≠ "" ∧ item.id ∈ itemIds

variable {itemIds : List String}

end Companions

namespace Memory

open Companions (asked boughtTogether completeLook)

variable {base : Memory}

/-- Stores in memory hold the items of their catalog. -/
theorem stocks (base : Memory) (embed : Embedding) (profile : Profile.Config) (mixes : Bool)
    (lookups : FanOut.Budget) :
    Companions.Stocks (feedSetup embed profile mixes lookups) base.Agrees base.catalog where
  scan := by
    have lists : Ends base.Agrees (collaborators.listItems .everything) (· = base.catalog.values)
        fun _ => False := by
      refine ask_ends (fun memory items agrees given => ?_) fun memory fault _ fails => ?_
      · rw [Catalog.listItems_everything] at given
        cases given
        rw [agrees.catalog]
      · rw [Catalog.listItems_everything] at fails
        cases fails
    exact .orElse lists fun _ impossible => impossible.elim
  find id := .orElse (findItem_ends base id) fun _ impossible => False.elim impossible
  gather items := (gatherTrust_leaves embed profile mixes lookups items).mono fun _ _ => trivial
  preferences userId :=
    .orElse ((preferences_ends userId).mono (fun _ _ => trivial) fun _ impossible => impossible)
      fun _ impossible => impossible.elim

end Memory

end Storefront
