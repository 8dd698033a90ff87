import Storefront.Proofs.Floats.Order
import Storefront.Proofs.Stages
/-!
# How scored items are arranged

Each item is scored by itself. If the scores can be compared, sorting by them is sorting by rank in a
linear order: the entries descend, those of one score stay in the order in which they came, and
picking some of them before they are sorted or after makes no difference.
-/

namespace Storefront

namespace Ranker

variable {weights : ScoringWeights Float} {context : RankingContext} {items : List Item}
  {scored : List Ranked}

/-- Every item has a score, and it can be compared. -/
def Scorable (weights : ScoringWeights Float) (context : RankingContext) (items : List Item) :
    Prop :=
  ∀ item ∈ items, ∃ entry,
    score weights context item = .ok entry ∧ entry.finalScore.isNaN = false

/-- Entries in descending order of their scores, those of one score in the order in which they
came. -/
structure Arranges (scored ranked : List Ranked) : Prop where
  perm : ranked.Perm scored
  descends : ranked.Pairwise fun entry later => later.finalScore ≤ entry.finalScore
  ties : ∀ level, (ranked.filter fun entry => entry.finalScore == level) =
    scored.filter fun entry => entry.finalScore == level

/-- Items that have scores are scored, with scores that can be compared. -/
theorem Scorable.scoredAs (scorable : Scorable weights context items) :
    ∃ scored, ScoredAs weights context items scored ∧
      ∀ entry ∈ scored, entry.finalScore.isNaN = false := by
  induction items with
  | nil => exact ⟨[], .nil, by simp⟩
  | cons item rest ih =>
    rw [Scorable, List.forall_mem_cons] at scorable
    obtain ⟨⟨entry, own, defined⟩, others⟩ := scorable
    obtain ⟨scored, all, each⟩ := ih others
    exact ⟨entry :: scored, .cons own all, List.forall_mem_cons.mpr ⟨defined, each⟩⟩

/-- The entries of some items are the entries whose items are picked. -/
theorem ScoredAs.filter (all : ScoredAs weights context items scored) (picks : Item → Bool) :
    ScoredAs weights context (items.filter picks) (scored.filter fun entry => picks entry.item) := by
  induction all with
  | nil => exact .nil
  | cons own _ ih =>
    rw [List.filter_cons, List.filter_cons, (score_eq_ok own).1]
    split
    · exact .cons own ih
    · exact ih

/-- Entries with scores that can be compared are sorted by the ranks of their scores. -/
theorem order_eq_by_rank (defined : ∀ entry ∈ scored, entry.finalScore.isNaN = false) :
    order scored =
      Sequence.descending (Sequence.ranksBelow (Floats.rank ∘ Ranked.finalScore)) scored :=
  Floats.descending_eq_by_rank defined

/-- Entries with scores that can be compared are arranged. -/
theorem order_arranges (defined : ∀ entry ∈ scored, entry.finalScore.isNaN = false) :
    Arranges scored (order scored) := by
  have sorted := Floats.descending_arranges defined
  exact ⟨sorted.perm, sorted.order, sorted.ties⟩

/-- Picking arranged entries is arranging the entries picked. -/
theorem filter_order (defined : ∀ entry ∈ scored, entry.finalScore.isNaN = false)
    (picks : Ranked → Bool) : (order scored).filter picks = order (scored.filter picks) := by
  rw [order_eq_by_rank defined, Sequence.filter_descending, order_eq_by_rank]
  exact fun entry member => defined entry (List.mem_of_mem_filter member)

/-- Items with scores that can be compared are ranked. -/
theorem ScoredAs.rank_eq (all : ScoredAs weights context items scored) :
    rank weights context items = .ok (order scored) := by
  rw [rank, scoreAll_eq_ok_iff.mpr all]
  rfl

/-- A ranking whose scores can be compared arranges the items, each with its own score. -/
theorem arranges_of_rank {ranked : List Ranked} (ranks : rank weights context items = .ok ranked)
    (defined : ∀ entry ∈ ranked, entry.finalScore.isNaN = false) :
    ∃ scored, ScoredAs weights context items scored ∧ Arranges scored ranked := by
  obtain ⟨scored, scores, rfl⟩ := Call.map_eq_ok_iff.mp ranks
  have perm : (order scored).Perm scored := Sequence.descending_perm below scored
  exact ⟨scored, scoreAll_eq_ok_iff.mp scores,
    order_arranges fun entry member => defined entry (perm.symm.subset member)⟩

end Ranker

end Storefront
