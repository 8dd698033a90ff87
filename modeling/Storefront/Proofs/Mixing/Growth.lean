import Mathlib.Data.Fintype.Basic
import Mathlib.Data.List.FinRange
import Mathlib.Data.List.Sort
import Mathlib.Logic.Equiv.Basic
import Mathlib.Tactic.FinCases
import Storefront.Proofs.Mixing.Turns
/-!
# Growth and rearrangement of mixed feeds

What the mixer places does not depend on how many places there are to come, so a feed with a smaller
limit is the beginning of the feed with a greater one. Nor does it depend on how the kinds are
interleaved in the list that is mixed: lists that differ only in that are split into the same
streams.
-/

namespace Storefront.Mixer

variable {config : MixerConfig}

section Growth

variable {short long : Int}

/-- What has been placed within a limit is its own beginning up to the limit. -/
theorem placed_eq_take {progress : Progress} (within : (progress.size : Int) ≤ short) :
    progress.placed.reverse = progress.placed.reverse.take short.toNat := by
  refine (List.take_of_length_le ?_).symm
  rw [List.length_reverse, ← Progress.size]
  omega

/-- A loop with a greater limit places what the loop with the smaller limit places, and then goes
on. -/
theorem fill_grows (shorter : short ≤ long) (rounds : Nat) :
    ∀ progress final : Progress, (progress.size : Int) ≤ short →
      fill config long rounds progress = .ok final →
      ∃ earlier, fill config short rounds progress = .ok earlier ∧
        earlier.placed.reverse = final.placed.reverse.take short.toNat := by
  induction rounds with
  | zero =>
    intro progress final within returned
    cases returned
    exact ⟨progress, rfl, placed_eq_take within⟩
  | succ rounds ih =>
    intro progress final within returned
    by_cases full : short ≤ progress.size
    · -- The loop with the smaller limit ends here, and what the other one places comes behind.
      obtain ⟨picks, steps, -⟩ := fill_turns long _ _ _ returned
      refine ⟨progress, fill_of_full full _, ?_⟩
      rw [steps.placed, List.reverse_append, List.reverse_reverse, List.take_left']
      rw [List.length_reverse, ← Progress.size]
      omega
    rw [fill_of_room (by omega)] at returned ⊢
    cases searched : search config progress with
    | error fault => simp [searched] at returned
    | ok found =>
      cases found with
      | placed next =>
        obtain ⟨pick, _, _, steps, -⟩ := search_finds searched
        have size := steps.size
        rw [List.length_singleton] at size
        simp only [searched] at returned
        exact ih next final (by omega) returned
      | nothing stopped =>
        have size := (search_fails searched).1.size
        rw [List.length_nil] at size
        simp only [searched, Except.ok.injEq] at returned
        subst returned
        exact ⟨stopped, rfl, placed_eq_take (by omega)⟩

end Growth

section Rearrangement

/-- A list arises from another one by moving items to other places, where items of one kind keep
their order. -/
def Rearranges (first second : List Ranked) : Prop :=
  ∃ place : Fin second.length ≃ Fin first.length,
    (∀ i, second.get i = first.get (place i)) ∧
    ∀ i j, i < j → (second.get i).item.kind = (second.get j).item.kind → place i < place j

/-- Moving elements to other places keeps a selection of them if those selected keep their order. -/
theorem filter_eq_of_place {α : Type} {first second : List α} {picks : α → Bool}
    (place : Fin second.length ≃ Fin first.length)
    (same : ∀ i, second.get i = first.get (place i))
    (ordered : ∀ i j, i < j → picks (second.get i) = true → picks (second.get j) = true →
      place i < place j) :
    second.filter picks = first.filter picks := by
  let chosen : List (Fin second.length) :=
    (List.finRange second.length).filter (picks ∘ second.get)
  let wanted : List (Fin first.length) := (List.finRange first.length).filter (picks ∘ first.get)
  have ascending : (chosen.map place).Pairwise (· < ·) := by
    rw [List.pairwise_map]
    refine ((List.pairwise_lt_finRange _).filter _).imp_of_mem ?_
    intro i j member alsoMember before
    exact ordered i j before (List.mem_filter.mp member).2 (List.mem_filter.mp alsoMember).2
  have members : ∀ target, target ∈ chosen.map place ↔ target ∈ wanted := by
    intro target
    obtain ⟨source, rfl⟩ := place.surjective target
    simpa [chosen, wanted] using congrArg (picks · = true) (same source)
  have moved : chosen.map place = wanted :=
    ascending.eq_of_mem_iff ((List.pairwise_lt_finRange _).filter _) members
  calc second.filter picks
      = chosen.map second.get := by
        rw [← List.filter_map, List.map_get_finRange]
    _ = (chosen.map place).map first.get := by
        rw [List.map_map]
        exact List.map_congr_left fun i _ => same i
    _ = wanted.map first.get := by rw [moved]
    _ = first.filter picks := by
        rw [← List.filter_map, List.map_get_finRange]

/-- Rearranged lists have the same streams. -/
theorem split_eq_of_rearranges {first second : List Ranked} (moved : Rearranges first second) :
    split second = split first := by
  obtain ⟨place, same, ordered⟩ := moved
  funext kind
  refine filter_eq_of_place place same fun i j before own alsoOwn => ordered i j before ?_
  exact (of_decide_eq_true own).trans (of_decide_eq_true alsoOwn).symm

end Rearrangement

/-- Growing a feed never reshuffles it. Whatever the streams and the configuration, if the mixer
returns a feed, it returns the beginning of this feed for every smaller limit, and it always returns
one if the configuration names a stream for every place. A ranked list and its rearrangements that
keep the order within each kind are mixed into the same feed. -/
theorem mix_grows (config : MixerConfig) (queues : Queues) {short long : Int} (nonneg : 0 ≤ short)
    (shorter : short ≤ long) :
    (∀ feed, mix config queues long = .ok feed →
      mix config queues short = .ok (feed.take short.toNat)) ∧
    (config.Named → ∃ feed, mix config queues long = .ok feed) ∧
    ∀ first second, Rearranges first second → ∀ limit,
      mixRanked config second limit = mixRanked config first limit := by
  refine ⟨?grows, ?returns, ?rearranged⟩
  case grows =>
    intro feed returned
    cases filled : fill config long (queues.total + 1) ⟨queues, [], []⟩ with
    | error fault => simp [mix, filled, Except.map] at returned
    | ok final =>
      have within : ((⟨queues, [], []⟩ : Progress).size : Int) ≤ short := by
        simpa [Progress.size] using nonneg
      obtain ⟨earlier, stops, beginning⟩ := fill_grows shorter _ _ _ within filled
      simp only [mix, filled, Except.map, Except.ok.injEq] at returned
      simp only [mix, stops, Except.map, beginning, returned]
  case returns =>
    intro named
    obtain ⟨_, final, filled, -⟩ := fill_steps named long (queues.total + 1) ⟨queues, [], []⟩
    exact ⟨final.placed.reverse, by simp [mix, filled, Except.map]⟩
  case rearranged =>
    intro first second moved limit
    rw [mixRanked, mixRanked, split_eq_of_rearranges moved]

/-- A shirt, a clasp and a coat, ranked in this order. -/
def sampleRanking : List Ranked :=
  [sampleRanked "shirt" "loom" (.garment none none), sampleRanked "clasp" "smith" (.accessory none),
    sampleRanked "coat" "loom" (.garment none none)]

/-- The same items with the clasp in front. -/
def sampleReranking : List Ranked :=
  [sampleRanked "clasp" "smith" (.accessory none), sampleRanked "shirt" "loom" (.garment none none),
    sampleRanked "coat" "loom" (.garment none none)]

/-- The first two items of the sample feed are the feed with a limit of two, and the place of the
clasp among the garments does not matter. -/
theorem mix_grows_sample :
    (0 : Int) ≤ 2 ∧ (2 : Int) ≤ 4 ∧ MixerConfig.standard.Named ∧
    Rearranges sampleRanking sampleReranking ∧
    (∃ feed, mix .standard sampleQueues 4 = .ok feed ∧
      feed.map (·.item.id) = ["g1", "g2", "f2"] ∧
      mix .standard sampleQueues 2 = .ok (feed.take 2)) ∧
    (mixRanked .standard sampleReranking 3).map (·.map (·.item.id)) =
      .ok ["shirt", "coat", "clasp"] ∧
    mixRanked .standard sampleReranking 3 = mixRanked .standard sampleRanking 3 := by
  have moved : Rearranges sampleRanking sampleReranking := by
    let place : Fin 3 ≃ Fin 3 := Equiv.swap 0 1
    have same : ∀ i : Fin 3, sampleReranking.get i = sampleRanking.get (place i) := by
      intro i
      fin_cases i <;> rfl
    have ordered : ∀ i j : Fin 3, i < j →
        (sampleReranking.get i).item.kind = (sampleReranking.get j).item.kind →
        place i < place j := by
      decide
    exact ⟨place, same, ordered⟩
  obtain ⟨grows, -, rearranged⟩ :=
    mix_grows .standard sampleQueues (by decide : (0 : Int) ≤ 2) (by decide : (2 : Int) ≤ 4)
  exact ⟨by decide, by decide, MixerConfig.standard_admissible.named, moved,
    ⟨_, rfl, rfl, grows _ rfl⟩, rfl, rearranged _ _ moved 3⟩

end Storefront.Mixer
