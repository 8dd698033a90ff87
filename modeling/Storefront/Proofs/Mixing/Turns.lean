import Storefront.Proofs.Mixing.Filling
/-!
# Turns of the streams

The pattern says for every place which stream is asked first, and the fallbacks say which streams
are asked after it. A stream is asked in vain only once: what it passes over is gone for good, even
if it is passed over for the vendors in the head and the head is full later on. So the item of a
place comes from another stream than the pattern names only if the streams asked before have nothing
to give to this place and to any place behind it.
-/

namespace Storefront.Mixer

variable {config : MixerConfig} {limit : Int} {picks : List Pick} {progress next final : Progress}

/-- The item of a place is from one of the streams that are asked for the place, and no item of the
place or behind it is from a stream that is asked before this one. -/
def IsTurn (config : MixerConfig) (place : Nat) (pick : Pick) (onward : List Pick) : Prop :=
  ∃ required choice, config.pattern[place % config.pattern.length]? = some required ∧
    (streamOrder config required)[choice]? = some pick.source.name ∧
    ∀ other ∈ onward, other.source.name ∉ (streamOrder config required).take choice

/-- The picks of a loop have their turns, whatever the configuration. -/
theorem fill_turns (limit : Int) (rounds : Nat) :
    ∀ progress final, fill config limit rounds progress = .ok final →
      ∃ picks, progress.Steps config picks final ∧
        ∀ place pick, picks[place]? = some pick →
          IsTurn config (progress.size + place) pick (picks.drop place) := by
  induction rounds with
  | zero =>
    intro progress final returned
    cases returned
    exact ⟨[], .refl, by simp⟩
  | succ rounds ih =>
    intro progress final returned
    by_cases full : limit ≤ progress.size
    · rw [fill_of_full full] at returned
      cases returned
      exact ⟨[], .refl, by simp⟩
    rw [fill_of_room (by omega)] at returned
    split at returned
    · cases returned
    · next next searched =>
      obtain ⟨first, required, choice, steps, named, asked, spent⟩ := search_finds searched
      obtain ⟨others, behind, turns⟩ := ih next final returned
      have size := steps.size
      rw [List.length_singleton] at size
      refine ⟨first :: others, steps.trans behind, fun place pick picked => ?_⟩
      cases place with
      | zero =>
        cases picked
        refine ⟨required, choice, named, asked, fun other member before => ?_⟩
        obtain ⟨empty, elsewhere⟩ := spent other.source before
        rcases List.mem_cons.mp member with rfl | later
        · exact elsewhere rfl
        · exact (behind.spent empty).2 other later rfl
      | succ place =>
        have turn := turns place pick picked
        rwa [size, Nat.add_assoc, Nat.add_comm 1] at turn
    · next stopped searched =>
      cases returned
      exact ⟨[], (search_fails searched).1, by simp⟩

/-- For any streams and any limit the mixer returns a feed that follows its pattern and its
fallbacks. The item of every place is from one of the streams that are asked for the place, and the
streams asked before this one give nothing to this place and to no place behind it. The head and its
cap do not matter. -/
theorem mix_takes_turns (named : config.Named) (queues : Queues) (limit : Int) :
    ∃ picks, mix config queues limit = .ok (picks.map Pick.shown) ∧
      (∀ kind, (drawn picks kind).Sublist (queues kind)) ∧
      ∀ place pick, picks[place]? = some pick →
        IsTurn config place pick (picks.drop place) := by
  obtain ⟨_, final, returned, -⟩ := fill_steps named limit (queues.total + 1) ⟨queues, [], []⟩
  obtain ⟨picks, steps, turns⟩ := fill_turns limit _ _ _ returned
  refine ⟨picks, ?_, fun kind => ?_, fun place pick picked => ?_⟩
  · simp [mix, returned, Except.map, steps.placed]
  · exact (List.sublist_append_left _ _).trans (steps.ordered kind)
  · simpa [Progress.size] using turns place pick picked

/-- The third place of the sample feed is for an accessory. The only one is in the feed already, and
the garments that are left are repeated or of a capped vendor, so it goes to a fabric. -/
theorem mix_takes_turns_sample :
    MixerConfig.standard.Named ∧
    (mix .standard sampleQueues 4).map (·.map (·.stream)) =
      .ok [some "clothing", some "clothing", some "fabric"] ∧
    ∃ picks, mix .standard sampleQueues 4 = .ok (picks.map Pick.shown) ∧
      (∀ kind, (drawn picks kind).Sublist (sampleQueues kind)) ∧
      ∀ place pick, picks[place]? = some pick →
        IsTurn .standard place pick (picks.drop place) :=
  ⟨MixerConfig.standard_admissible.named, rfl,
    mix_takes_turns MixerConfig.standard_admissible.named sampleQueues 4⟩

end Storefront.Mixer
