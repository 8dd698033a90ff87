import Storefront.Proofs.Mixing.Account
/-!
# Filling the places of a mixed feed

The loop of the mixer over all streams, limits and admissible configurations. It comes to an end by
itself: every item placed leaves fewer items in the streams, so the bound on the number of rounds is
never what stops it. What it returns satisfies the account of its steps and never exceeds the limit.
-/

namespace Storefront

/-- A configuration that names a stream for every place: there is a pattern, and all names are names
of kinds. -/
structure MixerConfig.Named (config : MixerConfig) : Prop where
  patternFilled : config.pattern ≠ []
  patternKnown : ∀ name ∈ config.pattern, (Kind.ofName? name).isSome
  fallbackKnown : ∀ name ∈ config.fallback, (Kind.ofName? name).isSome

/-- A configuration that the mixer can work with: its names are names of kinds, there is a pattern,
and the cap is not negative. The size of the head and the completeness of the fallbacks do not
matter for it. -/
structure MixerConfig.Admissible (config : MixerConfig) : Prop where
  patternFilled : config.pattern ≠ []
  patternKnown : ∀ name ∈ config.pattern, (Kind.ofName? name).isSome
  fallbackKnown : ∀ name ∈ config.fallback, (Kind.ofName? name).isSome
  capNonneg : 0 ≤ config.maxPerVendorHead

/-- An admissible configuration names a stream for every place. -/
theorem MixerConfig.Admissible.named {config : MixerConfig} (admissible : config.Admissible) :
    config.Named :=
  ⟨admissible.patternFilled, admissible.patternKnown, admissible.fallbackKnown⟩

/-- The configuration of the home feed is admissible. -/
theorem MixerConfig.standard_admissible : MixerConfig.standard.Admissible where
  patternFilled := by decide
  patternKnown := by decide
  fallbackKnown := by decide
  capNonneg := by decide

namespace Mixer

variable {config : MixerConfig} {queues : Queues} {picks : List Pick}
  {progress next final : Progress} {limit : Int}

/-- Replacing a stream changes the total by the difference in its length. -/
theorem Queues.total_set (queues : Queues) (kind : Kind) (queue : List Ranked) :
    (queues.set kind queue).total + (queues kind).length = queues.total + queue.length := by
  cases kind <;> simp [Queues.total, Queues.set, Kind.all] <;> omega

/-- Every step leaves at least as many fewer items in the streams as it places. -/
theorem Progress.Step.total_le (transition : progress.Step config picks next) :
    next.queues.total + picks.length ≤ progress.queues.total := by
  cases transition with
  | @place kind skipped ranked rest queue _ _ =>
    have total := Queues.total_set progress.queues kind rest
    simp only [queue, List.length_append, List.length_cons] at total
    simp only [Progress.place, List.length_singleton]
    omega
  | @giveUp kind _ =>
    have total := Queues.total_set progress.queues kind []
    simp only [List.length_nil] at total
    simp only [Progress.exhaust, List.length_nil]
    omega

/-- A sequence of steps leaves at least as many fewer items in the streams as it places. -/
theorem Progress.Steps.total_le (steps : progress.Steps config picks next) :
    next.queues.total + picks.length ≤ progress.queues.total := by
  induction steps with
  | refl => simp
  | step _ transition ih =>
    have last := transition.total_le
    rw [List.length_append]
    omega

/-- Where the loop comes to its end: the limit is reached, or a search through the streams that are
asked for a place has found nothing. -/
def Progress.Stopped (config : MixerConfig) (limit : Int) (final : Progress) : Prop :=
  limit ≤ final.size ∨ ∃ earlier required,
    takeFromAny config earlier (streamOrder config required) = .ok (.nothing final)

section Searching

/-- The search for the item of the next place. -/
def search (config : MixerConfig) (progress : Progress) : Except Fault Found :=
  match config.pattern[progress.size % config.pattern.length]? with
  | none => .error .emptyPattern
  | some required => takeFromAny config progress (streamOrder config required)

/-- A loop at its limit stays where it is. -/
theorem fill_of_full (full : limit ≤ progress.size) (rounds : Nat) :
    fill config limit rounds progress = .ok progress := by
  cases rounds with
  | zero => rfl
  | succ rounds => rw [fill, if_pos full]

/-- A loop with places left searches for the item of the next place. It goes on if there is one and
ends if there is none. -/
theorem fill_of_room (room : (progress.size : Int) < limit) (rounds : Nat) :
    fill config limit (rounds + 1) progress =
      match search config progress with
      | .error fault => .error fault
      | .ok (.placed next) => fill config limit rounds next
      | .ok (.nothing final) => .ok final := by
  have notFull : ¬ limit ≤ progress.size := Int.not_le.mpr room
  rw [fill, if_neg notFull, search]
  cases config.pattern[progress.size % config.pattern.length]? <;> rfl

/-- A search that finds nothing makes no pick, and the loop comes to its end with it. -/
theorem search_fails (searched : search config progress = .ok (.nothing final)) :
    progress.Steps config [] final ∧ ∃ earlier required,
      takeFromAny config earlier (streamOrder config required) = .ok (.nothing final) := by
  unfold search at searched
  split at searched
  · cases searched
  · exact ⟨takeFromAny_fails _ _ _ searched, _, _, searched⟩

/-- A search that finds an item makes one pick. It gives up the streams that it asks before the
item's own. -/
theorem search_finds (searched : search config progress = .ok (.placed next)) :
    ∃ pick required choice, progress.Steps config [pick] next ∧
      config.pattern[progress.size % config.pattern.length]? = some required ∧
      (streamOrder config required)[choice]? = some pick.source.name ∧
      ∀ kind : Kind, kind.name ∈ (streamOrder config required).take choice →
        next.queues kind = [] ∧ pick.source ≠ kind := by
  unfold search at searched
  split at searched
  · cases searched
  · next required named =>
    obtain ⟨pick, asked, others, order, steps, spent⟩ := takeFromAny_finds _ _ _ searched
    refine ⟨pick, required, asked.length, steps, named, ?_, ?_⟩
    · simp [order]
    · rw [order, List.take_left]
      exact spent

/-- A configuration that names a stream for every place has an answer to every search. -/
theorem search_total (named : config.Named) (progress : Progress) :
    ∃ found, search config progress = .ok found := by
  have within : progress.size % config.pattern.length < config.pattern.length :=
    Nat.mod_lt _ (List.length_pos_iff.mpr named.patternFilled)
  have member := List.getElem_mem within
  have known : ∀ name ∈ streamOrder config config.pattern[progress.size % config.pattern.length],
      (Kind.ofName? name).isSome := by
    intro name asked
    rcases List.mem_cons.mp asked with rfl | fallback
    · exact named.patternKnown _ member
    · exact named.fallbackKnown _ (List.mem_filter.mp fallback).1
  rw [search, List.getElem?_eq_getElem within]
  exact takeFromAny_total config known progress

end Searching

section Rounds

variable (named : config.Named)
include named

/-- A round of the loop that is not the last one places one item and goes on, a last one stops
where it is or after giving streams up. -/
theorem fill_round (limit : Int) (progress : Progress) :
    (∃ pick next, progress.Steps config [pick] next ∧ (progress.size : Int) < limit ∧
      ∀ rounds, fill config limit (rounds + 1) progress = fill config limit rounds next) ∨
    (∃ final, progress.Steps config [] final ∧ final.Stopped config limit ∧
      ∀ rounds, fill config limit (rounds + 1) progress = .ok final) := by
  by_cases full : limit ≤ progress.size
  · exact .inr ⟨progress, .refl, .inl full, fun rounds => fill_of_full full _⟩
  have room : (progress.size : Int) < limit := Int.not_le.mp full
  obtain ⟨found, searched⟩ := search_total named progress
  cases found with
  | placed next =>
    obtain ⟨pick, _, _, steps, -⟩ := search_finds searched
    exact .inl ⟨pick, next, steps, room, fun rounds => by rw [fill_of_room room, searched]⟩
  | nothing final =>
    obtain ⟨steps, stopped⟩ := search_fails searched
    exact .inr ⟨final, steps, .inr stopped, fun rounds => by rw [fill_of_room room, searched]⟩

/-- The loop returns after a sequence of steps that stays within the limit. With more rounds than
there are items it returns because it has come to its end. -/
theorem fill_steps (limit : Int) (rounds : Nat) :
    ∀ progress, ∃ picks final, fill config limit rounds progress = .ok final ∧
      progress.Steps config picks final ∧ final.size ≤ max progress.size limit.toNat ∧
      (progress.queues.total < rounds → final.Stopped config limit) := by
  induction rounds with
  | zero =>
    exact fun progress => ⟨[], progress, rfl, .refl, by omega,
      fun enough => absurd enough (Nat.not_lt_zero _)⟩
  | succ rounds ih =>
    intro progress
    rcases fill_round named limit progress with
      ⟨pick, next, steps, room, goesOn⟩ | ⟨final, steps, stopped, stops⟩
    · obtain ⟨picks, final, returned, others, bounded, stopped⟩ := ih next
      have size := steps.size
      have fewer := steps.total_le
      rw [List.length_singleton] at size fewer
      exact ⟨[pick] ++ picks, final, (goesOn rounds).trans returned, steps.trans others, by omega,
        fun enough => stopped (by omega)⟩
    · have size := steps.size
      rw [List.length_nil] at size
      exact ⟨[], final, stops rounds, steps, by omega, fun _ => stopped⟩

/-- More rounds than there are items in the streams change nothing: the loop stops by itself. -/
theorem fill_succ (limit : Int) (rounds : Nat) :
    ∀ progress : Progress, progress.queues.total < rounds →
      fill config limit (rounds + 1) progress = fill config limit rounds progress := by
  induction rounds with
  | zero => exact fun progress enough => absurd enough (Nat.not_lt_zero _)
  | succ rounds ih =>
    intro progress enough
    rcases fill_round named limit progress with
      ⟨pick, next, steps, _, goesOn⟩ | ⟨final, _, _, stops⟩
    · have fewer := steps.total_le
      rw [List.length_singleton] at fewer
      rw [goesOn, goesOn, ih next (by omega)]
    · rw [stops, stops]

end Rounds

section Loop

variable (admissible : config.Admissible)
include admissible

/-- The loop gives the same result for every sufficient number of rounds. -/
theorem fill_eq (limit : Int) (progress : Progress) {rounds : Nat}
    (enough : progress.queues.total < rounds) :
    fill config limit rounds progress =
      fill config limit (progress.queues.total + 1) progress := by
  induction rounds, enough using Nat.le_induction with
  | base => rfl
  | succ rounds enough ih => rw [fill_succ admissible.named limit rounds progress enough, ih]

/-- Mixing returns a feed within the limit that is made by a sequence of steps to the end of the
loop. -/
theorem mix_steps (queues : Queues) (limit : Int) :
    ∃ picks final, mix config queues limit = .ok (picks.map Pick.shown) ∧
      Progress.Steps config ⟨queues, [], []⟩ picks final ∧ picks.length ≤ limit.toNat ∧
      final.Stopped config limit := by
  obtain ⟨picks, final, returned, steps, bounded, stopped⟩ :=
    fill_steps admissible.named limit (queues.total + 1) ⟨queues, [], []⟩
  have placed := ((Account.start admissible.capNonneg queues).steps steps).placed
  have size := steps.size
  refine ⟨picks, final, ?_, steps, ?_, stopped (Nat.lt_succ_self _)⟩
  · simp [mix, returned, Except.map, placed]
  · simp only [Progress.size, List.length_nil] at bounded size
    omega

/-- Mixing returns a feed within the limit that consists of picks with an account. -/
theorem mix_account (queues : Queues) (limit : Int) :
    ∃ picks final, mix config queues limit = .ok (picks.map Pick.shown) ∧
      Account config queues picks final ∧ picks.length ≤ limit.toNat := by
  obtain ⟨picks, final, returned, steps, bounded, -⟩ := mix_steps admissible queues limit
  exact ⟨picks, final, returned, (Account.start admissible.capNonneg queues).steps steps, bounded⟩

/-- For any streams and any limit the mixer returns, and giving it more rounds changes nothing.
Its feed is within the limit, has pairwise different ids, and in its head no vendor has more places
than the cap. It consists of items of the streams in which only the stream is new, and the items
taken from a stream keep that stream's order. -/
theorem mix_interleaves (queues : Queues) (limit : Int) :
    ∃ feed picks, mix config queues limit = .ok feed ∧
      (∀ rounds, queues.total < rounds →
        (fill config limit rounds ⟨queues, [], []⟩).map (·.placed.reverse) = .ok feed) ∧
      (feed.length : Int) ≤ max limit 0 ∧
      (feed.map (·.item.id)).Nodup ∧
      (∀ vendor, (((feed.take config.headSize.toNat).map (·.item.vendor)).count vendor : Int) ≤
        config.maxPerVendorHead) ∧
      feed = picks.map Pick.shown ∧
      ∀ kind, (drawn picks kind).Sublist (queues kind) := by
  obtain ⟨picks, final, returned, account, bounded⟩ := mix_account admissible queues limit
  refine ⟨_, picks, returned, ?stops, ?limited, ?distinct, ?capped, rfl, ?ordered⟩
  case stops =>
    intro rounds enough
    rw [fill_eq admissible limit ⟨queues, [], []⟩ enough]
    exact returned
  case limited =>
    rw [List.length_map]
    omega
  case distinct =>
    rw [List.map_map]
    exact account.distinct
  case capped =>
    intro vendor
    have capped := account.capped vendor
    rw [← List.map_take, List.map_map]
    exact capped
  case ordered =>
    intro kind
    exact (List.sublist_append_left _ _).trans (account.ordered kind)

end Loop

/-- An item to rank with an id, a vendor and details, and nothing else to say about it. -/
def sampleRanked (id vendor : String) (details : Details) : Ranked :=
  ⟨⟨id, id, none, 1.0, "USD", vendor, none, [], [], none, none, none, none, details⟩,
    0.5, ⟨0.5, 0.5, 0.5, 1.0, 0.0, false⟩, none⟩

/-- Streams in which one vendor has too many garments and one id occurs in two streams. -/
def sampleQueues : Queues
  | .garment => ["g1", "g2", "g3", "g1"].map (sampleRanked · "loom" (.garment none none))
  | .accessory => [sampleRanked "g2" "clasp" (.accessory none)]
  | .fabric => [sampleRanked "f1" "loom" (.fabric none), sampleRanked "f2" "bolt" (.fabric none)]

/-- Of the sample streams the third garment, the repeated ids and the first fabric are passed
over. -/
theorem mix_interleaves_sample :
    MixerConfig.standard.Admissible ∧
    (mix .standard sampleQueues 4).map (·.map (·.item.id)) = .ok ["g1", "g2", "f2"] ∧
    ∃ feed picks, mix .standard sampleQueues 4 = .ok feed ∧
      (∀ rounds, sampleQueues.total < rounds →
        (fill .standard 4 rounds ⟨sampleQueues, [], []⟩).map (·.placed.reverse) = .ok feed) ∧
      (feed.length : Int) ≤ max 4 0 ∧
      (feed.map (·.item.id)).Nodup ∧
      (∀ vendor, (((feed.take 10).map (·.item.vendor)).count vendor : Int) ≤ 2) ∧
      feed = picks.map Pick.shown ∧
      ∀ kind, (drawn picks kind).Sublist (sampleQueues kind) :=
  ⟨MixerConfig.standard_admissible, rfl,
    mix_interleaves MixerConfig.standard_admissible sampleQueues 4⟩

end Mixer

end Storefront
