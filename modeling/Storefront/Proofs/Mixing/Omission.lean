import Storefront.Proofs.Mixing.Filling
import Storefront.Proofs.Sequences
/-!
# What a mixed feed leaves out

Items are taken from the front of their streams and never put back, so every item that a stream no
longer offers was either placed or passed over. What is passed over is settled for good: its id is
in the feed, or its vendor holds as many places of the head as it may. A feed that ends before its
limit has asked all streams and found nothing, so all items are settled.
-/

namespace Storefront.Mixer

variable {config : MixerConfig} {queues : Queues} {picks more : List Pick}
  {progress next final : Progress} {ranked : Ranked}

/-- An item that need not be offered again: its id is among the picks, or its vendor holds as many
places of the head as it may. -/
def Settled (config : MixerConfig) (picks : List Pick) (ranked : Ranked) : Prop :=
  ranked.item.id ∈ picks.map Pick.id ∨
    (((headOf config picks).map Pick.vendor).count ranked.item.vendor : Int) =
      config.maxPerVendorHead

/-- Every item that the streams started with is still on offer or settled. -/
def Settles (config : MixerConfig) (queues : Queues) (picks : List Pick) (progress : Progress) :
    Prop :=
  ∀ kind, ∀ ranked ∈ queues kind, ranked ∈ progress.queues kind ∨ Settled config picks ranked

/-- The items of all streams. -/
def Queues.items (queues : Queues) : List Ranked := Kind.all.flatMap queues

section Settling

/-- An item that is passed over is settled. -/
theorem Account.settled (account : Account config queues picks progress)
    (passed : progress.passesOver config ranked = true) : Settled config picks ranked := by
  rcases Bool.or_eq_true_iff.mp passed with known | capped
  · exact .inl ((account.hasPlaced_iff ranked).mp known)
  · have full := (Bool.and_eq_true_iff.mp capped).2
    rw [decide_eq_true_iff, account.headVendors, List.count_reverse] at full
    exact .inr (Int.le_antisymm (account.capped _) full)

/-- A settled item stays settled: the feed only grows, and a vendor that holds all the places it may
hold gets no more of them. -/
theorem Settled.append (settled : Settled config picks ranked)
    (account : Account config queues (picks ++ more) next) :
    Settled config (picks ++ more) ranked := by
  rcases settled with known | full
  · exact .inl (by rw [List.map_append]; exact List.mem_append_left _ known)
  · have head : (headOf config picks).Sublist (headOf config (picks ++ more)) := by
      rw [headOf, headOf, List.take_append]
      exact List.sublist_append_left _ _
    have grown := (head.map Pick.vendor).count_le ranked.item.vendor
    exact .inr (Int.le_antisymm (account.capped _) (by omega))

/-- Every step leaves an item on offer or settles it. -/
theorem Settles.step (settles : Settles config queues picks progress)
    (account : Account config queues picks progress)
    (transition : progress.Step config more next) : Settles config queues (picks ++ more) next := by
  have after := account.step transition
  intro kind ranked member
  rcases settles kind ranked member with offered | settled
  · cases transition with
    | @place source skipped placed rest queue passed taken =>
      by_cases own : kind = source
      · subst own
        rw [queue, List.mem_append, List.mem_cons] at offered
        rcases offered with before | rfl | behind
        · exact .inr ((account.settled (passed ranked before)).append after)
        · exact .inr (.inl (by simp [Pick.id]))
        · exact .inl (by simpa [Progress.place, Queues.set] using behind)
      · exact .inl (by simpa [Progress.place, Queues.set, own] using offered)
    | @giveUp source passed =>
      by_cases own : kind = source
      · subst own
        exact .inr ((account.settled (passed ranked offered)).append after)
      · exact .inl (by simpa [Progress.exhaust, Queues.set, own] using offered)
  · exact .inr (settled.append after)

/-- A sequence of steps leaves every item on offer or settles it. -/
theorem Settles.steps (settles : Settles config queues picks progress)
    (account : Account config queues picks progress)
    (steps : progress.Steps config more next) : Settles config queues (picks ++ more) next := by
  induction steps with
  | refl => simpa using settles
  | step prior transition ih =>
    simpa only [List.append_assoc] using ih.step (account.steps prior) transition

end Settling

section Exhausting

/-- A search that finds nothing gives up every stream that it asks and brings none back. -/
theorem takeFromAny_exhausts (names : List String) :
    ∀ progress : Progress, takeFromAny config progress names = .ok (.nothing next) →
      ∀ kind : Kind, kind.name ∈ names ∨ progress.queues kind = [] → next.queues kind = [] := by
  induction names with
  | nil =>
    intro progress found kind asked
    simp only [takeFromAny, Except.ok.injEq, Found.nothing.injEq] at found
    simpa [← found] using asked
  | cons name others ih =>
    intro progress found kind asked
    unfold takeFromAny at found
    cases known : Kind.ofName? name with
    | none => simp [known] at found
    | some first =>
      rcases takeFrom_step config progress first with ⟨_, _, equal, -⟩ | ⟨equal, -⟩
      · simp [known, equal] at found
      · simp only [known, equal] at found
        refine ih _ found kind ?_
        by_cases own : kind = first
        · exact .inr (by simp [own, Progress.exhaust, Queues.set])
        · rcases asked with member | empty
          · rcases List.mem_cons.mp member with rfl | later
            · have named := Kind.ofName?_eq_some_iff.mpr (rfl : kind.name = kind.name)
              exact absurd (Option.some.inj (named.symm.trans known)) own
            · exact .inl later
          · exact .inr (by simpa [Progress.exhaust, Queues.set, own] using empty)

variable (complete : ∀ kind : Kind, kind.name ∈ config.fallback)
include complete

/-- Whatever stream a place requires, all streams are asked for it. -/
theorem mem_streamOrder (required : String) (kind : Kind) :
    kind.name ∈ streamOrder config required := by
  by_cases own : kind.name = required
  · exact own ▸ List.mem_cons_self
  · exact List.mem_cons_of_mem _ (List.mem_filter.mpr ⟨complete kind, by simpa using own⟩)

/-- A loop that ends before its limit has given up all streams. -/
theorem Progress.Stopped.exhausted {limit : Int} (stopped : final.Stopped config limit)
    (short : (final.size : Int) < limit) (kind : Kind) : final.queues kind = [] := by
  rcases stopped with full | ⟨earlier, required, searched⟩
  · omega
  · exact takeFromAny_exhausts _ _ searched kind (.inl (mem_streamOrder complete required kind))

end Exhausting

section Counting

/-- The total of the streams counts their items. -/
theorem Queues.length_items (queues : Queues) : queues.items.length = queues.total := by
  simp [Queues.items, Queues.total, Kind.all, Nat.add_assoc]

/-- The items of a stream are among the items of all streams. -/
theorem Queues.mem_items {kind : Kind} (member : ranked ∈ queues kind) : ranked ∈ queues.items :=
  List.mem_flatMap.mpr ⟨kind, by cases kind <;> decide, member⟩

/-- Everything picked is an item of the streams. -/
theorem Account.mem_items (account : Account config queues picks progress) {pick : Pick}
    (picked : pick ∈ picks) : pick.ranked ∈ queues.items :=
  Queues.mem_items
    ((account.ordered pick.source).subset (List.mem_append_left _ (mem_drawn picked)))

/-- A vendor with an item that was not picked has more items than it holds places of the head. -/
theorem Account.count_head_lt (account : Account config queues picks progress)
    (member : ranked ∈ queues.items) (absent : ranked.item.id ∉ picks.map Pick.id) :
    ((headOf config picks).map Pick.vendor).count ranked.item.vendor <
      (queues.items.map (·.item.vendor)).count ranked.item.vendor := by
  let held : List Pick := (headOf config picks).filter (·.vendor == ranked.item.vendor)
  let owned : List Ranked := queues.items.filter (·.item.vendor == ranked.item.vendor)
  have part : held.Sublist picks := List.filter_sublist.trans (List.take_sublist _ _)
  have distinct : (ranked.item.id :: held.map Pick.id).Nodup :=
    List.nodup_cons.mpr ⟨fun again => absent ((part.map _).subset again),
      account.distinct.sublist (part.map _)⟩
  have among : ranked.item.id :: held.map Pick.id ⊆ owned.map (·.item.id) := by
    rw [List.cons_subset]
    refine ⟨List.mem_map.mpr ⟨ranked, List.mem_filter.mpr ⟨member, by simp⟩, rfl⟩, ?_⟩
    intro id placed
    obtain ⟨pick, kept, rfl⟩ := List.mem_map.mp placed
    obtain ⟨-, own⟩ := List.mem_filter.mp kept
    exact List.mem_map.mpr
      ⟨pick.ranked, List.mem_filter.mpr ⟨account.mem_items (part.subset kept), own⟩, rfl⟩
  have more := (List.subperm_of_subset distinct among).length_le
  rw [List.length_cons, List.length_map, List.length_map] at more
  rw [List.count_eq_countP, List.count_eq_countP, List.countP_map, List.countP_map,
    List.countP_eq_length_filter, List.countP_eq_length_filter]
  exact more

/-- A settled item was picked if its vendor has no more items than it may hold places. -/
theorem Account.mem_of_settled (account : Account config queues picks progress)
    (room : ((queues.items.map (·.item.vendor)).count ranked.item.vendor : Int) ≤
      config.maxPerVendorHead)
    (member : ranked ∈ queues.items) (settled : Settled config picks ranked) :
    ranked.item.id ∈ picks.map Pick.id := by
  rcases settled with known | full
  · exact known
  · by_contra absent
    have more := account.count_head_lt member absent
    omega

end Counting

/-- Mixing leaves out nothing without a reason. If a feed ends before its limit, the vendor of every
item whose id it lacks holds as many places of the head as it may. If the ids of all items are
different and no vendor has more items than it may hold places, the feed has as many items as the
limit and the streams allow. -/
theorem mix_omits_capped (admissible : config.Admissible)
    (complete : ∀ kind : Kind, kind.name ∈ config.fallback) (queues : Queues) (limit : Int) :
    ∃ feed, mix config queues limit = .ok feed ∧
      ((feed.length : Int) < limit → ∀ kind, ∀ ranked ∈ queues kind,
        ranked.item.id ∉ feed.map (·.item.id) →
        (((feed.take config.headSize.toNat).map (·.item.vendor)).count ranked.item.vendor : Int) =
          config.maxPerVendorHead) ∧
      ((queues.items.map (·.item.id)).Nodup →
        (∀ vendor, ((queues.items.map (·.item.vendor)).count vendor : Int) ≤
          config.maxPerVendorHead) →
        (feed.length : Int) = min (max limit 0) queues.total) := by
  obtain ⟨picks, final, returned, steps, bounded, stopped⟩ := mix_steps admissible queues limit
  have start := Account.start admissible.capNonneg queues
  have account := start.steps steps
  have settles := Settles.steps (fun _ _ member => .inl member) start steps
  rw [List.nil_append] at account settles
  have ids : (picks.map Pick.shown).map (·.item.id) = picks.map Pick.id := List.map_map
  have settled : (picks.length : Int) < limit → ∀ kind, ∀ ranked ∈ queues kind,
      Settled config picks ranked := by
    intro short kind ranked member
    have size := account.size_eq
    have empty := stopped.exhausted complete (by omega) kind
    exact (settles kind ranked member).resolve_left (by simp [empty])
  refine ⟨picks.map Pick.shown, returned, ?omitted, ?complete⟩
  case omitted =>
    intro short kind ranked member absent
    rw [List.length_map] at short
    rw [ids] at absent
    rw [← List.map_take, List.map_map]
    exact (settled short kind ranked member).resolve_left absent
  case complete =>
    intro distinct room
    have shown : picks.map Pick.id ⊆ queues.items.map (·.item.id) := by
      intro id member
      obtain ⟨pick, picked, rfl⟩ := List.mem_map.mp member
      exact List.mem_map.mpr ⟨pick.ranked, account.mem_items picked, rfl⟩
    have fewer := Sequence.length_le_of_keys account.distinct shown
    rw [Queues.length_items] at fewer
    rw [List.length_map]
    by_cases short : (picks.length : Int) < limit
    · have all : queues.items.map (·.item.id) ⊆ picks.map Pick.id := by
        intro id member
        obtain ⟨ranked, item, rfl⟩ := List.mem_map.mp member
        obtain ⟨kind, -, offered⟩ := List.mem_flatMap.mp item
        exact account.mem_of_settled (room _) item (settled short kind ranked offered)
      have more := Sequence.length_le_of_keys distinct all
      rw [Queues.length_items] at more
      omega
    · omega

/-- The feed of the sample streams ends before its limit of four: the vendor of the third garment
and of the first fabric holds its two places of the head. -/
theorem mix_omits_capped_sample :
    MixerConfig.standard.Admissible ∧
    (∀ kind : Kind, kind.name ∈ MixerConfig.standard.fallback) ∧
    (mix .standard sampleQueues 4).map (·.map (·.item.id)) = .ok ["g1", "g2", "f2"] ∧
    ∃ feed, mix .standard sampleQueues 4 = .ok feed ∧
      ((feed.length : Int) < 4 → ∀ kind, ∀ ranked ∈ sampleQueues kind,
        ranked.item.id ∉ feed.map (·.item.id) →
        (((feed.take 10).map (·.item.vendor)).count ranked.item.vendor : Int) = 2) ∧
      ((sampleQueues.items.map (·.item.id)).Nodup →
        (∀ vendor, ((sampleQueues.items.map (·.item.vendor)).count vendor : Int) ≤ 2) →
        (feed.length : Int) = min (max 4 0) sampleQueues.total) := by
  have complete : ∀ kind : Kind, kind.name ∈ MixerConfig.standard.fallback := by
    intro kind
    cases kind <;> decide
  exact ⟨MixerConfig.standard_admissible, complete, rfl,
    mix_omits_capped MixerConfig.standard_admissible complete sampleQueues 4⟩

end Storefront.Mixer
