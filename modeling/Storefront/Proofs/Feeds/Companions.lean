import Storefront.Feed.Companions
import Storefront.Proofs.Feeds.Shared
/-!
# What the feeds of items that go together return

Candidates are scored items of a list of the catalog. A feed around items that are not there says so
and shows nothing.
-/

namespace Storefront

open Call (Leaves Ends IsRefusal)

variable {σ : Type} {setup : FeedSetup σ} (conduct : Conduct setup)

namespace Companions

variable {items : List Item} {scored : List (Float × Item)}

/-- The best of some scored items on offer are on offer, with their scores. -/
theorem best_offers {distinct : Prop} (limit : Int)
    (offers : Offers conduct.offered distinct (scored.map Prod.snd)) :
    Offers conduct.offered distinct (best limit scored) := by
  have sorted := offers.perm
    ((Sequence.descending_perm (fun a b => decide (a.1 < b.1)) scored).map Prod.snd)
  have chosen := sorted.sublist ((Sequence.cut_sublist (limit * overfetch) _).map Prod.snd)
  refine ⟨?_, fun holds => ?_⟩
  · intro item member
    obtain ⟨entry, found, rfl⟩ := List.mem_map.mp member
    exact conduct.offered_scored _ _ (chosen.each _ (List.mem_map.mpr ⟨entry, found, rfl⟩))
  · have nodup := chosen.nodup holds
    rw [List.map_map] at nodup
    rw [best, List.map_map]
    exact nodup

/-- The best of some scored items are some of them. -/
theorem length_best_le (limit : Int) (scored : List (Float × Item)) :
    (best limit scored).length ≤ scored.length := by
  rw [best, List.length_map, ← (Sequence.descending_perm _ scored).length_eq]
  exact (Sequence.cut_sublist _ _).length_le

/-- The items scored around a reference are items of the list, in order. -/
theorem around_sublist (reference : Item) (id : String) (items : List Item) :
    ((around reference id items).map Prod.snd).Sublist items := by
  induction items with
  | nil => exact .slnil
  | cons item rest ih =>
    rw [around, List.filterMap_cons]
    split
    · exact ih.cons item
    · next scored found =>
      split at found
      · cases found
      · obtain ⟨_, -, rfl⟩ := Option.map_eq_some_iff.mp found
        exact ih.cons_cons item

/-- The feed around an item is assembled from items on offer, or says that there is no such item,
unless the request is refused. -/
theorem boughtTogether_ends (itemId : Option String) (limit : Option Int) :
    Ends conduct.safe (boughtTogether setup itemId limit)
      (fun feed => ∃ count, limit = some count ∧ 1 ≤ count ∧
        (feed = .nothing "Item not found" ∨
          conduct.Serves conduct.distinct .plain none count feed))
      (fun fault => IsRefusal fault ∧ ¬ (IsFilled itemId ∧ IsPositive limit)) := by
  refine (FeedSetup.requireText_ends "itemId" itemId fun lacks _ refusal =>
    ⟨refusal, fun valid => lacks valid.1⟩).bind fun id _ => ?_
  refine (FeedSetup.requirePositive_ends "limit" limit fun lacks _ refusal =>
    ⟨refusal, fun valid => lacks valid.2⟩).bind ?_
  rintro count ⟨given, positive⟩
  refine (Ends.ofState (conduct.find id)).bind fun reference _ => ?_
  cases reference with
  | none => exact .pure ⟨count, given, positive, .inl rfl⟩
  | some reference =>
    refine (Ends.ofState (conduct.scan _)).bind fun items offers => ?_
    have considered := best_offers conduct count
      (offers.sublist (around_sublist reference id items))
    refine (conduct.filterAndRank considered FilterSpec.plain_typed none).bind ?_
    rintro stage ⟨gathered, staged⟩
    refine (conduct.explainBest_ends considered staged (show 0 ≤ count by omega) [] _).bind
      fun entries assembles => ?_
    exact .pure ⟨count, given, positive, .inr ⟨_, stage.trust, considered, gathered,
      assembles _ rfl rfl rfl, length_best_le _ _⟩⟩

/-- A user's constraints for a look are the blocked vendors of the stated preferences. -/
theorem constraints_ends {safe : σ → Prop} {stated : String → Option Preferences → Prop}
    {faults : Fault → Prop} (loads : ∀ id, Leaves safe (setup.preferences id) (stated id))
    (userId : Option String) :
    Ends safe (constraints setup userId)
      (fun spec => ∃ preferences, spec = .ofUser none none preferences ∧
        ∀ id, userId = some id → id ≠ "" → stated id preferences) faults := by
  have builds : ∀ preferences, (∀ id, userId = some id → id ≠ "" → stated id preferences) →
      Ends safe (ofExcept (FilterSpec.build [] preferences))
        (fun spec => ∃ preferences, spec = .ofUser none none preferences ∧
          ∀ id, userId = some id → id ≠ "" → stated id preferences) faults :=
    fun preferences holds => .ofOk ⟨_, rfl, preferences, rfl, holds⟩
  unfold constraints
  cases userId with
  | none => exact (Ends.ofState (.pure fun id given => by cases given)).bind builds
  | some id =>
    by_cases blank : id = ""
    · subst blank
      refine (Ends.ofState (.pure fun other given filled => ?_)).bind builds
      cases given
      exact absurd rfl filled
    · have filled : (!id.isEmpty) = true := by simpa using blank
      simp only [Option.filter_some, filled, if_true]
      refine (Ends.ofState ((loads id).mono
        fun preferences holds other given _ => ?_)).bind builds
      cases given
      exact holds

/-- The candidates that complete a look are items of the list, in order. -/
theorem completing_items (look : Look) (items : List Item) :
    (completing look items).map Prod.snd = items.filter look.isCompletedBy := by
  rw [completing, List.map_map]
  exact List.map_id _

/-- Some id of a look is not blank, or the request is refused. -/
theorem requireIds_ends {safe : σ → Prop} {faults : Fault → Prop} (itemIds : List String)
    (refused : ¬ (∃ id ∈ itemIds, id ≠ "") → ∀ fault, IsRefusal fault → faults fault) :
    Ends safe
      (Call.ofExcept (FeedSetup.require "itemIds" (!(itemIds.filter (! ·.isEmpty)).isEmpty)))
      (fun _ => True) faults := by
  refine .ofExcept (fun _ _ => trivial) fun fault refusal => ?_
  unfold FeedSetup.require at refusal
  split at refusal
  · cases refusal
  · next blank =>
    cases refusal
    refine refused ?_ _ ⟨_, rfl⟩
    rintro ⟨id, member, filled⟩
    apply blank
    have kept : id ∈ itemIds.filter (! ·.isEmpty) :=
      List.mem_filter.mpr ⟨member, by simpa using filled⟩
    cases found : itemIds.filter (! ·.isEmpty) with
    | nil =>
      rw [found] at kept
      cases kept
    | cons => rfl

/-- The feed for a look is assembled from items on offer, or says that the look has no items,
unless the request is refused. -/
theorem completeLook_ends (itemIds : List String) (userId : Option String) (limit : Option Int) :
    Ends conduct.safe (completeLook setup itemIds userId limit)
      (fun feed => ∃ count, limit = some count ∧ 1 ≤ count ∧
        (feed = .nothing "No reference items found" ∨
          ∃ preferences, (∀ id, userId = some id → id ≠ "" → conduct.stated id preferences) ∧
            conduct.Serves conduct.distinct (.ofUser none none preferences) none count feed))
      (fun fault => IsRefusal fault ∧ ¬ ((∃ id ∈ itemIds, id ≠ "") ∧ IsPositive limit)) := by
  refine (requireIds_ends itemIds fun lacks _ refusal =>
    ⟨refusal, fun valid => lacks valid.1⟩).bind fun _ _ => ?_
  refine (FeedSetup.requirePositive_ends "limit" limit fun lacks _ refusal =>
    ⟨refusal, fun valid => lacks valid.2⟩).bind ?_
  rintro count ⟨given, positive⟩
  refine (Ends.ofState (conduct.scan _)).bind fun items offers => ?_
  dsimp only
  split
  · exact .pure ⟨count, given, positive, .inl rfl⟩
  · refine (constraints_ends conduct.preferences userId).bind ?_
    rintro _ ⟨preferences, rfl, stated⟩
    have found := best_offers conduct count
      (completing_items (Look.ofIds (itemIds.filter (! ·.isEmpty)) items) items ▸
        offers.sublist List.filter_sublist)
    refine (conduct.filterAndRank found (FilterSpec.ofUser_typed _ _ _) none).bind ?_
    rintro stage ⟨gathered, staged⟩
    refine (conduct.explainBest_ends found staged (show 0 ≤ count by omega) [] _).bind
      fun entries assembles => ?_
    exact .pure ⟨count, given, positive, .inr ⟨preferences, stated, _, stage.trust, found,
      gathered, assembles _ rfl rfl rfl, length_best_le _ _⟩⟩

end Companions

end Storefront
