import Storefront.Feed.Arrivals
import Storefront.Proofs.Feeds.Shared
import Storefront.Proofs.Retrieval
/-!
# Which items are new

The items added within a span of days, dates without an offset read as UTC. A feed of new arrivals
over stores in memory is meant to be assembled from the newest of them and to tell how many they
are. It starts from the catalog listed by date, though, and a catalog that has dates with offsets
next to dates without cannot be listed by date: the feed is then assembled from nothing.
-/

namespace Storefront

open Call (Ends)

namespace Catalog

/-- Whether an item was added at an instant or after it. -/
def isAddedFrom (since : Int) (item : Item) : Bool :=
  (item.createdAt.map Moment.instant).any fun added => decide (since ≤ added)

/-- Whether an item was added at exactly an instant. -/
def isAddedAt (instant : Int) (item : Item) : Bool :=
  item.createdAt.map Moment.instant == some instant

/-- The items of a catalog that were added from an instant on, in the order of the catalog. -/
def addedFrom (catalog : Catalog) (since : Int) : List Item :=
  catalog.values.filter (isAddedFrom since)

/-- A list of the items added from an instant on: all of them, the newest first, and those that were
added at one instant in the order of the catalog. -/
structure ListsAdded (catalog : Catalog) (since : Int) (found : List Item) : Prop where
  all : found.Perm (catalog.addedFrom since)
  newestFirst : found.Pairwise fun first second =>
    ∀ date ∈ first.createdAt, ∀ other ∈ second.createdAt, other.instant ≤ date.instant
  ties : ∀ instant, found.filter (isAddedAt instant) =
    (catalog.addedFrom since).filter (isAddedAt instant)

end Catalog

namespace Arrivals

open Catalog (addedInstant isAddedFrom isAddedAt)

variable {σ : Type} {catalog : Catalog} {cutoff : Moment}

/-- Assemble the feed of new arrivals, up to a limit, from the items found to be new. -/
def ofFound (setup : FeedSetup σ) (limit : Int) (cutoff : Moment) (found : List Item) :
    Call σ Feed := do
  let stage ← setup.filterAndRank (found.take (2 * limit).toNat) .plain none
  let items ← Call.ofExcept
    (FeedSetup.explain [] (some sharedReason) (Sequence.cut limit stage.ranked))
  pure {
    items
    trace := { FeedTrace.ofFilter found.length stage.result with
      newItems := some found.length
      cutoff := some cutoff }
    message := none
    references := none }

section Order

/-- An item is added since a moment exactly if its date is at the moment's instant or after it. -/
theorem isAddedSince_eq (cutoff : Moment) (item : Item) :
    isAddedSince cutoff item = isAddedFrom cutoff.instant item := by
  unfold isAddedSince addedAt? isAddedFrom
  cases item.createdAt with
  | none => rfl
  | some date =>
    -- Reading a date as UTC does not change its instant.
    change (!decide (date.instant < cutoff.instant)) = decide (cutoff.instant ≤ date.instant)
    rw [← decide_not]
    simp only [not_lt]

/-- An item added from an instant on has a date. -/
theorem exists_date {since : Int} {item : Item} (recent : isAddedFrom since item = true) :
    ∃ date, item.createdAt = some date ∧ addedInstant item = date.instant := by
  unfold isAddedFrom at recent
  cases dated : item.createdAt with
  | none =>
    rw [dated] at recent
    cases recent
  | some date =>
    refine ⟨date, rfl, ?_⟩
    rw [addedInstant, dated]
    rfl

/-- Among items with dates the new arrivals are sorted by the instants of their dates. -/
theorem newSince_eq (cutoff : Moment) (items : List Item) :
    newSince cutoff items = Sequence.descending (Sequence.ranksBelow addedInstant)
      (items.filter (isAddedFrom cutoff.instant)) := by
  have picked : items.filter (isAddedSince cutoff) = items.filter (isAddedFrom cutoff.instant) :=
    List.filter_congr fun item _ => isAddedSince_eq cutoff item
  rw [newSince, picked]
  refine Sequence.descending_congr fun first member second other => ?_
  obtain ⟨date, dated, added⟩ := exists_date (List.mem_filter.mp member).2
  obtain ⟨later, alsoDated, alsoAdded⟩ := exists_date (List.mem_filter.mp other).2
  rw [Sequence.ranksBelow, added, alsoAdded, addedBefore, addedAt?, addedAt?, dated, alsoDated]
  rfl

/-- Of the items by date those added from an instant on are the dated ones that were. -/
theorem filter_byDate (catalog : Catalog) (since : Int) :
    catalog.byDate.filter (isAddedFrom since) =
      Sequence.descending (Sequence.ranksBelow addedInstant) (catalog.addedFrom since) := by
  have undated : (catalog.values.filter fun item => item.createdAt.isNone).filter
      (isAddedFrom since) = [] := by
    refine List.filter_eq_nil_iff.mpr fun item member recent => ?_
    obtain ⟨date, dated, -⟩ := exists_date recent
    have without := (List.mem_filter.mp member).2
    rw [dated] at without
    cases without
  have dated : (catalog.values.filter fun item => item.createdAt.isSome).filter
      (isAddedFrom since) = catalog.addedFrom since := by
    rw [List.filter_filter, Catalog.addedFrom]
    refine List.filter_congr fun item _ => ?_
    cases recent : isAddedFrom since item with
    | false => rfl
    | true =>
      obtain ⟨date, dated, -⟩ := exists_date recent
      rw [dated]
      rfl
  rw [Catalog.byDate, List.filter_append, undated, List.append_nil, Sequence.filter_descending,
    dated]

/-- Sorting the items added from an instant on lists them. -/
theorem descending_listsAdded (catalog : Catalog) (since : Int) :
    catalog.ListsAdded since
      (Sequence.descending (Sequence.ranksBelow addedInstant) (catalog.addedFrom since)) where
  all := Sequence.descending_perm _ _
  newestFirst := by
    have sorted : (Sequence.descending (Sequence.ranksBelow addedInstant)
        (catalog.addedFrom since)).Pairwise fun first second =>
          addedInstant second ≤ addedInstant first := Sequence.descending_pairwise _
    refine sorted.imp fun {first second} order date dated other alsoDated => ?_
    rw [addedInstant, addedInstant, dated, alsoDated] at order
    exact order
  ties instant := by
    have ranked : ∀ items : List Item, (∀ item ∈ items, isAddedFrom since item = true) →
        items.filter (isAddedAt instant) =
          items.filter fun item => addedInstant item == instant := by
      intro items recent
      refine List.filter_congr fun item member => ?_
      obtain ⟨date, dated, added⟩ := exists_date (recent item member)
      rw [isAddedAt, added, dated]
      rfl
    have recent : ∀ item ∈ catalog.addedFrom since, isAddedFrom since item = true :=
      fun item member => (List.mem_filter.mp member).2
    rw [ranked _ recent, ranked, Sequence.filter_descending_of_rank]
    exact fun item member => recent item ((Sequence.descending_perm _ _).subset member)

/-- What the feed finds in a catalog: all new items if its dates can be compared, and nothing
otherwise. -/
theorem newSince_latest (catalog : Catalog) (cutoff : Moment) :
    (catalog.DatesCompare →
      catalog.ListsAdded cutoff.instant (newSince cutoff catalog.latest)) ∧
    (¬ catalog.DatesCompare → newSince cutoff catalog.latest = []) := by
  constructor
  · intro compares
    have sorted : newSince cutoff catalog.latest =
        Sequence.descending (Sequence.ranksBelow addedInstant)
          (catalog.addedFrom cutoff.instant) := by
      rw [newSince_eq, (Catalog.latest_eq catalog).1 compares, filter_byDate]
      exact Sequence.descending_eq_self (Sequence.descending_pairwise _)
    rw [sorted]
    exact descending_listsAdded catalog cutoff.instant
  · intro mixed
    rw [(Catalog.latest_eq catalog).2 mixed]
    rfl

end Order

section Runs

/-- A feed made from found items tells how many they are, if they can be filtered and explained. -/
theorem ofFound_ends (setup : FeedSetup σ) (limit : Int) (cutoff : Moment) (found : List Item) :
    Ends (fun _ => True) (ofFound setup limit cutoff found)
      (fun feed => feed.trace.newItems = some found.length)
      fun _ => ∃ item ∈ found, ¬ item.raw.Usable := by
  by_cases usable : ∀ item ∈ found, item.raw.Usable
  · have considered : ∀ item ∈ found.take (2 * limit).toNat, item.raw.Usable :=
      fun item member => usable item (List.mem_of_mem_take member)
    have gathers : Call.Leaves (fun _ => True)
        (setup.gatherTrust (found.take (2 * limit).toNat)) fun _ => True :=
      fun _ _ => ⟨trivial, trivial⟩
    refine (setup.filterAndRank_ends gathers considered FilterSpec.plain_typed none).bind ?_
    rintro stage ⟨-, staged⟩
    have shown : ∀ entry ∈ Sequence.cut limit stage.ranked, entry.item.raw.Usable := by
      intro entry member
      exact considered _ (staged.mem_ranked ((Sequence.cut_sublist _ _).subset member)).1
    obtain ⟨entries, explained, -, -⟩ := FeedSetup.explain_ok [] (some sharedReason) shown
    exact (Ends.ofOk ⟨entries, explained, trivial⟩).bind fun _ (_ : True) => .pure rfl
  · have unusable : ∃ item ∈ found, ¬ item.raw.Usable := by simpa using usable
    have filters : Ends (fun _ => True)
        (setup.filterAndRank (found.take (2 * limit).toNat) .plain none) (fun _ => True)
        fun _ => ∃ item ∈ found, ¬ item.raw.Usable := by
      intro state _
      refine ⟨trivial, ?_⟩
      split
      · trivial
      · exact unusable
    refine filters.bind fun stage _ => ?_
    exact (Ends.ofExcept (fun _ _ => trivial) fun _ _ => unusable).bind
      fun _ (_ : True) => .pure rfl

/-- A valid request for new arrivals is answered from the items found among the newest of the
catalog. -/
theorem newArrivals_outcome (setup : FeedSetup σ) {limit days : Int} (positive : 1 ≤ limit)
    (lasting : 1 ≤ days) (reached : daysAgo setup.profile.now days = .ok cutoff) {state after : σ}
    {items : List Item} (scans : (setup.scan (.newest none)).run state = (items, after)) :
    (newArrivals setup (some limit) (some days)).outcome state =
      (ofFound setup limit cutoff (newSince cutoff items)).outcome after := by
  have limited : FeedSetup.requirePositive "limit" (some limit) = .ok limit :=
    if_neg (by omega)
  have spanned : FeedSetup.requirePositive "days" (some days) = .ok days := if_neg (by omega)
  have twice : ∀ found : List Item,
      Sequence.cut (limit * overfetch) found = found.take (2 * limit).toNat := by
    intro found
    rw [overfetch, Int.mul_comm, Sequence.cut_eq_take (by omega)]
  have scanned : (Call.ofState (setup.scan (.newest none))).outcome state = (.ok items, after) := by
    simp only [Call.ofState, Call.outcome, ExceptT.run_mk, StateT.run_bind, scans]
    rfl
  rw [newArrivals, limited, spanned, Call.outcome_bind, Call.outcome_ofExcept]
  dsimp only
  rw [Call.outcome_bind, Call.outcome_ofExcept]
  dsimp only
  rw [reached, Call.outcome_bind, Call.outcome_ofExcept]
  dsimp only
  rw [Call.outcome_bind, scanned]
  dsimp only
  rw [twice]
  rfl

/-- The cutoff of some days ago is that many days before now. -/
theorem instant_of_daysAgo {now : Moment} {days : Int} (reached : daysAgo now days = .ok cutoff) :
    cutoff.instant = now.instant - days * Moment.perDay := by
  unfold daysAgo Moment.minusDays? at reached
  split at reached
  · cases reached
  · split at reached
    · cases reached
    · dsimp only at reached
      split at reached
      · next moment within =>
        split at within
        · cases within
          cases reached
          simp only [Moment.instant]
          omega
        · cases within
      · cases reached

end Runs

end Arrivals

namespace Memory

open Arrivals (ofFound)

variable {base : Memory} {limit days : Int} {cutoff : Moment} {profile : Profile.Config}

/-- A valid request for new arrivals over stores is answered from the newest items of the catalog,
and the stores stay as they are. -/
theorem newArrivals_outcome (embed : Embedding) (mixes : Bool) (lookups : FanOut.Budget)
    (positive : 1 ≤ limit) (lasting : 1 ≤ days)
    (reached : Arrivals.daysAgo profile.now days = .ok cutoff) :
    (Arrivals.newArrivals (feedSetup embed profile mixes lookups) (some limit)
        (some days)).outcome base =
      (ofFound (feedSetup embed profile mixes lookups) limit cutoff
        (Arrivals.newSince cutoff base.catalog.latest)).outcome base :=
  Arrivals.newArrivals_outcome (feedSetup embed profile mixes lookups) positive lasting reached
    (ask_orElse_run _ _ base)

/-- A feed made from found items tells how many they are, and it is given if their rows can be
used. -/
theorem ofFound_tells (setup : FeedSetup Memory) (limit : Int) (cutoff : Moment) (base : Memory)
    (found : List Item) :
    (∀ feed, ((ofFound setup limit cutoff found).outcome base).1 = .ok feed →
      feed.trace.newItems = some found.length) ∧
    ((∀ item ∈ found, item.raw.Usable) →
      ∃ feed, ((ofFound setup limit cutoff found).outcome base).1 = .ok feed) := by
  have ended := (Arrivals.ofFound_ends setup limit cutoff found base trivial).2
  cases given : ((ofFound setup limit cutoff found).outcome base).1 with
  | ok feed =>
    rw [given] at ended
    refine ⟨fun other same => ?_, fun _ => ⟨feed, rfl⟩⟩
    cases same
    exact ended
  | error fault =>
    rw [given] at ended
    obtain ⟨item, member, unusable⟩ := ended
    refine ⟨fun feed same => ?_, fun usable => absurd (usable item member) unusable⟩
    cases same

/-- A valid request for new arrivals over stores is assembled from the newest of the items added
within its days, and tells how many these are, exactly if the dates of the catalog can be compared
or there are no such items. If the dates can be compared, then a feed is given unless the row of
such an item cannot be used. If they cannot be compared, the feed is assembled from nothing and
tells of no item. -/
theorem newArrivals_tell_iff (embed : Embedding) (mixes : Bool) (lookups : FanOut.Budget)
    (positive : 1 ≤ limit) (lasting : 1 ≤ days)
    (reached : Arrivals.daysAgo profile.now days = .ok cutoff) :
    let setup := feedSetup embed profile mixes lookups
    let outcome := (Arrivals.newArrivals setup (some limit) (some days)).outcome base
    let since := profile.now.instant - days * Moment.perDay
    ((∃ found, base.catalog.ListsAdded since found ∧
        outcome = (ofFound setup limit cutoff found).outcome base) ↔
      base.catalog.DatesCompare ∨ base.catalog.addedFrom since = []) ∧
    (base.catalog.DatesCompare →
      (∀ feed, outcome.1 = .ok feed →
        feed.trace.newItems = some (base.catalog.addedFrom since).length) ∧
      ((∀ item ∈ base.catalog.addedFrom since, item.raw.Usable) →
        ∃ feed, outcome.1 = .ok feed)) ∧
    (¬ base.catalog.DatesCompare →
      outcome = (ofFound setup limit cutoff []).outcome base ∧
      ∃ feed, outcome.1 = .ok feed ∧ feed.trace.newItems = some 0) := by
  intro setup outcome since
  have answered : outcome = (ofFound setup limit cutoff
      (Arrivals.newSince cutoff base.catalog.latest)).outcome base :=
    newArrivals_outcome embed mixes lookups positive lasting reached
  have same : cutoff.instant = since := Arrivals.instant_of_daysAgo reached
  obtain ⟨lists, lacks⟩ := Arrivals.newSince_latest base.catalog cutoff
  rw [same] at lists
  have empty : ¬ base.catalog.DatesCompare →
      outcome = (ofFound setup limit cutoff []).outcome base ∧
      ∃ feed, outcome.1 = .ok feed ∧ feed.trace.newItems = some 0 := by
    intro mixed
    rw [lacks mixed] at answered
    obtain ⟨tells, gives⟩ := ofFound_tells setup limit cutoff base []
    obtain ⟨feed, given⟩ := gives fun item member => absurd member List.not_mem_nil
    refine ⟨answered, feed, ?_, tells feed given⟩
    rw [answered, given]
  refine ⟨⟨?_, ?_⟩, fun compares => ⟨?_, ?_⟩, empty⟩
  · rintro ⟨found, listed, made⟩
    by_contra neither
    obtain ⟨mixed, present⟩ := not_or.mp neither
    obtain ⟨-, feed, given, told⟩ := empty mixed
    rw [made] at given
    have counted := (ofFound_tells setup limit cutoff base found).1 feed given
    rw [told] at counted
    have gone : found = [] := List.eq_nil_of_length_eq_zero (Option.some.inj counted).symm
    rw [gone] at listed
    exact present listed.all.nil_eq.symm
  · intro either
    by_cases compares : base.catalog.DatesCompare
    · exact ⟨_, lists compares, answered⟩
    · have gone := either.resolve_left compares
      refine ⟨[], ⟨?_, .nil, fun instant => ?_⟩, (empty compares).1⟩
      · rw [gone]
      · rw [gone]
  · intro feed given
    rw [answered] at given
    rw [(ofFound_tells setup limit cutoff base _).1 feed given, (lists compares).all.length_eq]
  · intro usable
    rw [answered]
    exact (ofFound_tells setup limit cutoff base _).2 fun item member =>
      usable item ((lists compares).all.subset member)

section Sample

/-- An item added on a day of the year 2025, on a clock with an offset or without one. -/
def sampleArrival (id : String) (day : Int) (offset : Option Int) : Item :=
  ⟨id, id, none, 20.0, "USD", "loom", none, [], [], none, none,
    some ⟨63900000000000000 + day * Moment.perDay, offset⟩, none, .garment none none⟩

/-- Stores with an old belt, and a shirt and a scarf that are new. -/
def sampleArrivals (shirt scarf : Option Int) : Memory :=
  ofParts [sampleArrival "belt" 10 none, sampleArrival "shirt" 98 shirt,
    sampleArrival "scarf" 99 scarf] [] []

/-- A setup over these stores, some days after the scarf was added. -/
def sampleToday : Profile.Config := ⟨4, ⟨63900000000000000 + 100 * Moment.perDay, some 0⟩⟩

/-- The number of new items that the feed of five new arrivals of thirty days tells. -/
def sampleTold (base : Memory) : Option Nat :=
  ((Arrivals.newArrivals (feedSetup none sampleToday false ⟨4, true⟩) (some 5) (some 30)).outcome
    base).1.toOption.bind fun feed => feed.trace.newItems

/-- If no date has an offset, the feed tells of the scarf and the shirt. -/
theorem newArrivals_tell_iff_sample :
    1 ≤ (5 : Int) ∧ 1 ≤ (30 : Int) ∧
    Arrivals.daysAgo sampleToday.now 30 =
      .ok ⟨63900000000000000 + 70 * Moment.perDay, some 0⟩ ∧
    (sampleArrivals none none).catalog.DatesCompare ∧
    sampleTold (sampleArrivals none none) = some 2 ∧
    ∃ found, (sampleArrivals none none).catalog.ListsAdded
        (63900000000000000 + 70 * Moment.perDay) found ∧
      (Arrivals.newArrivals (feedSetup none sampleToday false ⟨4, true⟩) (some 5)
          (some 30)).outcome (sampleArrivals none none) =
        (ofFound (feedSetup none sampleToday false ⟨4, true⟩) 5
          ⟨63900000000000000 + 70 * Moment.perDay, some 0⟩ found).outcome
            (sampleArrivals none none) := by
  have reached : Arrivals.daysAgo sampleToday.now 30 =
      .ok ⟨63900000000000000 + 70 * Moment.perDay, some 0⟩ := by decide +kernel
  have compares : (sampleArrivals none none).catalog.DatesCompare := by decide +kernel
  refine ⟨by decide, by decide, reached, compares, by decide +kernel, ?_⟩
  exact (newArrivals_tell_iff none false ⟨4, true⟩ (by decide) (by decide) reached).1.mpr
    (.inl compares)

/-- If only the date of the scarf has an offset, both are new as before, and the feed tells of no
item. -/
theorem mixed_dates_hide_arrivals :
    ((sampleArrivals none (some 0)).catalog.addedFrom
      (63900000000000000 + 70 * Moment.perDay)).map (·.id) = ["shirt", "scarf"] ∧
    ¬ (sampleArrivals none (some 0)).catalog.DatesCompare ∧
    sampleTold (sampleArrivals none (some 0)) = some 0 :=
  ⟨by decide +kernel, by decide +kernel, by decide +kernel⟩

end Sample

end Memory

end Storefront
