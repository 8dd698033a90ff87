import Storefront.Feed.Stage
/-!
# Trending items and new arrivals

Two feeds that are the same for everyone. Trending items are the newest of the catalog, mixed by
kind; new arrivals are the items added in the last days, best ones first.
-/

namespace Storefront.Arrivals

variable {σ : Type}

/-- How many candidates are fetched for every item shown. -/
def overfetch : Int := 2

/-- Assemble the feed of trending items. -/
def trending (setup : FeedSetup σ) (limit : Option Int) : Call σ Feed := do
  let limit ← Call.ofExcept (FeedSetup.requirePositive "limit" limit)
  let candidates ← Call.ofState (Retrieval.newest setup.world (limit * overfetch))
  let stage ← setup.filterAndRank candidates .plain none
  let shown ← Call.ofExcept (setup.select stage.ranked limit)
  let items ← Call.ofExcept (FeedSetup.explain [] none shown)
  pure {
    items
    trace := FeedTrace.ofFilter candidates.length stage.result
    message := none
    references := none }

/-- How many days an item is new unless a request says otherwise. -/
def defaultDays : Int := 30

/-- The longest span of time in days. -/
def longestSpan : Nat := 999999999

/-- The largest number of days that fits a machine integer. -/
def machineSpan : Nat := 2147483647

/-- The moment some days ago. -/
def daysAgo (now : Moment) (days : Int) : Except Fault Moment :=
  if machineSpan < days.natAbs then .error .spanBeyondMachine
  else if longestSpan < days.natAbs then .error (.spanTooLong days)
  else
    match now.minusDays? days with
    | some moment => .ok moment
    | none => .error .outsideCalendar

/-- When an item was added, read as UTC. -/
def addedAt? (item : Item) : Option Moment := item.createdAt.map Moment.assumingUtc

/-- Whether an item was added at a moment or after it. -/
def isAddedSince (cutoff : Moment) (item : Item) : Bool :=
  match addedAt? item with
  | some added => !(added.isBefore cutoff)
  | none => false

/-- Whether the first item was added before the second. -/
def addedBefore (a b : Item) : Bool :=
  match addedAt? a, addedAt? b with
  | some first, some second => first.isBefore second
  | _, _ => false

/-- The items added since a moment, the newest first. -/
def newSince (cutoff : Moment) (items : List Item) : List Item :=
  Sequence.descending addedBefore (items.filter (isAddedSince cutoff))

/-- The reason that all new arrivals share. -/
def sharedReason : Reason := ⟨"Just added!", .newArrival⟩

/-- Assemble the feed of new arrivals. -/
def newArrivals (setup : FeedSetup σ) (limit days : Option Int) : Call σ Feed := do
  let limit ← Call.ofExcept (FeedSetup.requirePositive "limit" limit)
  let days ← Call.ofExcept (FeedSetup.requirePositive "days" days)
  let cutoff ← Call.ofExcept (daysAgo setup.profile.now days)
  let items ← Call.ofState (setup.scan (.newest none))
  let found := newSince cutoff items
  let stage ← setup.filterAndRank (Sequence.cut (limit * overfetch) found) .plain none
  let items ← Call.ofExcept
    (FeedSetup.explain [] (some sharedReason) (Sequence.cut limit stage.ranked))
  pure {
    items
    trace := { FeedTrace.ofFilter found.length stage.result with
      newItems := some found.length
      cutoff := some cutoff }
    message := none
    references := none }

end Storefront.Arrivals
