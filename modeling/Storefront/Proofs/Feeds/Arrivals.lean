import Storefront.Feed.Arrivals
import Storefront.Proofs.Feeds.Shared
/-!
# What the feeds of trending items and new arrivals return

Both are assembled from a list of the catalog. A request for new arrivals may also ask for days
before the calendar begins, which is a fault of its own.
-/

namespace Storefront

open Call (Ends IsRefusal)

variable {σ : Type} {setup : FeedSetup σ} (conduct : Conduct setup)

namespace Arrivals

/-- A wall clock within the calendar that has shown all of the last 365 days. -/
def HasYearBehind (now : Moment) : Prop :=
  365 * Moment.perDay ≤ now.wall ∧ now.wall < Moment.wallEnd

/-- A clock with a year behind it reaches back any number of days up to 365. -/
theorem daysAgo_ok {now : Moment} (clock : HasYearBehind now) {span : Int}
    (positive : 1 ≤ span) (short : span ≤ 365) : ∃ cutoff, daysAgo now span = .ok cutoff := by
  obtain ⟨late, early⟩ := clock
  have day : Moment.perDay = 86400000000 := rfl
  have within : 0 ≤ now.wall - span * Moment.perDay ∧
      now.wall - span * Moment.perDay < Moment.wallEnd := by
    rw [day] at late ⊢
    omega
  have machine : ¬ machineSpan < span.natAbs := by
    unfold machineSpan
    omega
  have longest : ¬ longestSpan < span.natAbs := by
    unfold longestSpan
    omega
  refine ⟨{ now with wall := now.wall - span * Moment.perDay }, ?_⟩
  simp only [daysAgo, machine, longest, Moment.minusDays?, within, and_self, if_true, if_false]

/-- A request for new arrivals of up to 365 days, on a clock that reaches back to them. -/
def IsInRange (now : Moment) (limit days : Option Int) : Prop :=
  IsPositive limit ∧ (∃ span, days = some span ∧ 1 ≤ span ∧ span ≤ 365) ∧ HasYearBehind now

/-- How a request for new arrivals fails: a number is refused, or its days begin before the
calendar. -/
def Fails (now : Moment) (limit days : Option Int) (fault : Fault) : Prop :=
  IsRefusal fault ∧ ¬ (IsPositive limit ∧ IsPositive days) ∨
    ∃ span, days = some span ∧ daysAgo now span = .error fault

/-- A request in range does not fail. -/
theorem Fails.not_inRange {now : Moment} {limit days : Option Int} {fault : Fault}
    (fails : Fails now limit days fault) : ¬ IsInRange now limit days := by
  rintro ⟨limited, ⟨span, lasting, positive, short⟩, clock⟩
  rcases fails with ⟨-, lacks⟩ | ⟨other, same, early⟩
  · exact lacks ⟨limited, span, lasting, positive⟩
  · cases lasting.symm.trans same
    obtain ⟨cutoff, reached⟩ := daysAgo_ok clock positive short
    cases early.symm.trans reached

/-- The feed of trending items is assembled from items on offer, unless the limit is refused. -/
theorem trending_ends (limit : Option Int) :
    Ends conduct.safe (trending setup limit)
      (fun feed => ∃ count, limit = some count ∧ 1 ≤ count ∧
        conduct.Serves conduct.distinct .plain none count feed ∧
        (setup.mixes = true → feed.HeadCapped))
      (fun fault => IsRefusal fault ∧ ¬ IsPositive limit) := by
  refine (FeedSetup.requirePositive_ends "limit" limit fun lacks _ refusal =>
    ⟨refusal, lacks⟩).bind ?_
  rintro count ⟨given, positive⟩
  refine (Ends.ofState (conduct.newest _)).bind fun candidates offers => ?_
  refine (conduct.filterAndRank offers FilterSpec.plain_typed none).bind ?_
  rintro stage ⟨gathered, staged⟩
  refine (conduct.select_ends staged (show 0 ≤ count by omega)).bind ?_
  rintro shown ⟨selected, capped⟩
  refine (conduct.explain_ends offers staged selected [] none).bind ?_
  rintro entries ⟨tells, assembles⟩
  refine .pure ⟨count, given, positive, ⟨candidates, stage.trust, offers, gathered,
    assembles _ rfl rfl rfl, Nat.le_refl _⟩, ?_⟩
  exact fun mixes => Feed.headCapped_of_tells tells (capped mixes)

/-- The feed of new arrivals is assembled from items on offer, unless a number is refused or the
span of days begins before the calendar. -/
theorem newArrivals_ends (limit days : Option Int) :
    Ends conduct.safe (newArrivals setup limit days)
      (fun feed => ∃ count, limit = some count ∧ 1 ≤ count ∧
        conduct.Serves conduct.distinct .plain none count feed)
      (Fails setup.profile.now limit days) := by
  refine (FeedSetup.requirePositive_ends "limit" limit fun lacks _ refusal =>
    .inl ⟨refusal, fun valid => lacks valid.1⟩).bind ?_
  rintro count ⟨given, positive⟩
  refine (FeedSetup.requirePositive_ends "days" days fun lacks _ refusal =>
    .inl ⟨refusal, fun valid => lacks valid.2⟩).bind ?_
  rintro span ⟨lasting, -⟩
  have cutoffs : Ends conduct.safe (Call.ofExcept (daysAgo setup.profile.now span))
      (fun _ => True) fun fault => ∃ span, days = some span ∧
        daysAgo setup.profile.now span = .error fault :=
    .ofExcept (fun _ _ => trivial) fun _ fails => ⟨span, lasting, fails⟩
  refine (cutoffs.mono (fun _ _ => trivial) fun _ fails => .inr fails).bind fun cutoff _ => ?_
  refine (Ends.ofState (conduct.scan _)).bind fun items offers => ?_
  have found : Offers conduct.offered conduct.distinct (newSince cutoff items) :=
    (offers.sublist List.filter_sublist).perm (Sequence.descending_perm _ _)
  have considered := found.sublist (Sequence.cut_sublist (count * overfetch) _)
  refine (conduct.filterAndRank considered FilterSpec.plain_typed none).bind ?_
  rintro stage ⟨gathered, staged⟩
  refine (conduct.explainBest_ends considered staged (show 0 ≤ count by omega) [] _).bind
    fun entries assembles => ?_
  exact .pure ⟨count, given, positive, _, stage.trust, considered, gathered,
    assembles _ rfl rfl rfl, (Sequence.cut_sublist _ _).length_le⟩

end Arrivals

end Storefront
