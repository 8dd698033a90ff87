import Storefront.Proofs.Guarantees
import Storefront.Proofs.Feeds.Vendors
import Storefront.Proofs.Outages
/-!
# Feeds survive their collaborators

If the items that the collaborators list and find have ordinary figures, every valid request gets
its feed, whichever calls fail; and it is the feed over collaborators that give empty answers
instead.
-/

namespace Storefront

open Call (Ends)

variable {σ : Type}

/-- From every state two calls end alike, and from the safe states with an answer if the request is
valid. -/
def Call.Alike {α : Type} (safe : σ → Prop) (valid : Prop) (failing excused : Call σ α) : Prop :=
  ∀ state, excused.outcome state = failing.outcome state ∧
    (safe state → valid → ∃ answer, (failing.outcome state).1 = .ok answer)

/-- Two calls that are the same end alike; a call that refuses only requests that are not valid
answers the valid ones. -/
theorem Call.Alike.of_ends {α : Type} {safe : σ → Prop} {valid : Prop} {failing excused : Call σ α}
    {post : α → Prop} {faults : Fault → Prop} (same : excused = failing)
    (ends : Ends safe failing post faults) (refused : ∀ fault, faults fault → ¬ valid) :
    Call.Alike safe valid failing excused := by
  intro state
  rw [same]
  exact ⟨rfl, fun kept => (ends.answers kept refused fun _ holds => holds).given⟩

/-- Whatever the collaborators do and whichever of their calls fail, every feed ends as it does over
collaborators that give empty answers in place of failures, and it answers every valid request, if
the items of the collaborators have ordinary figures. -/
theorem feeds_survive {failing excused : Collaborators σ} (excuses : failing.Excuses excused)
    {safe : σ → Prop} (supplies : failing.Supplies safe) (setup : FeedSetup σ) :
    (∀ request : Home.Request, Call.Alike safe request.IsValid
      (Home.feed (setup.over failing) request) (Home.feed (setup.over excused) request)) ∧
    (∀ request : Vendors.Request, Call.Alike safe request.IsValid
      (Vendors.feed (setup.over failing) request) (Vendors.feed (setup.over excused) request)) ∧
    (∀ limit, Call.Alike safe (IsPositive limit)
      (Arrivals.trending (setup.over failing) limit)
      (Arrivals.trending (setup.over excused) limit)) ∧
    (∀ limit days, Call.Alike safe (Arrivals.IsInRange setup.profile.now limit days)
      (Arrivals.newArrivals (setup.over failing) limit days)
      (Arrivals.newArrivals (setup.over excused) limit days)) ∧
    (∀ itemId limit, Call.Alike safe (IsFilled itemId ∧ IsPositive limit)
      (Companions.boughtTogether (setup.over failing) itemId limit)
      (Companions.boughtTogether (setup.over excused) itemId limit)) ∧
    ∀ itemIds userId limit, Call.Alike safe ((∃ id ∈ itemIds, id ≠ "") ∧ IsPositive limit)
      (Companions.completeLook (setup.over failing) itemIds userId limit)
      (Companions.completeLook (setup.over excused) itemIds userId limit) := by
  let conduct := supplies.conduct setup
  refine ⟨fun request => ?home, fun request => ?vendors, fun limit => ?trending,
    fun limit days => ?newArrivals, fun itemId limit => ?boughtTogether,
    fun itemIds userId limit => ?completeLook⟩
  case home =>
    exact .of_ends (excuses.home_eq setup request) (Home.feed_ends conduct request)
      (fun _ fails => fails.2)
  case vendors =>
    exact .of_ends (excuses.vendors_eq setup request) (Vendors.feed_ends conduct request)
      (fun _ fails => fails.2)
  case trending =>
    exact .of_ends (excuses.trending_eq setup limit) (Arrivals.trending_ends conduct limit)
      (fun _ fails => fails.2)
  case newArrivals =>
    exact .of_ends (excuses.newArrivals_eq setup limit days)
      (Arrivals.newArrivals_ends conduct limit days) fun _ fails => fails.not_inRange
  case boughtTogether =>
    exact .of_ends (excuses.boughtTogether_eq setup itemId limit)
      (Companions.boughtTogether_ends conduct itemId limit) (fun _ fails => fails.2)
  case completeLook =>
    exact .of_ends (excuses.completeLook_eq setup itemIds userId limit)
      (Companions.completeLook_ends conduct itemIds userId limit) (fun _ fails => fails.2)

/-- Collaborators over the sample stores whose second call and third call fail, or are excused. -/
def sampleOutage (isExcused : Bool) : Collaborators (Counted Memory) :=
  (Memory.withEmbedding none).struck
    (fun call => if call = 1 ∨ call = 2 then some .timedOut else none) isExcused

/-- The setup over the sample stores, seen from the counted calls. -/
def sampleCounted : FeedSetup (Counted Memory) :=
  ⟨sampleOutage false, Memory.sampleSetup.profile, true, Memory.sampleLookups⟩

/-- Without the preferences and without the standing of the first vendor, the look of the shirt is
completed by what is not held back otherwise: the belt is no longer blocked. -/
theorem feeds_survive_sample :
    (sampleOutage false).Excuses (sampleOutage true) ∧
    (sampleOutage false).Supplies (Memory.sample.Agrees ·.rest) ∧
    ((Companions.completeLook (sampleCounted.over (sampleOutage false)) ["shirt"] (some "ada")
      (some 3)).outcome ⟨0, Memory.sample⟩).1.toOption.map (·.items.map (·.item.id)) =
        some ["scarf", "belt"] ∧
    Call.Alike (Memory.sample.Agrees ·.rest) ((∃ id ∈ ["shirt"], id ≠ "") ∧ IsPositive (some 3))
      (Companions.completeLook (sampleCounted.over (sampleOutage false)) ["shirt"] (some "ada")
        (some 3))
      (Companions.completeLook (sampleCounted.over (sampleOutage true)) ["shirt"] (some "ada")
        (some 3)) := by
  have excuses : (sampleOutage false).Excuses (sampleOutage true) :=
    Collaborators.struck_excuses _ _
  have supplies : (sampleOutage false).Supplies (Memory.sample.Agrees ·.rest) :=
    (Memory.supplies none fun item member => (Memory.sample_ordinary item member).figures).struck _
      false
  exact ⟨excuses, supplies, by decide +kernel,
    (feeds_survive excuses supplies sampleCounted).2.2.2.2.2 ["shirt"] (some "ada") (some 3)⟩

end Storefront
