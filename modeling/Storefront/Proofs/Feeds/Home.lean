import Storefront.Feed.Home
import Storefront.Proofs.Feeds.Shared
/-!
# What the home feed returns

Candidates are retrieved, so no two share an id even if lists of the catalog are not distinct. The
constraints are those of the request and of the stated preferences.
-/

namespace Storefront

open Call (Leaves Ends IsRefusal)

variable {σ : Type} {setup : FeedSetup σ} (conduct : Conduct setup)

namespace Home

/-- A request that names a user and asks for at least one item. -/
def Request.IsValid (request : Request) : Prop := IsFilled request.userId ∧ IsPositive request.limit

/-- Computing the vectors of a request leaves a safe state. -/
theorem vectors_leaves {safe : σ → Prop} (steady : setup.Steady safe) (userId : String)
    (sessionId : Option String) : Leaves safe (vectors setup userId sessionId) fun _ => True := by
  refine (steady.computeStyle setup.profile userId).bind fun profile _ => ?_
  dsimp only
  split
  · exact .pure trivial
  · exact (steady.sessionStyle _ _ _ _).bind fun _ _ => .pure trivial

/-- A user's constraints in the home feed are the budget, the deadline and the blocked vendors. -/
theorem constraints_eq (request : Request) (preferences : Option Preferences) :
    constraints request preferences =
      .ok (.ofUser request.budget request.deadlineDays preferences) := by
  rcases request with ⟨_, _, _, _ | budget, _ | deadline⟩ <;> rfl

/-- The home feed is assembled from items on offer within the budget, unless the request is
refused. -/
theorem feed_ends (request : Request) :
    Ends conduct.safe (feed setup request)
      (fun feed => ∃ userId count preferences, request.userId = some userId ∧
        request.limit = some count ∧ 1 ≤ count ∧ conduct.stated userId preferences ∧
        conduct.Serves True (.ofUser request.budget request.deadlineDays preferences)
          request.budget count feed ∧
        (setup.mixes = true → feed.HeadCapped))
      (fun fault => IsRefusal fault ∧ ¬ request.IsValid) := by
  refine (FeedSetup.requireText_ends "userId" request.userId fun lacks _ refusal =>
    ⟨refusal, fun valid => lacks valid.1⟩).bind ?_
  rintro userId ⟨user, -⟩
  refine (FeedSetup.requirePositive_ends "limit" request.limit fun lacks _ refusal =>
    ⟨refusal, fun valid => lacks valid.2⟩).bind ?_
  rintro count ⟨given, positive⟩
  refine (Ends.ofState (vectors_leaves conduct.steady userId request.sessionId)).bind ?_
  rintro ⟨profile, session⟩ -
  refine (Ends.ofState (conduct.candidates _)).bind fun candidates offers => ?_
  refine (Ends.ofState (conduct.preferences userId)).bind fun preferences stated => ?_
  refine (Ends.ofOk ⟨_, constraints_eq request preferences, rfl⟩).bind ?_
  rintro _ rfl
  refine (conduct.filterAndRank offers (FilterSpec.ofUser_typed _ _ _) request.budget).bind ?_
  rintro stage ⟨gathered, staged⟩
  refine (conduct.select_ends staged (show 0 ≤ count by omega)).bind ?_
  rintro shown ⟨selected, capped⟩
  refine (Ends.ofState (conduct.recent userId _)).bind fun history _ => ?_
  refine (conduct.explain_ends offers staged selected history none).bind ?_
  rintro entries ⟨tells, assembles⟩
  refine .pure ⟨userId, count, preferences, user, given, positive, stated,
    ⟨candidates, stage.trust, offers, gathered, assembles _ rfl rfl rfl, Nat.le_refl _⟩, ?_⟩
  exact fun mixes => Feed.headCapped_of_tells tells (capped mixes)

end Home

end Storefront
