import Storefront.Feed.Mixer
import Storefront.Feed.Page
import Storefront.Feed.Retrieval
import Storefront.Vendor.FanOut
/-!
# The stages that feeds share

Every feed passes its candidates through the same stages: the vendors are looked up, the hard
filters are run, the survivors are ranked, and what is shown is explained. Lookups cannot stop a
feed; a fault in the data of a candidate can.
-/

namespace Storefront

/-- What feeds are assembled from. -/
structure FeedSetup (σ : Type) where
  world : Collaborators σ
  profile : Profile.Config
  /-- Whether kinds are mixed in the home feed and among trending items. -/
  mixes : Bool
  lookups : FanOut.Budget

/-- Candidates after the filters and in order. -/
structure Stage where
  ranked : List Ranked
  result : Filter.Result
  trust : TrustMap

namespace FeedSetup

variable {σ : Type}

/-- A parameter that a feed cannot do without. -/
def require (name : String) (isGiven : Bool) : Except Fault Unit :=
  if isGiven then .ok () else .error (.badRequest (name ++ " is required"))

/-- A text that must be given. -/
def requireText (name : String) (text : Option String) : Except Fault String :=
  match text with
  | some text => if text.isEmpty then .error (.badRequest (name ++ " is required")) else .ok text
  | none => .error (.badRequest (name ++ " is required"))

/-- A number that must be given and be at least one. -/
def requirePositive (name : String) (value : Option Int) : Except Fault Int :=
  match value with
  | some value => if value < 1 then .error (.badRequest (name ++ " must be >= 1")) else .ok value
  | none => .error (.badRequest (name ++ " must be >= 1"))

/-- Look up the vendors of some candidates. -/
def gatherTrust (setup : FeedSetup σ) (candidates : List Item) : StateM σ TrustMap :=
  FanOut.gather setup.world.vendor setup.lookups (candidates.map (·.vendor))

/-- Filter and rank some candidates. -/
def filterAndRank (setup : FeedSetup σ) (candidates : List Item) (spec : FilterSpec)
    (budget : Option Float) : Call σ Stage := do
  let trust ← Call.ofState (setup.gatherTrust candidates)
  let result ← Call.ofExcept (Filter.run trust spec candidates)
  let ranked ← Call.ofExcept (Ranker.rank .standard ⟨budget, trust⟩ result.kept)
  pure ⟨ranked, result, trust⟩

/-- The items that are shown: mixed by kind, or the best ones. -/
def select (setup : FeedSetup σ) (ranked : List Ranked) (limit : Int) :
    Except Fault (List Ranked) :=
  if setup.mixes then Mixer.mixRanked .standard ranked limit
  else .ok (Sequence.cut limit ranked)

/-- Explain items from a position on, with a first reason that all of them share. -/
def explainFrom (tags : List String) (shared : Option Reason) (position : Nat) :
    List Ranked → Except Fault (List FeedItem)
  | [] => .ok []
  | ranked :: rest => do
    let explanation ← Explanation.generate .standard tags ranked
    let explanation := match shared with
      | some reason => explanation.prepend reason
      | none => explanation
    let others ← explainFrom tags shared (position + 1) rest
    pure (FeedItem.ofRanked ranked position explanation none :: others)

/-- Explain all items of a feed to a user with a history. -/
def explain (history : List Event) (shared : Option Reason) (ranked : List Ranked) :
    Except Fault (List FeedItem) :=
  explainFrom (Explanation.topTags history Explanation.Rules.standard.topTags) shared 0 ranked

/-- How many recent events explanations look at. -/
def historyLimit : Int := 20

/-- The recent events of a user, or none if the log cannot answer. -/
def history (setup : FeedSetup σ) (userId : String) : StateM σ (List Event) :=
  Profile.recentEvents setup.world userId historyLimit

/-- The stated preferences of a user, or none if they cannot be loaded. -/
def preferences (setup : FeedSetup σ) (userId : String) : StateM σ (Option Preferences) :=
  Profile.statedPreferences setup.world userId

/-- The items of the catalog, or none if the catalog cannot answer. -/
def scan (setup : FeedSetup σ) (query : CatalogQuery) : StateM σ (List Item) :=
  (setup.world.listItems query).orElse []

end FeedSetup

end Storefront
