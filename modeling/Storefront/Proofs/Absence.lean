import Storefront.Feed.Arrivals
import Storefront.Feed.Companions
import Storefront.Feed.Home
import Storefront.Feed.Vendors
import Storefront.Proofs.Calls
/-!
# Failing calls and empty answers

Collaborators are compared with others that give an empty answer in place of some of their
failures. Which failures these are is open: it may depend on the call, its parameters and the whole
state of the collaborators. Every step in which a feed makes a call is the same over both, because
it falls back on just that empty answer; so every feed is the same call.
-/

namespace Storefront

variable {σ : Type}

namespace Call

variable {α : Type} {failing excused : Call σ α} {nothing : α}

/-- From every state the second call ends like the first one, or it gives the empty answer where the
first one fails. -/
def Excused (failing excused : Call σ α) (nothing : α) : Prop :=
  ∀ state, excused.outcome state = failing.outcome state ∨
    ∃ fault changed, failing.outcome state = (.error fault, changed) ∧
      excused.outcome state = (.ok nothing, changed)

/-- With the empty answer as the fallback, a call and the excused one are the same step. -/
theorem Excused.orElse_eq (excuses : Excused failing excused nothing) :
    excused.orElse nothing = failing.orElse nothing := by
  funext state
  change (excused.orElse nothing).run state = (failing.orElse nothing).run state
  rw [orElse_run, orElse_run]
  rcases excuses state with same | ⟨fault, changed, fails, gives⟩
  · rw [same]
  · rw [fails, gives]

end Call

namespace FanOut

variable {failing excused : String → StateM σ LookupOutcome}

/-- From every state the second lookup ends like the first one, or it finds nothing where the first
one fails. -/
def Excused (failing excused : StateM σ LookupOutcome) : Prop :=
  ∀ state, excused.run state = failing.run state ∨
    ∃ changed, failing.run state = (.failed, changed) ∧ excused.run state = (.unknown, changed)

/-- A chunk gathers the same standings, and is late the same way, with excused lookups. -/
theorem lookUpChunk_eq (excuses : ∀ vendor, Excused (failing vendor) (excused vendor))
    (vendors : List String) :
    ∀ free, lookUpChunk excused free vendors = lookUpChunk failing free vendors := by
  induction vendors with
  | nil => exact fun _ => rfl
  | cons vendor rest ih =>
    intro free
    cases free with
    | zero => rfl
    | succ free =>
      funext state
      change (lookUpChunk excused (free + 1) (vendor :: rest)).run state =
        (lookUpChunk failing (free + 1) (vendor :: rest)).run state
      simp only [lookUpChunk, StateT.run_bind, ih]
      rcases excuses vendor state with same | ⟨changed, fails, gives⟩
      · rw [same]
      · rw [fails, gives]
        rfl

/-- All chunks gather the same standings with excused lookups. -/
theorem lookUpChunks_eq (excuses : ∀ vendor, Excused (failing vendor) (excused vendor))
    (chunks : List (List String)) : lookUpChunks excused chunks = lookUpChunks failing chunks := by
  induction chunks with
  | nil => rfl
  | cons chunk rest ih => simp only [lookUpChunks, lookUpChunk_eq excuses, ih]

end FanOut

/-- Collaborators that give an empty answer in place of some failures of others: no items, no item,
no events, no preferences, no vector, no standing, or just success. -/
structure Collaborators.Excuses (failing excused : Collaborators σ) : Prop where
  listItems : ∀ query, Call.Excused (failing.listItems query) (excused.listItems query) []
  findItem : ∀ key, Call.Excused (failing.findItem key) (excused.findItem key) none
  search : Option.Rel
    (fun search excused => ∀ query, Call.Excused (search query) (excused query) [])
    failing.search excused.search
  recentEvents : ∀ userId limit since, Call.Excused (failing.recentEvents userId limit since)
    (excused.recentEvents userId limit since) []
  preferences : Option.Rel
    (fun load excused => ∀ userId, Call.Excused (load userId) (excused userId) none)
    failing.preferences excused.preferences
  embed : Option.Rel (fun embed excused => ∀ text, Call.Excused (embed text) (excused text) none)
    failing.embed excused.embed
  saveProfile : ∀ record, Call.Excused (failing.saveProfile record) (excused.saveProfile record) ()
  vendor : Option.Rel
    (fun lookUp excused => ∀ vendor, FanOut.Excused (lookUp vendor) (excused vendor))
    failing.vendor excused.vendor

/-- Related optional services are both absent, or both there and related. -/
theorem related_cases {α : Type} {related : α → α → Prop} {first second : Option α}
    (both : Option.Rel related first second) :
    first = none ∧ second = none ∨ ∃ a b, first = some a ∧ second = some b ∧ related a b := by
  cases both with
  | none => exact .inl ⟨rfl, rfl⟩
  | some holds => exact .inr ⟨_, _, rfl, rfl, holds⟩

/-- A setup over other collaborators. -/
def FeedSetup.over (setup : FeedSetup σ) (world : Collaborators σ) : FeedSetup σ :=
  { setup with world }

namespace Collaborators.Excuses

variable {failing excused : Collaborators σ} (excuses : failing.Excuses excused)
include excuses

section Profiles

open Profile

theorem recentEvents_eq (userId : String) (limit : Int) :
    Profile.recentEvents excused userId limit = Profile.recentEvents failing userId limit :=
  (excuses.recentEvents userId limit none).orElse_eq

theorem loadItems_eq (keys : List Key) : loadItems excused keys = loadItems failing keys := by
  induction keys with
  | nil => rfl
  | cons key rest ih => simp only [loadItems, (excuses.findItem key).orElse_eq, ih]

theorem ofEvents_eq (config : Config) (now : Moment) (events : List Event) :
    ofEvents excused config now events = ofEvents failing config now events := by
  simp only [ofEvents, excuses.loadItems_eq]

theorem statedStyle_eq (preferences : Preferences) :
    statedStyle excused preferences = statedStyle failing preferences := by
  unfold statedStyle
  rcases related_cases excuses.embed with ⟨fails, gives⟩ | ⟨_, _, fails, gives, each⟩
  · rw [fails, gives]
  · rw [fails, gives]
    cases preferences.text? with
    | none => rfl
    | some text => exact (each text).orElse_eq

theorem statedPreferences_eq (userId : String) :
    statedPreferences excused userId = statedPreferences failing userId := by
  unfold statedPreferences
  rcases related_cases excuses.preferences with ⟨fails, gives⟩ | ⟨_, _, fails, gives, each⟩
  · rw [fails, gives]
  · rw [fails, gives]
    exact (each userId).orElse_eq

theorem keep_eq (config : Config) (userId : String) (style fit : Option (List Float))
    (kind : Option String) :
    keep excused config userId style fit kind = keep failing config userId style fit kind := by
  simp only [keep, (excuses.saveProfile _).orElse_eq]

theorem computeStyle_eq (config : Config) (userId : String) :
    computeStyle excused config userId = computeStyle failing config userId := by
  simp only [computeStyle, excuses.recentEvents_eq, excuses.statedPreferences_eq,
    excuses.statedStyle_eq, excuses.ofEvents_eq, excuses.keep_eq]

theorem sessionStyle_eq (config : Config) (userId sessionId : String) (limit : Int) :
    sessionStyle excused config userId sessionId limit =
      sessionStyle failing config userId sessionId limit := by
  simp only [sessionStyle, excuses.recentEvents_eq, excuses.ofEvents_eq]

end Profiles

section Candidates

open Retrieval

theorem newest_eq (limit : Int) : newest excused limit = newest failing limit := by
  simp only [newest, (excuses.listItems _).orElse_eq]

theorem personalized_eq (request : Request) :
    personalized excused request = personalized failing request := by
  unfold personalized
  rcases related_cases excuses.search with ⟨fails, gives⟩ | ⟨_, _, fails, gives, each⟩
  · rw [fails, gives]
  · rw [fails, gives]
    cases request.vector with
    | none => rfl
    | some vector => exact (each _).orElse_eq

theorem candidates_eq (request : Request) :
    candidates excused request = candidates failing request := by
  simp only [candidates, excuses.personalized_eq, excuses.newest_eq]

theorem gather_eq (lookups : FanOut.Budget) (vendors : List String) :
    FanOut.gather excused.vendor lookups vendors =
      FanOut.gather failing.vendor lookups vendors := by
  unfold FanOut.gather
  rcases related_cases excuses.vendor with ⟨fails, gives⟩ | ⟨_, _, fails, gives, each⟩
  · rw [fails, gives]
  · simp only [fails, gives, FanOut.lookUpChunks_eq each]

end Candidates

section Feeds

variable (setup : FeedSetup σ)

theorem scan_eq (query : CatalogQuery) :
    (setup.over excused).scan query = (setup.over failing).scan query :=
  (excuses.listItems query).orElse_eq

theorem filterAndRank_eq (candidates : List Item) (spec : FilterSpec) (budget : Option Float) :
    (setup.over excused).filterAndRank candidates spec budget =
      (setup.over failing).filterAndRank candidates spec budget := by
  have gathers : (setup.over excused).gatherTrust candidates =
      (setup.over failing).gatherTrust candidates := excuses.gather_eq _ _
  simp only [FeedSetup.filterAndRank, gathers]

theorem home_eq (request : Home.Request) :
    Home.feed (setup.over excused) request = Home.feed (setup.over failing) request := by
  have vectors : ∀ userId, Home.vectors (setup.over excused) userId request.sessionId =
      Home.vectors (setup.over failing) userId request.sessionId := by
    intro userId
    simp only [Home.vectors, FeedSetup.over, excuses.computeStyle_eq, excuses.sessionStyle_eq]
  simp only [Home.feed, vectors, excuses.filterAndRank_eq, FeedSetup.preferences,
    FeedSetup.history]
  simp only [FeedSetup.over, excuses.candidates_eq, excuses.statedPreferences_eq,
    excuses.recentEvents_eq]
  rfl

theorem vendors_eq (request : Vendors.Request) :
    Vendors.feed (setup.over excused) request = Vendors.feed (setup.over failing) request := by
  simp only [Vendors.feed, FeedSetup.over, FeedSetup.gatherTrust, FeedSetup.history,
    excuses.computeStyle_eq, excuses.candidates_eq, excuses.gather_eq, excuses.recentEvents_eq]

theorem trending_eq (limit : Option Int) :
    Arrivals.trending (setup.over excused) limit =
      Arrivals.trending (setup.over failing) limit := by
  simp only [Arrivals.trending, excuses.filterAndRank_eq]
  simp only [FeedSetup.over, excuses.newest_eq]
  rfl

theorem newArrivals_eq (limit days : Option Int) :
    Arrivals.newArrivals (setup.over excused) limit days =
      Arrivals.newArrivals (setup.over failing) limit days := by
  simp only [Arrivals.newArrivals, excuses.scan_eq, excuses.filterAndRank_eq]
  rfl

theorem boughtTogether_eq (itemId : Option String) (limit : Option Int) :
    Companions.boughtTogether (setup.over excused) itemId limit =
      Companions.boughtTogether (setup.over failing) itemId limit := by
  simp only [Companions.boughtTogether, excuses.scan_eq, excuses.filterAndRank_eq]
  simp only [FeedSetup.over, (excuses.findItem _).orElse_eq]

theorem completeLook_eq (itemIds : List String) (userId : Option String) (limit : Option Int) :
    Companions.completeLook (setup.over excused) itemIds userId limit =
      Companions.completeLook (setup.over failing) itemIds userId limit := by
  have constraints : Companions.constraints (setup.over excused) userId =
      Companions.constraints (setup.over failing) userId := by
    simp only [Companions.constraints, FeedSetup.preferences, FeedSetup.over,
      excuses.statedPreferences_eq]
  simp only [Companions.completeLook, excuses.scan_eq, constraints, excuses.filterAndRank_eq]

end Feeds

end Collaborators.Excuses

end Storefront
