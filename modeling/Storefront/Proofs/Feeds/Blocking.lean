import Storefront.Proofs.Feeds.Companions
import Storefront.Proofs.Feeds.Grouping
import Storefront.Proofs.Feeds.Home
/-!
# Where blocked vendors are kept out

The home feed and the feed for a look run the filters with the vendors that the user has blocked, so
nothing of these vendors is shown, whatever the rest of the items is like. The feed of vendors runs
the plain filters: a blocked vendor is shown there if it ranks high enough.

The statements are about feeds that are returned. They do not say that there is one, and need no
figure of any item to be readable.
-/

namespace Storefront

open Call (Leaves Ends)

variable {σ : Type} {setup : FeedSetup σ} {safe : σ → Prop}

/-- A feed shows no item of some vendors. -/
def Feed.Avoids (vendors : List String) (feed : Feed) : Prop :=
  ∀ entry ∈ feed.items, entry.item.vendor ∉ vendors

/-- A feed of vendors shows neither some vendors nor an item of theirs. -/
def VendorFeed.Avoids (vendors : List String) (feed : VendorFeed) : Prop :=
  ∀ entry ∈ feed.vendors, entry.vendorId ∉ vendors ∧
    ∀ product ∈ entry.products, product.item.vendor ∉ vendors

section Stages

/-- What the filters kept and the ranking put in order is of no blocked vendor. -/
theorem FeedSetup.filterAndRank_avoids {candidates : List Item} {spec : FilterSpec}
    (gathers : Leaves safe (setup.gatherTrust candidates) fun _ => True) (budget : Option Float) :
    Ends safe (setup.filterAndRank candidates spec budget)
      (fun stage => ∀ entry ∈ stage.ranked,
        entry.stream = none ∧ entry.item.vendor ∉ spec.blockedVendors) fun _ => True := by
  refine (setup.filterAndRank_chooses gathers spec budget).mono (fun stage chosen entry member => ?_)
    fun _ _ => trivial
  obtain ⟨none, kept⟩ := chosen entry member
  exact ⟨none, Filter.vendor_of_keeps (List.mem_filter.mp kept).2⟩

/-- What is selected is of no vendor that none of the ranked items is of. -/
theorem FeedSetup.select_avoids {ranked : List Ranked} {vendors : List String} {limit : Int}
    (limited : 0 ≤ limit)
    (avoids : ∀ entry ∈ ranked, entry.stream = none ∧ entry.item.vendor ∉ vendors) :
    Ends safe (Call.ofExcept (setup.select ranked limit))
      (fun shown => ∀ entry ∈ shown, entry.item.vendor ∉ vendors) fun _ => True := by
  obtain ⟨shown, selects, selected, -⟩ :=
    setup.select_ok limited fun entry member => (avoids entry member).1
  refine .ofOk ⟨shown, selects, fun entry member => ?_⟩
  obtain ⟨other, found, same, -⟩ := selected.shows entry member
  exact same ▸ (avoids other found).2

/-- What is explained is of no vendor that nothing shown is of. -/
theorem FeedSetup.explain_avoids {shown : List Ranked} {vendors : List String}
    (avoids : ∀ entry ∈ shown, entry.item.vendor ∉ vendors) (history : List Event)
    (shared : Option Reason) :
    Ends safe (Call.ofExcept (FeedSetup.explain history shared shown))
      (fun entries => ∀ entry ∈ entries, entry.item.vendor ∉ vendors) fun _ => True := by
  refine (FeedSetup.explain_shows history shared shown).mono (fun entries shows entry member => ?_)
    fun _ _ => trivial
  obtain ⟨ranked, found, same⟩ := shows entry member
  exact same ▸ avoids ranked found

end Stages

section Feeds

variable {world : Collaborators σ} {userId : String} {preferences : Preferences}

/-- Constraints of a user have the vendors that the user has blocked. -/
theorem FilterSpec.mem_ofUser_blocked {budget : Option Float} {days : Option Int}
    {vendor : String} :
    vendor ∈ (ofUser budget days (some preferences)).blockedVendors ↔
      vendor ∈ preferences.blockedVendors := List.mem_eraseDups

/-- Retrieving candidates leaves a safe state if no call leaves the safe states. -/
theorem Collaborators.Keeps.candidates (keeps : world.Keeps safe) (setup : FeedSetup σ)
    (request : Retrieval.Request) :
    Leaves safe (Retrieval.candidates (setup.over world).world request) fun _ => True := by
  have anything : ∀ {call : Call σ (List Item)}, Call.Keeps safe call →
      Leaves safe (call.orElse []) (Offers (fun _ => True) False) := by
    intro call kept
    exact kept.leaves.mono fun _ _ => ⟨fun _ _ => trivial, fun impossible => impossible.elim⟩
  have searches : ∀ request, Leaves safe (Retrieval.personalized (setup.over world).world request)
      (Offers (fun _ => True) False) := by
    intro request
    unfold Retrieval.personalized
    split
    · next search => exact anything (keeps.search _ search _)
    · exact .pure .nil
  have scans : ∀ query, Leaves safe ((setup.over world).scan query)
      (Offers (fun _ => True) False) := fun query => anything (keeps.listItems query)
  exact (Retrieval.candidates_leaves scans searches request).mono fun _ _ => trivial

/-- The home feed shows nothing of the vendors that its user has blocked. -/
theorem Home.feed_avoids (keeps : world.Keeps safe)
    (loads : Leaves safe ((setup.over world).preferences userId) (· = some preferences))
    {request : Request} (user : request.userId = some userId) :
    Ends safe (feed (setup.over world) request) (Feed.Avoids preferences.blockedVendors)
      fun _ => True := by
  refine (FeedSetup.requireText_ends "userId" request.userId fun _ _ _ => trivial).bind ?_
  rintro id ⟨given, -⟩
  cases user.symm.trans given
  refine (FeedSetup.requirePositive_ends "limit" request.limit fun _ _ _ => trivial).bind ?_
  rintro count ⟨-, positive⟩
  refine (Ends.ofState (vectors_leaves (keeps.steady setup) userId request.sessionId)).bind ?_
  rintro ⟨profile, session⟩ -
  refine (Ends.ofState (keeps.candidates setup _)).bind fun candidates _ => ?_
  -- From here on the constraints are those of the preferences that were loaded.
  refine (Ends.ofState loads).bind ?_
  rintro _ rfl
  refine (Ends.ofOk ⟨_, constraints_eq request (some preferences), rfl⟩).bind ?_
  rintro _ rfl
  refine ((setup.over world).filterAndRank_avoids (keeps.gather setup candidates) _).bind
    fun stage avoids => ?_
  refine (FeedSetup.select_avoids (show 0 ≤ count by omega) avoids).bind fun shown avoids => ?_
  refine (Ends.ofState ((keeps.steady setup).recent userId _)).bind fun history _ => ?_
  refine (FeedSetup.explain_avoids avoids history none).bind fun entries avoids => ?_
  exact .pure fun entry member blocked =>
    avoids entry member (FilterSpec.mem_ofUser_blocked.mpr blocked)

/-- The feed for a look shows nothing of the vendors that its user has blocked. -/
theorem Companions.completeLook_avoids (keeps : world.Keeps safe) (named : userId ≠ "")
    (loads : Leaves safe ((setup.over world).preferences userId) (· = some preferences))
    (itemIds : List String) (limit : Option Int) :
    Ends safe (completeLook (setup.over world) itemIds (some userId) limit)
      (Feed.Avoids preferences.blockedVendors) fun _ => True := by
  -- Nothing is known of the preferences of other users, and nothing of them is needed.
  have stated : ∀ id, Leaves safe ((setup.over world).preferences id)
      fun answer => id = userId → answer = some preferences := by
    intro id
    by_cases same : id = userId
    · exact same ▸ loads.mono fun _ loaded _ => loaded
    · exact ((keeps.steady setup).preferences id).mono fun _ _ equal => absurd equal same
  refine (requireIds_ends itemIds fun _ _ _ => trivial).bind fun _ _ => ?_
  refine (FeedSetup.requirePositive_ends "limit" limit fun _ _ _ => trivial).bind ?_
  rintro count ⟨-, positive⟩
  refine (Ends.ofState (keeps.listItems .everything).leaves).bind fun items _ => ?_
  dsimp only
  split
  · exact .pure fun entry member => by cases member
  · refine (constraints_ends stated (some userId)).bind ?_
    rintro _ ⟨answer, rfl, loaded⟩
    cases loaded userId rfl named rfl
    refine ((setup.over world).filterAndRank_avoids (keeps.gather setup _) none).bind
      fun stage avoids => ?_
    have best : ∀ entry ∈ Sequence.cut count stage.ranked,
        entry.item.vendor ∉ (FilterSpec.ofUser none none (some preferences)).blockedVendors :=
      fun entry member => (avoids entry ((Sequence.cut_sublist _ _).subset member)).2
    refine (FeedSetup.explain_avoids best [] _).bind fun entries avoids => ?_
    exact .pure fun entry member blocked =>
      avoids entry member (FilterSpec.mem_ofUser_blocked.mpr blocked)

/-- A feed of vendors that presents every vendor shows nothing of some vendors exactly if it shows
none of them. -/
theorem VendorFeed.avoids_iff {survivors : List Item} {productsPerVendor : Int} {feed : VendorFeed}
    (presents : ∀ entry ∈ feed.vendors, Vendors.Presents survivors productsPerVendor entry)
    {vendors : List String} :
    feed.Avoids vendors ↔ ∀ vendor ∈ feed.vendors.map (·.vendorId), vendor ∉ vendors := by
  rw [List.forall_mem_map]
  refine forall₂_congr fun entry member => ⟨And.left, fun avoids => ⟨avoids, ?_⟩⟩
  exact fun product shown => ((presents entry member).own product shown).2 ▸ avoids

/-- Of a user whose preferences load, the home feed and the feed for a look show nothing of the
blocked vendors. The feed of vendors filters the candidates as for nobody in particular: it shows
nothing of the blocked vendors exactly if none of them is among the best vendors that are left. -/
theorem blocked_vendors_avoided_iff (keeps : world.Keeps safe) (setup : FeedSetup σ)
    (named : userId ≠ "")
    (loads : Leaves safe ((setup.over world).preferences userId) (· = some preferences))
    {state : σ} (kept : safe state) :
    (∀ (request : Home.Request) feed, request.userId = some userId →
      ((Home.feed (setup.over world) request).outcome state).1 = .ok feed →
      feed.Avoids preferences.blockedVendors) ∧
    (∀ itemIds limit feed,
      ((Companions.completeLook (setup.over world) itemIds (some userId) limit).outcome
        state).1 = .ok feed →
      feed.Avoids preferences.blockedVendors) ∧
    ∀ limit productsPerVendor feed,
      ((Vendors.feed (setup.over world)
        ⟨some userId, some limit, some productsPerVendor⟩).outcome state).1 = .ok feed →
      ∃ rankings,
        let considered :=
          ((Vendors.considered (setup.over world) userId limit productsPerVendor).run state).1
        let survivors := considered.1.filter (Filter.keeps considered.2 .plain)
        Vendors.rankGroups considered.2 (Vendors.groups survivors) = .ok rankings ∧
          (feed.Avoids preferences.blockedVendors ↔
            ∀ ranking ∈ Sequence.cut limit (Vendors.order rankings),
              ranking.vendorId ∉ preferences.blockedVendors) := by
  refine ⟨?home, ?completeLook, ?vendors⟩
  case home =>
    intro request feed user answers
    have ended := (Home.feed_avoids keeps loads user state kept).2
    rwa [answers] at ended
  case completeLook =>
    intro itemIds limit feed answers
    have ended := (Companions.completeLook_avoids keeps named loads itemIds limit state kept).2
    rwa [answers] at ended
  case vendors =>
    intro limit productsPerVendor feed answers
    obtain ⟨positive, rankings, made⟩ := Vendors.isMadeOf_of_answer answers
    have ranks := Vendors.ranks_of_rankGroups made.ranked
    refine ⟨rankings, made.ranked, ?_⟩
    rw [VendorFeed.avoids_iff (made.assembled.presents ranks positive), made.assembled.vendors,
      List.forall_mem_map]

/-- What the sample user prefers: nothing of the tannery. -/
def Memory.samplePreferences : Preferences := ⟨"ada", none, [], [], [], ["tannery"], none⟩

/-- In the sample stores the best vendor is not the blocked one, so a feed of one vendor avoids the
tannery, and so does the home feed. -/
theorem blocked_vendors_avoided_iff_sample :
    (Memory.withEmbedding none).Keeps Memory.sample.Agrees ∧
      Leaves Memory.sample.Agrees (Memory.sampleSetup.preferences "ada")
        (· = some Memory.samplePreferences) ∧
      (∃ feed, ((Home.feed Memory.sampleSetup ⟨some "ada", none, some 5, none, none⟩).outcome
          Memory.sample).1 = .ok feed ∧ feed.items.length = 2 ∧ feed.Avoids ["tannery"]) ∧
      ∃ feed, ((Vendors.feed Memory.sampleSetup ⟨some "ada", some 1, some 1⟩).outcome
          Memory.sample).1 = .ok feed ∧
        feed.vendors.map (·.vendorId) = ["loom"] ∧ feed.Avoids ["tannery"] := by
  have keeps := Memory.keeps Memory.sample none
  have loads : Leaves Memory.sample.Agrees (Memory.sampleSetup.preferences "ada")
      (· = some Memory.samplePreferences) :=
    .orElse (Memory.preferences_ends "ada") fun _ impossible => impossible.elim
  obtain ⟨home, -, vendors⟩ := blocked_vendors_avoided_iff keeps Memory.sampleSetup
    (show "ada" ≠ "" by decide) loads (Memory.Agrees.refl Memory.sample)
  refine ⟨keeps, loads, ?home, ?vendors⟩
  case home =>
    obtain ⟨feed, answers, shown⟩ := Call.ok_of_toOption_map (show
      ((Home.feed Memory.sampleSetup ⟨some "ada", none, some 5, none, none⟩).outcome
        Memory.sample).1.toOption.map (·.items.length) = some 2 by decide +kernel)
    exact ⟨feed, answers, shown, home _ feed rfl answers⟩
  case vendors =>
    obtain ⟨feed, answers, shown⟩ := Call.ok_of_toOption_map (show
      ((Vendors.feed Memory.sampleSetup ⟨some "ada", some 1, some 1⟩).outcome
        Memory.sample).1.toOption.map (·.vendors.map (·.vendorId)) = some ["loom"] by
      decide +kernel)
    obtain ⟨_, ranks, best⟩ := Call.ok_of_toOption_map (show
      (Vendors.rankGroups (Vendors.sampleConsidered 1).2
        (Vendors.groups (Vendors.sampleSurvivors 1))).toOption.map (fun rankings =>
          (Sequence.cut 1 (Vendors.order rankings)).all fun ranking =>
            ranking.vendorId ∉ Memory.samplePreferences.blockedVendors) = some true by
      decide +kernel)
    obtain ⟨rankings, ranked, avoids_iff⟩ := vendors 1 1 feed answers
    cases ranks.symm.trans ranked
    exact ⟨feed, answers, shown, avoids_iff.mpr (by simpa using best)⟩

/-- A vendor that the sample user has blocked is shown to the user. -/
theorem Memory.blocked_vendor_shown :
    Memory.sample.preferences.find? "ada" = some samplePreferences ∧
      "tannery" ∈ samplePreferences.blockedVendors ∧
      ¬ ∀ limit productsPerVendor feed,
        ((Vendors.feed sampleSetup ⟨some "ada", some limit, some productsPerVendor⟩).outcome
          sample).1 = .ok feed → feed.Avoids samplePreferences.blockedVendors := by
  refine ⟨rfl, by decide, fun avoids => ?_⟩
  obtain ⟨feed, answers, shown⟩ := Call.ok_of_toOption_map (show
    ((Vendors.feed sampleSetup ⟨some "ada", some 2, some 1⟩).outcome
      sample).1.toOption.map (·.vendors.map (·.vendorId)) = some ["loom", "tannery"] by
    decide +kernel)
  have listed : "tannery" ∈ feed.vendors.map (·.vendorId) := shown ▸ by decide
  obtain ⟨entry, member, named⟩ := List.mem_map.mp listed
  exact (avoids 2 1 feed answers entry member).1 (named ▸ by decide)

end Feeds

end Storefront
