import Storefront.Proofs.Assembly
import Storefront.Proofs.Calls
/-!
# How collaborators conduct themselves

What a feed relies on from the world around it. A conduct names the states in which the world is
safe, the items it offers, whether it lists an id only once, and what is true of the standings and
the preferences it reports; every call that a feed makes keeps to it, whether the call answers or
fails. From there on each shared step of the feeds is a statement about the conduct alone.
-/

namespace Storefront

/-- Items that are all on offer, and of which no two share an id if lists are distinct. -/
structure Offers (offered : Item → Prop) (distinct : Prop) (items : List Item) : Prop where
  each : ∀ item ∈ items, offered item
  nodup : distinct → (items.map (·.id)).Nodup

namespace Offers

variable {offered : Item → Prop} {distinct : Prop} {items others : List Item}

/-- Nothing is on offer. -/
theorem nil : Offers offered distinct [] := ⟨by simp, fun _ => List.nodup_nil⟩

/-- A part of an offer is an offer. -/
theorem sublist (offers : Offers offered distinct items) (part : others.Sublist items) :
    Offers offered distinct others where
  each item member := offers.each item (part.subset member)
  nodup holds := (offers.nodup holds).sublist (part.map _)

/-- An offer can be rearranged. -/
theorem perm (offers : Offers offered distinct items) (same : others.Perm items) :
    Offers offered distinct others where
  each item member := offers.each item (same.subset member)
  nodup holds := (same.map (·.id)).nodup_iff.mpr (offers.nodup holds)

end Offers

/-- Candidates with usable rows pass through the filters and the ranking, whatever is true of the
standings gathered for them. -/
theorem FeedSetup.filterAndRank_ends {σ : Type} (setup : FeedSetup σ) {safe : σ → Prop}
    {candidates : List Item} {gathered : TrustMap → Prop} {spec : FilterSpec}
    {faults : Fault → Prop} (gathers : Call.Leaves safe (setup.gatherTrust candidates) gathered)
    (usable : ∀ item ∈ candidates, item.raw.Usable) (typed : spec.Typed) (budget : Option Float) :
    Call.Ends safe (setup.filterAndRank candidates spec budget)
      (fun stage => gathered stage.trust ∧ stage.Staged candidates spec budget) faults := by
  refine (Call.Ends.ofState gathers).bind fun trust known => ?_
  obtain ⟨result, ran, sifted⟩ := Filter.run_ok trust typed usable
  refine (Call.Ends.ofOk ⟨result, ran, rfl⟩).bind ?_
  rintro _ rfl
  have kept : ∀ item ∈ result.kept, item.raw.Usable := by
    intro item member
    rw [sifted.kept] at member
    exact usable item (List.mem_of_mem_filter member)
  obtain ⟨ranked, ranks, ordered⟩ := Ranker.rank_ok ⟨budget, trust⟩ kept
  refine (Call.Ends.ofOk ⟨ranked, ranks, rfl⟩).bind ?_
  rintro _ rfl
  exact .pure ⟨known, sifted, ordered⟩

/-- Whatever the rows of the candidates are like, what is ranked is chosen among those that the
filters keep, and belongs to no stream yet. -/
theorem FeedSetup.filterAndRank_chooses {σ : Type} (setup : FeedSetup σ) {safe : σ → Prop}
    {candidates : List Item} (gathers : Call.Leaves safe (setup.gatherTrust candidates) fun _ => True)
    (spec : FilterSpec) (budget : Option Float) :
    Call.Ends safe (setup.filterAndRank candidates spec budget)
      (fun stage => ∀ entry ∈ stage.ranked, entry.stream = none ∧
        entry.item ∈ candidates.filter (Filter.keeps stage.trust spec)) fun _ => True := by
  refine (Call.Ends.ofState gathers).bind fun trust _ => ?_
  refine (Call.Ends.ofExcept (fun result ran => Filter.kept_of_run ran) fun _ _ => trivial).bind
    fun result kept => ?_
  refine (Call.Ends.ofExcept (fun ranked ranks => Ranker.ordered_of_rank ranks)
    fun _ _ => trivial).bind fun ranked ordered => ?_
  refine .pure fun entry member => ⟨(Ranker.score_eq_ok (ordered.scored entry member)).2.1, ?_⟩
  rw [← kept]
  exact ordered.items.subset (List.mem_map_of_mem member)

/-- Every entry shows what is explained; explaining fails only over an item whose row is not
usable. -/
theorem FeedSetup.explain_shows {σ : Type} {safe : σ → Prop} (history : List Event)
    (shared : Option Reason) (shown : List Ranked) :
    Call.Ends safe (Call.ofExcept (FeedSetup.explain history shared shown))
      (fun entries => ∀ entry ∈ entries, ∃ ranked ∈ shown, entry.item = ranked.item)
      fun _ => ∃ ranked ∈ shown, ¬ ranked.item.raw.Usable := by
  refine .ofExcept (fun entries explained entry member => ?_) fun fault fails => ?_
  · obtain ⟨ranked, found, told⟩ :=
      Sequence.exists_of_forall₂ (FeedSetup.tells_of_explainFrom explained) entry member
    exact ⟨ranked, found, told.1⟩
  · by_contra none
    have usable : ∀ ranked ∈ shown, ranked.item.raw.Usable := by simpa using none
    obtain ⟨entries, explained, -⟩ := FeedSetup.explain_ok history shared usable
    cases fails.symm.trans explained

section Events

open Call (Leaves Ends)

variable {σ : Type} {safe : σ → Prop} {world : Collaborators σ}

/-- Looking up items leaves a safe state. -/
theorem Profile.loadItems_leaves
    (finds : ∀ key, Leaves safe ((world.findItem key).orElse none) fun _ => True)
    (keys : List Key) : Leaves safe (Profile.loadItems world keys) fun _ => True := by
  induction keys with
  | nil => exact .pure trivial
  | cons key rest ih => exact (finds key).bind fun _ _ => ih.bind fun _ _ => .pure trivial

/-- Pooling events leaves a safe state; what it gives is nothing or the direction of the events,
with some styles of their items. -/
theorem Profile.ofEvents_ends {config : Profile.Config} {now : Moment} {events : List Event}
    {post : Option (List Float) → Prop}
    (finds : ∀ key, Leaves safe ((world.findItem key).orElse none) fun _ => True)
    (nothing : post none)
    (each : ∀ styles answer, Pooling.direction styles config.dim now events = .ok answer →
      post answer) :
    Ends safe (Profile.ofEvents world config now events) post fun _ => True := by
  unfold Profile.ofEvents
  split
  · exact .pure nothing
  · refine (Ends.ofExcept (fun _ _ => trivial) fun _ _ => trivial).bind fun _ (_ : True) => ?_
    refine (Ends.ofState (loadItems_leaves finds _)).bind fun items _ => ?_
    exact .ofExcept (fun answer given => each _ answer given) fun _ _ => trivial

end Events

/-- The calls for the profile of a user leave a safe state, whatever they answer. -/
structure FeedSetup.Steady {σ : Type} (setup : FeedSetup σ) (safe : σ → Prop) : Prop where
  find : ∀ key, Call.Leaves safe ((setup.world.findItem key).orElse none) fun _ => True
  preferences : ∀ userId, Call.Leaves safe (setup.preferences userId) fun _ => True
  recent : ∀ userId limit,
    Call.Leaves safe (Profile.recentEvents setup.world userId limit) fun _ => True
  style : ∀ preferences,
    Call.Leaves safe (Profile.statedStyle setup.world preferences) fun _ => True
  save : ∀ record, Call.Leaves safe ((setup.world.saveProfile record).orElse ()) fun _ => True

namespace FeedSetup.Steady

open Call (Leaves Ends)

variable {σ : Type} {setup : FeedSetup σ} {safe : σ → Prop}

/-- Pooling events leaves a safe state, whether it gives a direction or fails. -/
theorem ofEvents (steady : setup.Steady safe) (config : Profile.Config) (now : Moment)
    (events : List Event) :
    Ends safe (Profile.ofEvents setup.world config now events) (fun _ => True) fun _ => True :=
  Profile.ofEvents_ends steady.find trivial fun _ _ _ => trivial

/-- Computing and keeping a profile leaves a safe state. -/
theorem computeStyle (steady : setup.Steady safe) (config : Profile.Config) (userId : String) :
    Leaves safe ((Profile.computeStyle setup.world config userId).orElse none) fun _ => True := by
  have keep : ∀ style fit kind,
      Leaves safe (Profile.keep setup.world config userId style fit kind) fun _ => True := by
    intro style fit kind
    unfold Profile.keep
    split
    · exact .pure trivial
    · exact steady.save _
  have ends : Ends safe (Profile.computeStyle setup.world config userId) (fun _ => True)
      fun _ => True := by
    refine (Ends.ofState (steady.recent _ _)).bind fun _ _ => ?_
    refine (Ends.ofState (steady.preferences userId)).bind fun preferences _ => ?_
    refine (Ends.ofState (?stated : Leaves safe _ fun _ => True)).bind fun _ _ => ?_
    case stated =>
      cases preferences with
      | none => exact .pure trivial
      | some preferences => exact steady.style preferences
    refine (steady.ofEvents config config.now _).bind fun _ _ => ?_
    exact (Ends.ofState (keep _ _ _)).bind fun _ _ => .pure trivial
  exact .orElse ends fun _ _ => trivial

/-- Computing the vector of a session leaves a safe state. -/
theorem sessionStyle (steady : setup.Steady safe) (config : Profile.Config)
    (userId sessionId : String) (limit : Int) :
    Leaves safe ((Profile.sessionStyle setup.world config userId sessionId limit).orElse none)
      fun _ => True := by
  have ends : Ends safe (Profile.sessionStyle setup.world config userId sessionId limit)
      (fun _ => True) fun _ => True :=
    (Ends.ofState (steady.recent _ _)).bind fun _ _ => steady.ofEvents config config.now _
  exact .orElse ends fun _ _ => trivial

end FeedSetup.Steady

/-- The newest items are among what the catalog lists. -/
theorem Retrieval.newest_leaves {σ : Type} {setup : FeedSetup σ} {safe : σ → Prop}
    {offered : Item → Prop} {distinct : Prop}
    (scan : ∀ query, Call.Leaves safe (setup.scan query) (Offers offered distinct)) (limit : Int) :
    Call.Leaves safe (Retrieval.newest setup.world limit) (Offers offered distinct) := by
  unfold Retrieval.newest
  split
  · exact .pure .nil
  · exact scan _

/-- Retrieved candidates are items that were found or listed, and no two of them share an id. -/
theorem Retrieval.candidates_leaves {σ : Type} {setup : FeedSetup σ} {safe : σ → Prop}
    {offered : Item → Prop} {distinct : Prop}
    (scan : ∀ query, Call.Leaves safe (setup.scan query) (Offers offered distinct))
    (search : ∀ request, Call.Leaves safe (Retrieval.personalized setup.world request)
      (Offers offered False)) (request : Retrieval.Request) :
    Call.Leaves safe (Retrieval.candidates setup.world request) (Offers offered True) := by
  have merged : ∀ found trending : List Item, Offers offered False found →
      Offers offered False trending → Call.Leaves safe
        (pure (Sequence.cut request.limit (Retrieval.dedupe [found, trending])))
        (Offers offered True) := by
    intro found trending near newest
    refine .pure (Offers.sublist ⟨?_, ?_⟩ (Sequence.cut_sublist request.limit _))
    · intro item member
      have either := (Sequence.firstsBy_sublist _ _).subset member
      simp only [List.flatten_cons, List.flatten_nil, List.append_nil, List.mem_append] at either
      exact either.elim (near.each item) (newest.each item)
    · exact fun _ => Sequence.firstsBy_nodup _ _
  refine (search request).bind fun found near => ?_
  dsimp only
  split
  · refine (newest_leaves scan _).bind fun trending newest => merged found trending near ?_
    exact ⟨newest.each, fun impossible => impossible.elim⟩
  · exact (Call.Leaves.pure .nil).bind fun trending newest => merged found trending near newest

/-- The conduct of the collaborators of a setup. -/
structure Conduct {σ : Type} (setup : FeedSetup σ) where
  safe : σ → Prop
  /-- What is true of every item in an answer. -/
  offered : Item → Prop
  /-- Whether a list of items never has two with one id. -/
  distinct : Prop
  /-- What is true of the standings gathered for the items of a list. -/
  gathered : List Item → TrustMap → Prop
  /-- What is true of the preferences reported of a user. -/
  stated : String → Option Preferences → Prop
  usable : ∀ item, offered item → item.raw.Usable
  offered_scored : ∀ item score, offered item → offered (item.scored score)
  scan : ∀ query, Call.Leaves safe (setup.scan query) (Offers offered distinct)
  search : ∀ request, Call.Leaves safe (Retrieval.personalized setup.world request)
    (Offers offered False)
  find : ∀ key, Call.Leaves safe ((setup.world.findItem key).orElse none) fun _ => True
  gather : ∀ items, Call.Leaves safe (setup.gatherTrust items) (gathered items)
  preferences : ∀ userId, Call.Leaves safe (setup.preferences userId) (stated userId)
  recent : ∀ userId limit,
    Call.Leaves safe (Profile.recentEvents setup.world userId limit) fun _ => True
  style : ∀ preferences,
    Call.Leaves safe (Profile.statedStyle setup.world preferences) fun _ => True
  save : ∀ record, Call.Leaves safe ((setup.world.saveProfile record).orElse ()) fun _ => True

namespace Conduct

open Call (Leaves Ends)

variable {σ : Type} {setup : FeedSetup σ} (conduct : Conduct setup)

/-- The calls for a profile leave a safe state. -/
theorem steady : setup.Steady conduct.safe where
  find := conduct.find
  preferences userId := (conduct.preferences userId).mono fun _ _ => trivial
  recent := conduct.recent
  style := conduct.style
  save := conduct.save

/-- The newest items are on offer. -/
theorem newest (limit : Int) :
    Leaves conduct.safe (Retrieval.newest setup.world limit)
      (Offers conduct.offered conduct.distinct) := Retrieval.newest_leaves conduct.scan limit

/-- Retrieved candidates are on offer, and no two of them share an id. -/
theorem candidates (request : Retrieval.Request) :
    Leaves conduct.safe (Retrieval.candidates setup.world request)
      (Offers conduct.offered True) :=
  Retrieval.candidates_leaves conduct.scan conduct.search request

/-- Candidates on offer pass through the filters and the ranking. -/
theorem filterAndRank {distinct : Prop} {candidates : List Item} {spec : FilterSpec}
    {faults : Fault → Prop} (offers : Offers conduct.offered distinct candidates)
    (typed : spec.Typed) (budget : Option Float) :
    Ends conduct.safe (setup.filterAndRank candidates spec budget)
      (fun stage => conduct.gathered candidates stage.trust ∧
        stage.Staged candidates spec budget) faults :=
  setup.filterAndRank_ends (conduct.gather candidates)
    (fun item member => conduct.usable item (offers.each item member)) typed budget

end Conduct

end Storefront
