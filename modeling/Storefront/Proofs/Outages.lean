import Storefront.Proofs.Absence
import Storefront.Proofs.Stores
/-!
# Outages

Calls to fail can be chosen by their numbers, in the order in which they are made. Collaborators of
which some calls fail are excused by collaborators that do not make these calls and give empty
answers. Whatever fails, items that are listed and found keep their figures.
-/

namespace Storefront

open Call (Leaves Ends Excused)

variable {σ : Type}

section Choosing

/-- A state with the number of calls made so far. -/
structure Counted (σ : Type) where
  calls : Nat
  rest : σ

variable {α : Type} {chosen : Nat → Option Fault}

/-- A call that is counted. If its number is chosen it is not made; it fails, or it gives an empty
answer if it is excused. -/
def Call.struck (chosen : Nat → Option Fault) (isExcused : Bool) (nothing : α) (call : Call σ α) :
    Call (Counted σ) α :=
  Call.ofOutcome fun state =>
    match chosen state.calls with
    | some fault => (if isExcused then .ok nothing else .error fault, ⟨state.calls + 1, state.rest⟩)
    | none =>
      let (answer, changed) := call.outcome state.rest
      (answer, ⟨state.calls + 1, changed⟩)

/-- A lookup that is counted, and fails or finds nothing if its number is chosen. -/
def FanOut.struck (chosen : Nat → Option Fault) (isExcused : Bool)
    (lookUp : StateM σ LookupOutcome) : StateM (Counted σ) LookupOutcome := fun state =>
  match chosen state.calls with
  | some _ => (if isExcused then .unknown else .failed, ⟨state.calls + 1, state.rest⟩)
  | none =>
    let (outcome, changed) := lookUp.run state.rest
    (outcome, ⟨state.calls + 1, changed⟩)

/-- Collaborators of which the calls with chosen numbers fail, or are excused. -/
def Collaborators.struck (chosen : Nat → Option Fault) (isExcused : Bool)
    (world : Collaborators σ) : Collaborators (Counted σ) where
  listItems query := (world.listItems query).struck chosen isExcused []
  findItem key := (world.findItem key).struck chosen isExcused none
  addItem item := (world.addItem item).struck chosen isExcused ()
  updateItem id changes := (world.updateItem id changes).struck chosen isExcused ()
  search := world.search.map fun search query => (search query).struck chosen isExcused []
  logEvent event := (world.logEvent event).struck chosen isExcused ()
  recentEvents userId limit since :=
    (world.recentEvents userId limit since).struck chosen isExcused []
  preferences := world.preferences.map fun load userId => (load userId).struck chosen isExcused none
  embed := world.embed.map fun embed text => (embed text).struck chosen isExcused none
  saveProfile record := (world.saveProfile record).struck chosen isExcused ()
  loadProfile userId := (world.loadProfile userId).struck chosen isExcused none
  vendor := world.vendor.map fun lookUp vendor => FanOut.struck chosen isExcused (lookUp vendor)

/-- A struck call is excused by the empty answer. -/
theorem Call.struck_excused (chosen : Nat → Option Fault) (nothing : α) (call : Call σ α) :
    Excused (call.struck chosen false nothing) (call.struck chosen true nothing) nothing := by
  intro state
  cases strikes : chosen state.calls with
  | none => exact .inl (by simp only [struck, outcome_ofOutcome, strikes])
  | some fault =>
    refine .inr ⟨fault, ⟨state.calls + 1, state.rest⟩, ?_, ?_⟩ <;>
      simp [struck, outcome_ofOutcome, strikes]

/-- A struck lookup is excused by finding nothing. -/
theorem FanOut.struck_excused (chosen : Nat → Option Fault) (lookUp : StateM σ LookupOutcome) :
    FanOut.Excused (struck chosen false lookUp) (struck chosen true lookUp) := by
  intro state
  cases strikes : chosen state.calls with
  | none => exact .inl (by simp only [struck, StateT.run, strikes])
  | some fault =>
    refine .inr ⟨⟨state.calls + 1, state.rest⟩, ?_, ?_⟩ <;> simp [struck, StateT.run, strikes]

/-- Services that are there in both are related if all their calls are. -/
theorem related_map {β γ : Type} {related : γ → γ → Prop} (service : Option β) {f g : β → γ}
    (each : ∀ call, related (f call) (g call)) :
    Option.Rel related (service.map f) (service.map g) := by
  cases service with
  | none => exact .none
  | some call => exact .some (each call)

/-- Whichever calls are chosen, collaborators that fail at them are excused by collaborators that
give empty answers. -/
theorem Collaborators.struck_excuses (chosen : Nat → Option Fault) (world : Collaborators σ) :
    (world.struck chosen false).Excuses (world.struck chosen true) where
  listItems _ := Call.struck_excused chosen _ _
  findItem _ := Call.struck_excused chosen _ _
  search := related_map _ fun _ _ => Call.struck_excused chosen _ _
  recentEvents _ _ _ := Call.struck_excused chosen _ _
  preferences := related_map _ fun _ _ => Call.struck_excused chosen _ _
  embed := related_map _ fun _ _ => Call.struck_excused chosen _ _
  saveProfile _ := Call.struck_excused chosen _ _
  vendor := related_map _ fun _ _ => FanOut.struck_excused chosen _

end Choosing

section Supplies

/-- A call that leaves a safe state, whether it answers or fails. -/
def Call.Keeps {α : Type} (safe : σ → Prop) (call : Call σ α) : Prop :=
  Ends safe call (fun _ => True) fun _ => True

/-- From safe states no call of the collaborators leaves the safe states. -/
structure Collaborators.Keeps (world : Collaborators σ) (safe : σ → Prop) : Prop where
  listItems : ∀ query, Call.Keeps safe (world.listItems query)
  search : ∀ search, world.search = some search → ∀ query, Call.Keeps safe (search query)
  findItem : ∀ key, Call.Keeps safe (world.findItem key)
  recentEvents : ∀ userId limit since, Call.Keeps safe (world.recentEvents userId limit since)
  preferences : ∀ load, world.preferences = some load → ∀ userId, Call.Keeps safe (load userId)
  embed : ∀ embed, world.embed = some embed → ∀ text, Call.Keeps safe (embed text)
  saveProfile : ∀ record, Call.Keeps safe (world.saveProfile record)
  vendor : ∀ lookUp, world.vendor = some lookUp → ∀ vendor,
    Leaves safe (lookUp vendor) fun _ => True

/-- A call for items that also have ordinary figures, all of them. -/
def Call.Supplies (safe : σ → Prop) (call : Call σ (List Item)) : Prop :=
  Ends safe call (fun items => ∀ item ∈ items, item.raw.Ordinary) fun _ => True

/-- From safe states the collaborators list and find items with ordinary figures only, and no call
leaves the safe states. -/
structure Collaborators.Supplies (world : Collaborators σ) (safe : σ → Prop) : Prop where
  listItems : ∀ query, Call.Supplies safe (world.listItems query)
  search : ∀ search, world.search = some search → ∀ query, Call.Supplies safe (search query)
  findItem : ∀ key, Call.Keeps safe (world.findItem key)
  recentEvents : ∀ userId limit since, Call.Keeps safe (world.recentEvents userId limit since)
  preferences : ∀ load, world.preferences = some load → ∀ userId, Call.Keeps safe (load userId)
  embed : ∀ embed, world.embed = some embed → ∀ text, Call.Keeps safe (embed text)
  saveProfile : ∀ record, Call.Keeps safe (world.saveProfile record)
  vendor : ∀ lookUp, world.vendor = some lookUp → ∀ vendor,
    Leaves safe (lookUp vendor) fun _ => True

/-- Supplied items are on offer, and so is nothing. -/
theorem Call.Supplies.leaves {safe : σ → Prop} {call : Call σ (List Item)}
    (supplies : Call.Supplies safe call) :
    Leaves safe (call.orElse []) (Offers (fun item => item.raw.Ordinary) False) := by
  have offers : Ends safe call (Offers (fun item => item.raw.Ordinary) False) fun _ => True :=
    supplies.mono (fun _ each => ⟨each, fun impossible => impossible.elim⟩) fun _ _ => trivial
  exact .orElse offers fun _ _ => .nil

/-- Collaborators that supply items leave the safe states with no call. -/
theorem Collaborators.Supplies.keeps {world : Collaborators σ} {safe : σ → Prop}
    (supplies : world.Supplies safe) : world.Keeps safe where
  listItems query := (supplies.listItems query).mono (fun _ _ => trivial) fun _ fails => fails
  search search searches query :=
    (supplies.search search searches query).mono (fun _ _ => trivial) fun _ fails => fails
  findItem := supplies.findItem
  recentEvents := supplies.recentEvents
  preferences := supplies.preferences
  embed := supplies.embed
  saveProfile := supplies.saveProfile
  vendor := supplies.vendor

/-- A call with a fallback leaves a safe state if the call does. -/
theorem Call.Keeps.leaves {α : Type} {safe : σ → Prop} {call : Call σ α} {fallback : α}
    (keeps : Call.Keeps safe call) : Leaves safe (call.orElse fallback) fun _ => True :=
  .orElse keeps fun _ _ => trivial

/-- Loading stated preferences leaves a safe state if the service does. -/
theorem Profile.statedPreferences_keeps {world : Collaborators σ} {safe : σ → Prop}
    (loads : ∀ load, world.preferences = some load → ∀ userId, Call.Keeps safe (load userId))
    (userId : String) :
    Leaves safe (Profile.statedPreferences world userId) fun _ => True := by
  unfold Profile.statedPreferences
  split
  · exact .pure trivial
  · next service => exact (loads _ service userId).leaves

/-- Embedding stated preferences leaves a safe state if the service does. -/
theorem Profile.statedStyle_keeps {world : Collaborators σ} {safe : σ → Prop}
    (embeds : ∀ embed, world.embed = some embed → ∀ text, Call.Keeps safe (embed text))
    (preferences : Preferences) :
    Leaves safe (Profile.statedStyle world preferences) fun _ => True := by
  unfold Profile.statedStyle
  split
  · next service => exact (embeds _ service _).leaves
  · exact .pure trivial

/-- The calls for a profile leave a safe state if no call leaves the safe states. -/
theorem Collaborators.Keeps.steady {world : Collaborators σ} {safe : σ → Prop}
    (keeps : world.Keeps safe) (setup : FeedSetup σ) : (setup.over world).Steady safe where
  find key := (keeps.findItem key).leaves
  preferences := Profile.statedPreferences_keeps keeps.preferences
  recent userId limit := (keeps.recentEvents userId limit none).leaves
  style := Profile.statedStyle_keeps keeps.embed
  save record := (keeps.saveProfile record).leaves

/-- Gathering standings leaves a safe state if no call leaves the safe states. -/
theorem Collaborators.Keeps.gather {world : Collaborators σ} {safe : σ → Prop}
    (keeps : world.Keeps safe) (setup : FeedSetup σ) (items : List Item) :
    Leaves safe ((setup.over world).gatherTrust items) fun _ => True := by
  have looks := keeps.vendor
  change Leaves safe (FanOut.gather world.vendor setup.lookups _) _
  cases service : world.vendor with
  | none => exact .pure trivial
  | some lookUp => exact FanOut.gather_keeps (looks lookUp service) _ _

/-- Collaborators that supply ordinary items keep to a conduct. -/
def Collaborators.Supplies.conduct {world : Collaborators σ} {safe : σ → Prop}
    (supplies : world.Supplies safe) (setup : FeedSetup σ) : Conduct (setup.over world) where
  safe := safe
  offered item := item.raw.Ordinary
  distinct := False
  gathered _ _ := True
  stated _ _ := True
  usable _ ordinary := ordinary.usable
  offered_scored _ _ ordinary := ordinary
  scan query := (supplies.listItems query).leaves
  search request := by
    unfold Retrieval.personalized
    split
    · next searches => exact (supplies.search _ searches _).leaves
    · exact .pure .nil
  find := (supplies.keeps.steady setup).find
  gather := supplies.keeps.gather setup
  preferences := (supplies.keeps.steady setup).preferences
  recent := (supplies.keeps.steady setup).recent
  style := (supplies.keeps.steady setup).style
  save := (supplies.keeps.steady setup).save

/-- A counted call ends like the call itself, or as its number was chosen to. -/
theorem Call.struck_ends {α : Type} {safe : σ → Prop} {chosen : Nat → Option Fault}
    {isExcused : Bool} {nothing : α} {call : Call σ α} {post : α → Prop}
    (ends : Ends safe call post fun _ => True) (empty : post nothing) :
    Ends (safe ·.rest) (call.struck chosen isExcused nothing) post fun _ => True := by
  intro state kept
  rw [struck, outcome_ofOutcome]
  cases chosen state.calls with
  | none => exact ends state.rest kept
  | some fault =>
    cases isExcused with
    | true => exact ⟨kept, empty⟩
    | false => exact ⟨kept, trivial⟩

/-- A counted lookup leaves a safe state if the lookup does. -/
theorem FanOut.struck_leaves {safe : σ → Prop} {chosen : Nat → Option Fault} {isExcused : Bool}
    {lookUp : StateM σ LookupOutcome} (leaves : Leaves safe lookUp fun _ => True) :
    Leaves (safe ·.rest) (struck chosen isExcused lookUp) fun _ => True := by
  intro state kept
  unfold struck StateT.run
  dsimp only
  cases chosen state.calls with
  | none => exact leaves state.rest kept
  | some fault => exact ⟨trivial, kept⟩

/-- Collaborators that supply ordinary items still do when some of their calls fail or are
excused. -/
theorem Collaborators.Supplies.struck {world : Collaborators σ} {safe : σ → Prop}
    (supplies : world.Supplies safe) (chosen : Nat → Option Fault) (isExcused : Bool) :
    (world.struck chosen isExcused).Supplies (safe ·.rest) where
  listItems query := Call.struck_ends (supplies.listItems query) (by simp)
  search search searches query := by
    obtain ⟨search, there, rfl⟩ := Option.map_eq_some_iff.mp searches
    exact Call.struck_ends (supplies.search search there query) (by simp)
  findItem key := Call.struck_ends (supplies.findItem key) trivial
  recentEvents userId limit since :=
    Call.struck_ends (supplies.recentEvents userId limit since) trivial
  preferences load loads userId := by
    obtain ⟨load, there, rfl⟩ := Option.map_eq_some_iff.mp loads
    exact Call.struck_ends (supplies.preferences load there userId) trivial
  embed embed embeds text := by
    obtain ⟨embed, there, rfl⟩ := Option.map_eq_some_iff.mp embeds
    exact Call.struck_ends (supplies.embed embed there text) trivial
  saveProfile record := Call.struck_ends (supplies.saveProfile record) trivial
  vendor lookUp looks vendor := by
    obtain ⟨lookUp, there, rfl⟩ := Option.map_eq_some_iff.mp looks
    exact FanOut.struck_leaves (supplies.vendor lookUp there vendor)

/-- A question to the stores leaves them as they are. -/
theorem Memory.ask_keeps {α : Type} {safe : Memory → Prop} (answer : Memory → Except Fault α) :
    Call.Keeps safe (ask answer) := ask_ends (fun _ _ _ _ => trivial) fun _ _ _ _ => trivial

/-- No call to the stores changes anything but the kept profiles. -/
theorem Memory.keeps (base : Memory) (embed : Embedding) :
    (withEmbedding embed).Keeps base.Agrees := by
  constructor
  case listItems => exact fun query => ask_keeps _
  case search =>
    rintro _ ⟨⟩ query
    exact ask_keeps _
  case findItem => exact fun key => ask_keeps _
  case recentEvents => exact fun userId limit since => ask_keeps _
  case preferences =>
    rintro _ ⟨⟩ userId
    exact ask_keeps _
  case embed =>
    intro _ embeds text
    obtain ⟨answer, -, rfl⟩ := Option.map_eq_some_iff.mp embeds
    exact embed_ends answer text
  case saveProfile => exact saveProfile_ends
  case vendor =>
    rintro _ ⟨⟩ vendor
    exact (lookUp_reports vendor).mono fun _ _ => trivial

/-- The stores supply ordinary items if their catalog holds no others. -/
theorem Memory.supplies {base : Memory} (embed : Embedding)
    (ordinary : ∀ item ∈ base.catalog.values, item.raw.Ordinary) :
    (withEmbedding embed).Supplies base.Agrees := by
  have offers : Offers (fun item => item.raw.Ordinary) False base.catalog.values :=
    ⟨ordinary, fun impossible => impossible.elim⟩
  obtain ⟨-, -, finds, recent, loads, embeds, saves, looks⟩ := base.keeps embed
  refine ⟨fun query => ?listItems, ?search, finds, recent, loads, embeds, saves, looks⟩
  case listItems =>
    exact (listItems_ends offers query).mono (fun _ listed => listed.each) fun _ fails => fails
  case search =>
    rintro _ ⟨⟩ query
    exact (search_ends offers (fun _ _ ordinary => ordinary) query).mono
      (fun _ found => found.each) fun _ fails => fails

end Supplies

end Storefront
