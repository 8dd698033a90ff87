import Mathlib.Data.List.Perm.Basic
import Mathlib.Data.Nat.Init
import Mathlib.Logic.Relation
import Storefront.Proofs.Calls
import Storefront.User.Profile
/-!
# Fetching the items of events

The items of events are looked up on the threads of a pool, and each is kept as soon as its lookup
has ended. Here that is a machine that takes one small step at a time: a lookup starts on a free
thread, a lookup that runs ends with an answer or a fault, and an ended lookup is collected. Which
of the possible steps is next is left open, so the runs of the machine are all the orders in which
lookups can complete.

Whatever the order, every run comes to an end, and then as much is found by every key as by looking
up one key after the other: what the catalog holds, and nothing where a lookup fails.
-/

namespace Storefront.Profile

open Call (Leaves)

variable {σ : Type} {safe : σ → Prop} {world : Collaborators σ} {find : Slot → Option Item}

/-- A lookup by a key gives what is found in its slot. Where nothing is found it may also fail. -/
def FindsBy (safe : σ → Prop) (world : Collaborators σ) (find : Slot → Option Item) (key : Key) :
    Prop :=
  Leaves safe ((world.findItem key).orElse none) (· = find key.slot)

/-- A lookup in the catalog gives what is found under an id. -/
def Finds (safe : σ → Prop) (world : Collaborators σ) (find : Slot → Option Item) : Prop :=
  ∀ id : String, FindsBy safe world find id

/-- In the slots of the keys that were looked up as much is found as the catalog holds, and nothing
else. -/
def Gathers (find : Slot → Option Item) (keys : List Key) (items : List (Slot × Item)) : Prop :=
  ∀ slot, items.lookup slot = if slot ∈ keys.map Key.slot then find slot else none

/-- What one lookup found is found in its slot only. -/
theorem lookup_found (found : Option Item) (slot other : Slot) :
    (found.toList.map (slot, ·)).lookup other = if other = slot then found else none := by
  cases found with
  | none => simp
  | some item =>
    rcases eq_or_ne other slot with rfl | apart
    · simp
    · simp [List.lookup_cons, apart, beq_false_of_ne apart]

/-- What one lookup found adds to what others found, whichever came first. -/
theorem Gathers.append {keys : List Key} {items : List (Slot × Item)}
    (gathers : Gathers find keys items) (key : Key) :
    Gathers find (keys ++ [key]) (items ++ (find key.slot).toList.map (key.slot, ·)) := by
  intro slot
  rw [List.lookup_append, gathers slot, lookup_found, List.map_append]
  rcases eq_or_ne slot key.slot with rfl | other
  · by_cases known : key.slot ∈ keys.map Key.slot <;> simp [known]
  · by_cases known : slot ∈ keys.map Key.slot <;> simp [known, other]

/-- The order of the keys makes no difference. -/
theorem Gathers.perm {keys others : List Key} {items : List (Slot × Item)}
    (gathers : Gathers find keys items) (perm : keys.Perm others) :
    Gathers find others items := by
  intro slot
  rw [gathers slot, ite_cond_congr (propext (perm.map Key.slot).mem_iff)]

/-- Looking up one key after the other gathers what the catalog holds. -/
theorem loadItems_gathers {keys : List Key} (finds : ∀ key ∈ keys, FindsBy safe world find key) :
    Leaves safe (loadItems world keys) (Gathers find keys) := by
  induction keys with
  | nil => exact .pure fun _ => rfl
  | cons key rest ih =>
    obtain ⟨first, others⟩ := List.forall_mem_cons.mp finds
    refine first.bind ?_
    rintro _ rfl
    refine (ih others).bind fun found gathers => .pure fun slot => ?_
    rw [List.lookup_append, gathers slot, lookup_found, List.map_cons]
    rcases eq_or_ne slot key.slot with rfl | other
    · by_cases known : key.slot ∈ rest.map Key.slot <;> simp [known]
    · by_cases known : slot ∈ rest.map Key.slot <;> simp [known, other]

/-- How many threads look up some keys: as many as there are keys, at most so many, at least one. -/
def threadsFor (atMost : Int) (keys : List Key) : Nat := (max 1 (min atMost keys.length)).toNat

/-- There is a thread for the lookups. -/
theorem one_le_threadsFor (atMost : Int) (keys : List Key) : 1 ≤ threadsFor atMost keys := by
  unfold threadsFor
  omega

/-- A fetch on its way: the keys that wait for a thread, those that are being looked up, the lookups
that have ended, and the items found by those that are collected. -/
structure Fetch where
  queued : List Key
  running : List Key
  ended : List (Key × Except Fault (Option Item))
  found : List (Slot × Item)

namespace Fetch

/-- A fetch before its first lookup. -/
def ofKeys (keys : List Key) : Fetch := ⟨keys, [], [], []⟩

/-- What a lookup found; one that failed found nothing. -/
def foundBy (outcome : Except Fault (Option Item)) : Option Item := outcome.toOption.join

/-- One step of a fetch on some threads. -/
inductive Step (find : Slot → Option Item) (threads : Nat) : Fetch → Fetch → Prop where
  | start {fetch : Fetch} {key : Key} {rest : List Key} (next : fetch.queued = key :: rest)
      (free : fetch.running.length < threads) :
      Step find threads fetch { fetch with queued := rest, running := fetch.running ++ [key] }
  /-- A lookup ends with what the catalog holds. Where that is nothing, it may end with a fault. -/
  | finish {fetch : Fetch} {key : Key} {outcome : Except Fault (Option Item)}
      (runs : key ∈ fetch.running) (finds : foundBy outcome = find key.slot) :
      Step find threads fetch { fetch with
        running := fetch.running.erase key
        ended := fetch.ended ++ [(key, outcome)] }
  | collect {fetch : Fetch} {key : Key} {outcome : Except Fault (Option Item)}
      {before after : List (Key × Except Fault (Option Item))}
      (listed : fetch.ended = before ++ (key, outcome) :: after) :
      Step find threads fetch { fetch with
        ended := before ++ after
        found := fetch.found ++ (foundBy outcome).toList.map (key.slot, ·) }

/-- Any number of steps. -/
abbrev Runs (find : Slot → Option Item) (threads : Nat) : Fetch → Fetch → Prop :=
  Relation.ReflTransGen (Step find threads)

/-- Nothing is left to do. -/
def IsOver (fetch : Fetch) : Prop := fetch.queued = [] ∧ fetch.running = [] ∧ fetch.ended = []

variable {threads : Nat} {keys collected : List Key} {fetch next : Fetch}

section Ending

/-- How many steps a fetch may still take. -/
def weight (fetch : Fetch) : Nat :=
  3 * fetch.queued.length + 2 * fetch.running.length + fetch.ended.length

/-- Every step leaves fewer steps to take. -/
theorem Step.weight_lt (step : Step find threads fetch next) : next.weight < fetch.weight := by
  cases step with
  | start next free =>
    simp only [weight, next, List.length_cons, List.length_append, List.length_nil]
    omega
  | finish runs finds =>
    have present := List.length_pos_of_mem runs
    simp only [weight, List.length_erase_of_mem runs, List.length_append, List.length_cons,
      List.length_nil]
    omega
  | collect listed =>
    simp only [weight, listed, List.length_append, List.length_cons]
    omega

/-- A fetch that is not over can go on. -/
theorem exists_step (find : Slot → Option Item) (able : 1 ≤ threads) (goes : ¬ fetch.IsOver) :
    ∃ next, Step find threads fetch next := by
  by_cases all : fetch.ended = []
  case neg =>
    obtain ⟨⟨key, outcome⟩, rest, listed⟩ := List.exists_cons_of_ne_nil all
    exact ⟨_, .collect (show fetch.ended = [] ++ (key, outcome) :: rest from listed)⟩
  by_cases idle : fetch.running = []
  case neg =>
    obtain ⟨key, runs⟩ := List.exists_mem_of_ne_nil _ idle
    exact ⟨_, .finish runs (show foundBy (.ok (find key.slot)) = find key.slot from rfl)⟩
  have waits : fetch.queued ≠ [] := fun none => goes ⟨none, idle, all⟩
  obtain ⟨key, rest, next⟩ := List.exists_cons_of_ne_nil waits
  refine ⟨_, .start next ?_⟩
  rw [idle]
  exact able

/-- Every fetch can come to its end. -/
theorem exists_landing (find : Slot → Option Item) (able : 1 ≤ threads) (fetch : Fetch) :
    ∃ last, Runs find threads fetch last ∧ last.IsOver := by
  induction weighs : fetch.weight using Nat.strong_induction_on generalizing fetch with
  | _ weight ih =>
    by_cases landed : fetch.IsOver
    · exact ⟨fetch, .refl, landed⟩
    · obtain ⟨next, step⟩ := exists_step find able landed
      obtain ⟨last, runs, landed⟩ := ih _ (weighs ▸ step.weight_lt) next rfl
      exact ⟨last, .head step runs, landed⟩

/-- No fetch goes on for ever. -/
theorem wellFounded_step (find : Slot → Option Item) (threads : Nat) :
    WellFounded fun next fetch => Step find threads fetch next :=
  Subrelation.wf Step.weight_lt (measure weight).wf

end Ending

section Accounting

/-- Every key is accounted for: its lookup is collected, has ended, runs or waits; what has ended is
what the catalog holds, and what is collected is gathered. -/
structure Accounts (find : Slot → Option Item) (keys : List Key) (fetch : Fetch)
    (collected : List Key) : Prop where
  split : keys.Perm (collected ++ fetch.ended.map Prod.fst ++ fetch.running ++ fetch.queued)
  ended : ∀ entry ∈ fetch.ended, foundBy entry.2 = find entry.1.slot
  gathers : Gathers find collected fetch.found

/-- Before the first lookup every key waits. -/
theorem accounts_ofKeys (find : Slot → Option Item) (keys : List Key) :
    Accounts find keys (ofKeys keys) [] where
  split := .refl _
  ended _ member := by cases member
  gathers _ := rfl

/-- A step keeps every key accounted for. -/
theorem Accounts.step (accounts : Accounts find keys fetch collected)
    (step : Step find threads fetch next) : ∃ collected, Accounts find keys next collected := by
  cases step with
  | @start key rest queued free =>
    refine ⟨collected, ?split, accounts.ended, accounts.gathers⟩
    case split =>
      have split := accounts.split
      rw [queued] at split
      simpa only [List.append_assoc, List.singleton_append] using split
  | @finish key outcome runs finds =>
    refine ⟨collected, ?split, ?ended, accounts.gathers⟩
    case split =>
      refine accounts.split.trans (List.Perm.append_right _ ?_)
      rw [List.map_append, List.append_assoc, List.append_assoc, List.append_assoc]
      exact List.Perm.append_left _ (List.Perm.append_left _ (List.perm_cons_erase runs))
    case ended =>
      intro entry member
      rcases List.mem_append.mp member with before | last
      · exact accounts.ended entry before
      · rw [List.mem_singleton.mp last]
        exact finds
  | @collect key outcome before after listed =>
    have listing : (key, outcome) ∈ fetch.ended :=
      listed ▸ List.mem_append_right _ List.mem_cons_self
    have finds : foundBy outcome = find key.slot := accounts.ended _ listing
    refine ⟨collected ++ [key], ?split, ?ended, ?gathers⟩
    case split =>
      refine accounts.split.trans (List.Perm.append_right _ (List.Perm.append_right _ ?_))
      rw [listed, List.map_append, List.map_cons, List.map_append, List.append_assoc]
      exact List.Perm.append_left _ List.perm_middle
    case ended =>
      intro entry member
      apply accounts.ended
      rw [listed]
      exact List.mem_append.mpr ((List.mem_append.mp member).imp_right (List.mem_cons_of_mem _))
    case gathers =>
      rw [finds]
      exact accounts.gathers.append key

/-- A run keeps every key accounted for. -/
theorem Accounts.runs (accounts : Accounts find keys fetch collected)
    (runs : Runs find threads fetch next) : ∃ collected, Accounts find keys next collected := by
  induction runs with
  | refl => exact ⟨collected, accounts⟩
  | tail _ step ih =>
    obtain ⟨_, accounts⟩ := ih
    exact accounts.step step

/-- A fetch that is over has gathered what the catalog holds, in whichever order its lookups
completed. -/
theorem gathers_of_runs (runs : Runs find threads (ofKeys keys) fetch) (landed : fetch.IsOver) :
    Gathers find keys fetch.found := by
  obtain ⟨collected, accounts⟩ := (accounts_ofKeys find keys).runs runs
  obtain ⟨queued, running, ended⟩ := landed
  have split := accounts.split
  rw [queued, running, ended, List.map_nil, List.append_nil, List.append_nil, List.append_nil]
    at split
  exact accounts.gathers.perm split.symm

end Accounting

end Fetch

end Storefront.Profile
