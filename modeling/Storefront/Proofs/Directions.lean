import Storefront.Proofs.Fetches
import Storefront.Proofs.Vectors
/-!
# The direction of events

The direction of events over the styles of their items, for scalars of any kind. On machine floats
it is what profiles are computed from. It is a fault if an event refers to its item by a list or an
object; otherwise it is the direction of the pool, with the styles of what the catalog holds,
however the items were looked up.
-/

namespace Storefront

open Call (Leaves)

variable {R : Type} [Analytic R]

/-- A value that something can be looked up by: neither a list nor an object. -/
def Json.IsKey (value : Json) : Prop :=
  match value with
  | .arr _ | .obj _ => False
  | _ => True

/-- A given value is the value. -/
theorem Json.eq_of_given? {value given : Json} (holds : value.given? = some given) :
    value = given := by
  unfold given? at holds
  split at holds
  · exact Option.some.inj holds
  · cases holds

/-- A given reference to an item is a value that can be looked up. -/
def Event.HasKey (event : Event) : Prop :=
  ∀ value, event.itemReference.given? = some value → value.IsKey

namespace Pooling

/-- References can be looked up if each of them can. -/
theorem checkReferences_eq_ok {values : List Json} (keys : ∀ value ∈ values, value.IsKey) :
    checkReferences values = .ok () := by
  induction values with
  | nil => rfl
  | cons value rest ih =>
    obtain ⟨first, others⟩ := List.forall_mem_cons.mp keys
    cases value with
    | arr items => exact first.elim
    | obj entries => exact first.elim
    | null | bool | int | float | str => exact ih others

/-- The first reference that cannot be looked up is the fault. -/
theorem checkReferences_eq_error {values : List Json} (lacks : ∃ value ∈ values, ¬ value.IsKey) :
    ∃ kind, checkReferences values = .error (.unhashable kind) := by
  induction values with
  | nil => simp at lacks
  | cons value rest ih =>
    cases value with
    | arr items => exact ⟨_, rfl⟩
    | obj entries => exact ⟨_, rfl⟩
    | null | bool | int | float | str => exact ih (by simpa [Json.IsKey] using lacks)

variable {events : List Event}

/-- The references of events that have keys can be looked up. -/
theorem checkReferences_of_keys (keys : ∀ event ∈ events, event.HasKey) :
    checkReferences (references events) = .ok () := by
  apply checkReferences_eq_ok
  intro value member
  obtain ⟨event, held, given⟩ := List.mem_filterMap.mp member
  exact keys event held value given

/-- An event without a key is a fault. -/
theorem checkReferences_of_no_key (lacks : ∃ event ∈ events, ¬ event.HasKey) :
    ∃ kind, checkReferences (references events) = .error (.unhashable kind) := by
  obtain ⟨event, held, lacks⟩ := lacks
  unfold Event.HasKey at lacks
  push Not at lacks
  obtain ⟨value, given, lacks⟩ := lacks
  exact checkReferences_eq_error ⟨value, List.mem_filterMap.mpr ⟨event, held, given⟩, lacks⟩

/-- The keys that are looked up are keys that events name. -/
theorem exists_of_mem_itemKeys {key : Key} (asked : key ∈ itemKeys events) :
    ∃ event ∈ events, event.itemKey? = some key :=
  List.mem_filterMap.mp ((Sequence.firstsBy_sublist _ _).subset asked)

/-- In the slot of every key that events name something is looked up. -/
theorem slot_mem_itemKeys {event : Event} (held : event ∈ events) {key : Key}
    (named : event.itemKey? = some key) : key.slot ∈ (itemKeys events).map Key.slot := by
  rw [itemKeys, Sequence.mem_map_firstsBy]
  exact List.mem_map_of_mem (List.mem_filterMap.mpr ⟨event, held, named⟩)

end Pooling

namespace Profile

variable {σ : Type} {safe : σ → Prop} {world : Collaborators σ} {find : Slot → Option Item}

/-- The direction of some events, with the styles of their items looked up. -/
def directionOf (world : Collaborators σ) (styleOf : Item → Option (List R)) (dim : Nat)
    (now : Moment) (events : List Event) : Call σ (Option (List R)) := do
  if events.isEmpty then pure none
  else
    Call.ofExcept (Pooling.checkReferences (Pooling.references events))
    let items ← Call.ofState (loadItems world (Pooling.itemKeys events))
    let styles : Pooling.Styles R := fun slot => (items.lookup slot).bind styleOf
    Call.ofExcept (Pooling.direction styles dim now events)

/-- Profiles are computed from directions on machine floats. -/
theorem ofEvents_eq (world : Collaborators σ) (config : Config) (now : Moment)
    (events : List Event) :
    ofEvents world config now events =
      directionOf world (·.styleVector?) config.dim now events := rfl

/-- The styles of the items that a catalog holds. -/
def stylesOf (find : Slot → Option Item) (styleOf : Item → Option (List R)) : Pooling.Styles R :=
  fun slot => (find slot).bind styleOf

variable {styleOf : Item → Option (List R)} {dim : Nat} {now : Moment} {events : List Event}

/-- The direction over gathered items is the direction over the catalog. -/
theorem direction_of_gathers {items : List (Slot × Item)}
    (gathers : Gathers find (Pooling.itemKeys events) items) :
    Pooling.direction (fun slot => (items.lookup slot).bind styleOf) dim now events =
      Pooling.direction (stylesOf find styleOf) dim now events := by
  unfold Pooling.direction
  rw [Pooling.addEvents_congr fun event held key named => ?_]
  rw [gathers key.slot, if_pos (Pooling.slot_mem_itemKeys held named), stylesOf]

/-- An event without a key stops the computation before anything is looked up. -/
theorem outcome_directionOf_of_no_key (world : Collaborators σ)
    (lacks : ∃ event ∈ events, ¬ event.HasKey) (state : σ) :
    ∃ kind, (directionOf world styleOf dim now events).outcome state =
      (.error (.unhashable kind), state) := by
  obtain ⟨kind, fails⟩ := Pooling.checkReferences_of_no_key lacks
  have some : events.isEmpty = false := by
    obtain ⟨event, held, -⟩ := lacks
    exact List.isEmpty_eq_false_iff_exists_mem.mpr ⟨event, held⟩
  refine ⟨kind, ?_⟩
  simp only [directionOf, some, Bool.false_eq_true, if_false, Call.outcome_bind,
    Call.outcome_ofExcept, fails]

/-- Of events with keys the computation gives the direction over the catalog. -/
theorem outcome_directionOf (zero : Scalar.isZero (Scalar.zero : R) = true)
    (finds : ∀ key ∈ Pooling.itemKeys events, FindsBy safe world find key)
    (keys : ∀ event ∈ events, event.HasKey) {state : σ} (kept : safe state) :
    ((directionOf world styleOf dim now events).outcome state).1 =
      Pooling.direction (stylesOf find styleOf) dim now events := by
  unfold directionOf
  split
  · next none =>
    rw [List.isEmpty_iff.mp none]
    have idle : (Pooling.Pool.empty dim : Pooling.Pool R).direction? = Option.none := if_pos zero
    exact congrArg Except.ok idle.symm
  · rw [Pooling.checkReferences_of_keys keys]
    exact direction_of_gathers (loadItems_gathers finds state kept).1

end Profile

end Storefront
