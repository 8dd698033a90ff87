import Storefront.Proofs.Calls
import Storefront.Proofs.Sequences
import Storefront.User.Pooling
/-!
# Vectors and pools

A fitted vector is known by its entries: those of the vector it is made from, and zeros behind them.
A pool grows by the shares of its events, a weight and a style for every event that says anything,
and by nothing for the others. These facts hold on machine floats and on exact scalars.
-/

namespace Storefront

variable {R : Type} [Analytic R]

namespace Vector

/-- Making a vector one long keeps its number of entries. -/
theorem length_normalize (v : List R) : (normalize v).length = v.length := by
  unfold normalize
  dsimp only
  split
  · rfl
  · exact List.length_map _

/-- A fitted vector has the entries of the vector it is made from, and zeros behind them. -/
theorem fit_eq_map (dim : Nat) (v : List R) :
    fit (dim : Int) v = (List.range dim).map fun i => v.getD i Scalar.zero := by
  have cut : dim ≤ v.length → v.take dim = (List.range dim).map fun i => v.getD i Scalar.zero := by
    intro long
    apply List.ext_getElem
    · simp [long]
    · intro i inCut _
      have within : i < v.length := by
        rw [List.length_take] at inCut
        omega
      simp [within]
  unfold fit
  split
  · next long =>
    split
    · next exact =>
      rw [← cut (by omega), List.take_of_length_le (by omega)]
    · rw [Sequence.cut_eq_take (by omega), Int.toNat_natCast, cut (by omega)]
  · next short =>
    apply List.ext_getElem
    · simp
      omega
    · intro i _ _
      by_cases within : i < v.length
      · simp [within]
      · simp [within, Nat.le_of_not_lt within]

/-- A fitted vector has the set number of entries. -/
theorem length_fit (dim : Nat) (v : List R) : (fit (dim : Int) v).length = dim := by
  rw [fit_eq_map, List.length_map, List.length_range]

/-- Mixed vectors are as long as the longer one of them. -/
theorem length_mix (alpha : R) (profile session : List R) :
    (mix alpha profile session).length = max profile.length session.length := by
  simp only [mix, add, scale, List.length_zipWith, List.length_map, length_fit, min_self]

/-- A blend is empty only if one of its sides is. -/
theorem empty_of_blend {alpha : R} {profile session : Option (List R)}
    (blends : blend alpha profile session = some []) : profile = some [] ∨ session = some [] := by
  cases profile with
  | none => exact .inr blends
  | some profile =>
    cases session with
    | none => exact .inl blends
    | some session =>
      have length := congrArg List.length (Option.some.inj blends)
      rw [length_normalize, length_mix, List.length_nil] at length
      exact .inl (congrArg some (List.length_eq_zero_iff.mp (by omega)))

end Vector

namespace Pooling

variable {styles : Styles R} {now : Moment}

/-- Adding an event keeps the number of entries of the sum. -/
theorem length_addEvent {pool result : Pool R} {event : Event}
    (adds : addEvent styles now pool event = .ok result) :
    result.sum.length = pool.sum.length := by
  unfold addEvent at adds
  split at adds
  · cases adds
    rfl
  · split at adds
    · cases adds
    · cases adds
      split
      · rfl
      · rw [Pool.add, Vector.add, List.length_zipWith, List.length_map, Vector.length_fit, min_self]

/-- Adding events keeps the number of entries of the sum. -/
theorem length_addEvents {events : List Event} :
    ∀ {pool result : Pool R}, addEvents styles now pool events = .ok result →
      result.sum.length = pool.sum.length := by
  induction events with
  | nil =>
    intro pool result adds
    cases adds
    rfl
  | cons event rest ih =>
    intro pool result adds
    unfold addEvents at adds
    split at adds
    · cases adds
    · next first => exact (ih adds).trans (length_addEvent first)

/-- The direction of events has the set number of entries. -/
theorem length_of_direction {dim : Nat} {events : List Event} {vector : List R}
    (directs : direction styles dim now events = .ok (some vector)) : vector.length = dim := by
  obtain ⟨pool, adds, points⟩ := Call.map_eq_ok_iff.mp directs
  unfold Pool.direction? at points
  split at points
  · cases points
  · cases points
    rw [Vector.length_normalize, length_addEvents adds]
    exact List.length_replicate

section Shares

/-- What an event adds to a pool: its weight and the style of its item, unless there is no such
style or the weight is zero. -/
def share? (styles : Styles R) (now : Moment) (event : Event) : Option (R × List R) :=
  (styleOf? styles event).bind fun style =>
    if Scalar.isZero (event.weight now : R) then none else some (event.weight now, style)

/-- What some events add to a pool, in their order. -/
def shares (styles : Styles R) (now : Moment) (events : List Event) : List (R × List R) :=
  events.filterMap (share? styles now)

/-- A pool with some shares added, one after the other. -/
def Pool.addAll (pool : Pool R) (shares : List (R × List R)) : Pool R :=
  shares.foldl (fun pool share => pool.add share.2 share.1) pool

/-- The clock and the moments of some events can be told apart by their offsets from UTC. -/
def IsTimely (now : Moment) (events : List Event) : Prop :=
  ∀ event ∈ events, now.comparable event.timestamp = true

/-- Adding an event adds its share. -/
theorem addEvent_eq {event : Event} (timely : now.comparable event.timestamp = true)
    (pool : Pool R) :
    addEvent styles now pool event = .ok (pool.addAll (share? styles now event).toList) := by
  unfold addEvent share? Event.weightAt
  cases styleOf? styles event with
  | none => rfl
  | some style =>
    simp only [timely, Bool.or_true, if_true, Option.bind_some]
    split <;> rfl

/-- Adding events adds their shares. -/
theorem addEvents_eq {events : List Event} (timely : IsTimely now events) (pool : Pool R) :
    addEvents styles now pool events = .ok (pool.addAll (shares styles now events)) := by
  induction events generalizing pool with
  | nil => rfl
  | cons event rest ih =>
    obtain ⟨first, others⟩ := List.forall_mem_cons.mp timely
    rw [addEvents, addEvent_eq first]
    dsimp only
    rw [ih others, shares, shares, List.filterMap_cons]
    cases share? styles now event <;> rfl

/-- A weight at a moment is the weight there. -/
theorem of_weightAt {event : Event} {weight : R} (weighs : event.weightAt now = .ok weight) :
    weight = event.weight now := by
  unfold Event.weightAt at weighs
  split at weighs
  · exact (Except.ok.inj weighs).symm
  · cases weighs

/-- An event that can be added adds its share. -/
theorem of_addEvent {event : Event} {pool result : Pool R}
    (adds : addEvent styles now pool event = .ok result) :
    result = pool.addAll (share? styles now event).toList := by
  unfold addEvent at adds
  unfold share?
  split at adds
  · next styleless =>
    rw [styleless]
    exact (Except.ok.inj adds).symm
  · next style styled =>
    split at adds
    · cases adds
    · next weight weighs =>
      rw [← Except.ok.inj adds, styled, Option.bind_some, of_weightAt weighs]
      split <;> rfl

/-- Events that can be added add their shares. -/
theorem of_addEvents {events : List Event} :
    ∀ {pool result : Pool R}, addEvents styles now pool events = .ok result →
      result = pool.addAll (shares styles now events) := by
  induction events with
  | nil =>
    intro pool result adds
    exact (Except.ok.inj adds).symm
  | cons event rest ih =>
    intro pool result adds
    unfold addEvents at adds
    split at adds
    · cases adds
    · next first =>
      rw [ih adds, of_addEvent first, shares, shares, List.filterMap_cons]
      cases share? styles now event <;> rfl

/-- The direction of events is the direction of their shares. -/
theorem direction_eq {events : List Event} (timely : IsTimely now events) (dim : Nat) :
    direction styles dim now events =
      .ok ((Pool.empty dim).addAll (shares styles now events)).direction? := by
  rw [direction, addEvents_eq timely]
  rfl

end Shares

section Reading

variable {others : Styles R}

/-- Of the styles only those of the events' items are read. -/
theorem addEvents_congr {events : List Event}
    (same : ∀ event ∈ events, ∀ key, event.itemKey? = some key → styles key.slot = others key.slot)
    (pool : Pool R) : addEvents styles now pool events = addEvents others now pool events := by
  induction events generalizing pool with
  | nil => rfl
  | cons event rest ih =>
    obtain ⟨first, same⟩ := List.forall_mem_cons.mp same
    have style : styleOf? styles event = styleOf? others event := by
      unfold styleOf?
      cases named : event.itemKey? with
      | none => rfl
      | some key => rw [Option.bind_some, Option.bind_some, first key named]
    simp only [addEvents, addEvent, style, ih same]

/-- Events without a style may be left out. -/
theorem addEvents_filter {events : List Event} {keeps : Event → Bool}
    (idle : ∀ event ∈ events, keeps event = false → styleOf? styles event = none)
    (pool : Pool R) :
    addEvents styles now pool (events.filter keeps) = addEvents styles now pool events := by
  induction events generalizing pool with
  | nil => rfl
  | cons event rest ih =>
    obtain ⟨first, idle⟩ := List.forall_mem_cons.mp idle
    cases kept : keeps event with
    | false =>
      have adds : addEvent styles now pool event = .ok pool := by
        simp only [addEvent, first kept]
      rw [List.filter_cons_of_neg (by simp [kept]), ih idle, addEvents, adds]
    | true =>
      rw [List.filter_cons_of_pos kept, addEvents, addEvents]
      cases addEvent styles now pool event with
      | error fault => rfl
      | ok pool => exact ih idle pool

end Reading

end Pooling

end Storefront
