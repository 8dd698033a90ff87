import Storefront.Fault
/-!
# Calls to collaborators

Stores, searches and services are reached through calls. A call changes the state of the world and
either answers or fails; the state is kept in both cases. Stages that must not fail run a call
with an answer to fall back on.
-/

namespace Storefront

/-- A call: an answer or a fault, and the state it leaves. -/
abbrev Call (σ α : Type) := ExceptT Fault (StateM σ) α

namespace Call

variable {σ α : Type}

/-- The outcome of a call in a state. -/
def outcome (call : Call σ α) (state : σ) : Except Fault α × σ := call.run.run state

/-- A call given by its outcome in every state. -/
def ofOutcome (run : σ → Except Fault α × σ) : Call σ α := ExceptT.mk fun state => run state

/-- A call whose failure counts as an answer. -/
def orElse (call : Call σ α) (fallback : α) : StateM σ α := do
  match ← call.run with
  | .ok answer => pure answer
  | .error _ => pure fallback

/-- The answer of a call, if it gives one. -/
def attempt (call : Call σ α) : StateM σ (Option α) := do
  match ← call.run with
  | .ok answer => pure (some answer)
  | .error _ => pure none

/-- A step that cannot fail, as a call. -/
def ofState (step : StateM σ α) : Call σ α := ExceptT.mk do
  let answer ← step
  pure (.ok answer)

/-- A computation that changes nothing, as a call. -/
def ofExcept (result : Except Fault α) : Call σ α := ExceptT.mk (pure result)

end Call

end Storefront
