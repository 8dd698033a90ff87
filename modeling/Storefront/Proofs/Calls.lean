import Storefront.Call
/-!
# What calls and steps guarantee

Two statements about programs over a state. `Leaves` is about a step that cannot fail: from every
safe state it gives an answer with a property and leaves a safe state. `Ends` is about a call: it
also says with which faults the call may end. A call that fails with refusals only answers every
valid request. The rules compose the statements along the programs, so that nothing else needs to
look at how a call runs.
-/

namespace Storefront.Call

variable {σ α β : Type} {safe : σ → Prop}

/-- The fault of a request that no feed answers. -/
def IsRefusal (fault : Fault) : Prop := ∃ reason, fault = .badRequest reason

/-- From every safe state the step gives an answer with a property and leaves a safe state. -/
def Leaves (safe : σ → Prop) (step : StateM σ α) (post : α → Prop) : Prop :=
  ∀ state, safe state → post (step.run state).1 ∧ safe (step.run state).2

/-- From every safe state the call gives an answer with a property or one of some faults, and it
leaves a safe state. -/
def Ends (safe : σ → Prop) (call : Call σ α) (post : α → Prop) (faults : Fault → Prop) : Prop :=
  ∀ state, safe state → safe (call.outcome state).2 ∧
    match (call.outcome state).1 with
    | .ok answer => post answer
    | .error fault => faults fault

/-- Every answer has a property, and a valid request gets an answer. -/
structure Answers (valid : Prop) (post : α → Prop) (outcome : Except Fault α) : Prop where
  each : ∀ answer, outcome = .ok answer → post answer
  given : valid → ∃ answer, outcome = .ok answer

section Results

/-- A computation that gives a result as it is. -/
theorem pure_eq_ok (answer : α) : (pure answer : Except Fault α) = .ok answer := rfl

/-- One computation after another gives a result exactly if both do. -/
theorem bind_eq_ok_iff {first : Except Fault α} {next : α → Except Fault β} {result : β} :
    first >>= next = .ok result ↔ ∃ answer, first = .ok answer ∧ next answer = .ok result := by
  cases first with
  | error fault => simp [bind, Except.bind]
  | ok answer => simp [bind, Except.bind]

/-- A mapped computation gives a result exactly if the computation does. -/
theorem map_eq_ok_iff {first : Except Fault α} {f : α → β} {result : β} :
    first.map f = .ok result ↔ ∃ answer, first = .ok answer ∧ f answer = result := by
  cases first with
  | error fault => simp [Except.map]
  | ok answer => simp [Except.map]

/-- A computation with something to give gives it as its result. -/
theorem ok_of_isSome {computation : Except Fault α} (given : computation.toOption.isSome = true) :
    ∃ answer, computation = .ok answer := by
  cases computation with
  | error fault => simp [Except.toOption] at given
  | ok answer => exact ⟨answer, rfl⟩

/-- A computation of whose result something is known gives it. -/
theorem ok_of_toOption_map {computation : Except Fault α} {f : α → β} {image : β}
    (given : computation.toOption.map f = some image) :
    ∃ answer, computation = .ok answer ∧ f answer = image := by
  cases computation with
  | error fault => simp [Except.toOption] at given
  | ok answer => exact ⟨answer, rfl, Option.some.inj given⟩

end Results

section Outcomes

/-- A call followed by another one: the second one runs where the first one answered. -/
theorem outcome_bind (call : Call σ α) (next : α → Call σ β) (state : σ) :
    (call >>= next).outcome state =
      match call.outcome state with
      | (.ok answer, changed) => (next answer).outcome changed
      | (.error fault, changed) => (.error fault, changed) := by
  simp only [outcome, ExceptT.run_bind, StateT.run_bind]
  rcases call.run.run state with ⟨fault | answer, changed⟩ <;> rfl

/-- A computation as a call leaves the state as it is. -/
theorem outcome_ofExcept (result : Except Fault α) (state : σ) :
    (ofExcept result).outcome state = (result, state) := rfl

/-- A call given by its outcomes has them. -/
theorem outcome_ofOutcome (run : σ → Except Fault α × σ) (state : σ) :
    (ofOutcome run).outcome state = run state := rfl

/-- A call with a fallback gives the fallback in place of a fault. -/
theorem orElse_run (call : Call σ α) (fallback : α) (state : σ) :
    (call.orElse fallback).run state =
      match call.outcome state with
      | (.ok answer, changed) => (answer, changed)
      | (.error _, changed) => (fallback, changed) := by
  simp only [orElse, outcome, StateT.run_bind]
  rcases call.run.run state with ⟨fault | answer, changed⟩ <;> rfl

/-- A step as a call answers what the step gives. -/
theorem outcome_ofState (step : StateM σ α) (state : σ) :
    (ofState step).outcome state = (.ok (step.run state).1, (step.run state).2) := rfl

/-- A computation and then a call answer exactly if both do. -/
theorem answers_ofExcept_bind_iff {computation : Except Fault α} {next : α → Call σ β} {state : σ}
    {result : β} :
    ((ofExcept computation >>= next).outcome state).1 = .ok result ↔
      ∃ answer, computation = .ok answer ∧ ((next answer).outcome state).1 = .ok result := by
  rw [outcome_bind, outcome_ofExcept]
  cases computation <;> simp

/-- A step and then a call answer exactly if the call does after the step. -/
theorem answers_ofState_bind_iff {step : StateM σ α} {next : α → Call σ β} {state : σ}
    {result : β} :
    ((ofState step >>= next).outcome state).1 = .ok result ↔
      ((next (step.run state).1).outcome (step.run state).2).1 = .ok result := by
  rw [outcome_bind, outcome_ofState]

/-- A call whose failure counts as an answer does not fail. -/
theorem outcome_attempt (call : Call σ α) (state : σ) :
    (ofState call.attempt).outcome state =
      match call.outcome state with
      | (.ok answer, changed) => (.ok (some answer), changed)
      | (.error _, changed) => (.ok none, changed) := by
  rw [outcome_ofState]
  simp only [attempt, outcome, StateT.run_bind]
  rcases call.run.run state with ⟨fault | answer, changed⟩ <;> rfl

end Outcomes

section Steps

/-- A step that only answers. -/
theorem Leaves.pure {post : α → Prop} {answer : α} (holds : post answer) :
    Leaves safe (Pure.pure answer) post := fun _ kept => ⟨holds, kept⟩

/-- Steps one after the other. -/
theorem Leaves.bind {step : StateM σ α} {next : α → StateM σ β} {post : α → Prop}
    {final : β → Prop} (first : Leaves safe step post)
    (rest : ∀ answer, post answer → Leaves safe (next answer) final) :
    Leaves safe (step >>= next) final := by
  intro state kept
  obtain ⟨holds, kept⟩ := first state kept
  exact rest _ holds _ kept

/-- A step says less about its answer. -/
theorem Leaves.mono {step : StateM σ α} {post final : α → Prop} (first : Leaves safe step post)
    (weaker : ∀ answer, post answer → final answer) : Leaves safe step final := by
  intro state kept
  obtain ⟨holds, kept⟩ := first state kept
  exact ⟨weaker _ holds, kept⟩

/-- What follows a step needs to be known for its possible answers only. -/
theorem Leaves.bind_congr {step : StateM σ α} {next other : α → Call σ β} {post : α → Prop}
    (leaves : Leaves (fun _ => True) step post)
    (same : ∀ answer, post answer → next answer = other answer) :
    ofState step >>= next = ofState step >>= other := by
  have outcomes : (ofState step >>= next).outcome = (ofState step >>= other).outcome := by
    funext state
    rw [outcome_bind, outcome_bind, outcome_ofState]
    dsimp only
    rw [same _ (leaves state trivial).1]
  exact outcomes

/-- A call with a fallback that has the property as well, if the call can fail. -/
theorem Leaves.orElse {call : Call σ α} {fallback : α} {post : α → Prop} {faults : Fault → Prop}
    (ends : Ends safe call post faults) (holds : ∀ fault, faults fault → post fallback) :
    Leaves safe (call.orElse fallback) post := by
  intro state kept
  have ended := ends state kept
  rw [orElse_run]
  rcases outcome : call.outcome state with ⟨fault | answer, changed⟩
  · rw [outcome] at ended
    exact ⟨holds fault ended.2, ended.1⟩
  · rw [outcome] at ended
    exact ⟨ended.2, ended.1⟩

end Steps

section Programs

variable {faults : Fault → Prop}

/-- A call that only answers. -/
theorem Ends.pure {post : α → Prop} {answer : α} (holds : post answer) :
    Ends safe (Pure.pure answer) post faults := fun _ kept => ⟨kept, holds⟩

/-- A step as a call. -/
theorem Ends.ofState {step : StateM σ α} {post : α → Prop} (leaves : Leaves safe step post) :
    Ends safe (ofState step) post faults := by
  intro state kept
  obtain ⟨holds, kept⟩ := leaves state kept
  exact ⟨kept, holds⟩

/-- A computation that gives a result. -/
theorem Ends.ofOk {result : Except Fault α} {post : α → Prop}
    (answers : ∃ answer, result = .ok answer ∧ post answer) :
    Ends safe (ofExcept result) post faults := by
  obtain ⟨answer, rfl, holds⟩ := answers
  exact fun _ kept => ⟨kept, holds⟩

/-- A computation that gives a result or one of the faults. -/
theorem Ends.ofExcept {result : Except Fault α} {post : α → Prop}
    (answers : ∀ answer, result = .ok answer → post answer)
    (fails : ∀ fault, result = .error fault → faults fault) :
    Ends safe (Call.ofExcept result) post faults := by
  intro state kept
  refine ⟨kept, ?_⟩
  rw [outcome_ofExcept]
  cases result with
  | ok answer => exact answers answer rfl
  | error fault => exact fails fault rfl

/-- Calls one after the other. -/
theorem Ends.bind {call : Call σ α} {next : α → Call σ β} {post : α → Prop} {final : β → Prop}
    (first : Ends safe call post faults)
    (rest : ∀ answer, post answer → Ends safe (next answer) final faults) :
    Ends safe (call >>= next) final faults := by
  intro state kept
  have ended := first state kept
  rw [outcome_bind]
  rcases outcome : call.outcome state with ⟨fault | answer, changed⟩
  · rw [outcome] at ended
    exact ended
  · rw [outcome] at ended
    exact rest answer ended.2 changed ended.1

/-- A call says less about its answers and faults. -/
theorem Ends.mono {call : Call σ α} {post final : α → Prop} {others : Fault → Prop}
    (ends : Ends safe call post faults) (weaker : ∀ answer, post answer → final answer)
    (wider : ∀ fault, faults fault → others fault) : Ends safe call final others := by
  intro state kept
  obtain ⟨kept, holds⟩ := ends state kept
  refine ⟨kept, ?_⟩
  revert holds
  cases (call.outcome state).1 with
  | ok answer => exact weaker answer
  | error fault => exact wider fault

/-- A call whose faults are all refusals of requests that are not valid answers the valid ones. -/
theorem Ends.answers {call : Call σ α} {post final : α → Prop} {valid : Prop}
    (ends : Ends safe call post faults) {state : σ} (kept : safe state)
    (refused : ∀ fault, faults fault → ¬ valid)
    (weaker : ∀ answer, post answer → final answer) :
    Answers valid final (call.outcome state).1 := by
  obtain ⟨-, holds⟩ := ends state kept
  constructor
  · intro answer answers
    rw [answers] at holds
    exact weaker answer holds
  · intro isValid
    cases result : (call.outcome state).1 with
    | ok answer => exact ⟨answer, rfl⟩
    | error fault =>
      rw [result] at holds
      exact absurd isValid (refused fault holds)

end Programs

end Storefront.Call
