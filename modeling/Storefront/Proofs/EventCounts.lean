import Storefront.Event.Ingestion
import Storefront.Proofs.Outages
/-!
# What the event counts tell

An event is counted before it is appended to the log, and its count stands if the log refuses it. So
the counts always tell the events that came in. They tell the events in the log as long as none has
been refused, and never again after that.
-/

namespace Storefront

namespace EventCounter

variable {counter : EventCounter} {tried logged : List Event}

/-- Counts tell events: how many there are, and how many have a type of each name. -/
structure Tells (counter : EventCounter) (events : List Event) : Prop where
  total : counter.total = events.length
  each : ∀ name, counter.countOf name = events.countP fun event => name == event.type.name

/-- Before anything is counted, no events are told. -/
theorem zero_tells : zero.Tells [] := ⟨rfl, fun _ => rfl⟩

/-- Counting one more of a type adds one to this type and nothing to the others. -/
theorem lookup_countIn (type name : String) (counts : List (String × Nat)) :
    ((countIn type counts).lookup name).getD 0 =
      (counts.lookup name).getD 0 + if name == type then 1 else 0 := by
  induction counts with
  | nil => cases own : name == type <;> simp [countIn, List.lookup, own]
  | cons entry rest ih =>
    obtain ⟨first, count⟩ := entry
    rw [countIn]
    by_cases here : first = type
    · subst here
      cases own : name == first <;> simp [List.lookup, own]
    · rw [if_neg here, List.lookup, List.lookup]
      cases own : name == first with
      | true =>
        have other : (name == type) = false := by rwa [eq_of_beq own, beq_eq_false_iff_ne]
        simp [other]
      | false => exact ih

/-- Counting an event, the counts tell one more. -/
theorem Tells.increment (tells : counter.Tells tried) (event : Event) :
    (counter.increment event.type.name).Tells (tried ++ [event]) where
  total := by rw [EventCounter.increment, tells.total, List.length_append, List.length_singleton]
  each name := by
    rw [List.countP_append, List.countP_singleton, ← tells.each name]
    exact lookup_countIn _ _ _

/-- Counts that tell some events tell no smaller selection of them. -/
theorem Tells.iff_of_sublist (tells : counter.Tells tried) (sublist : logged.Sublist tried) :
    counter.Tells logged ↔ logged = tried := by
  constructor
  · exact fun fewer => sublist.eq_of_length (fewer.total.symm.trans tells.total)
  · rintro rfl
    exact tells

end EventCounter

namespace Ingestion

variable {σ : Type} {append : Event → Call σ Unit} {log : σ → List Event}

/-- An append adds the event at the end of the log, or fails and leaves the log as it is. -/
structure Appends (append : Event → Call σ Unit) (log : σ → List Event) : Prop where
  taken : ∀ event state after, (append event).outcome state = (.ok (), after) →
    log after = log state ++ [event]
  refused : ∀ event state fault after, (append event).outcome state = (.error fault, after) →
    log after = log state

/-- A log to which events are appended stays one if chosen appends fail. -/
theorem Appends.struck (appends : Appends append log) (chosen : Nat → Option Fault) :
    Appends (fun event => (append event).struck chosen false ()) fun state => log state.rest where
  taken event state after appended := by
    cases strikes : chosen state.calls with
    | none =>
      simp only [Call.struck, Call.outcome_ofOutcome, strikes, Prod.mk.injEq] at appended
      obtain ⟨returned, rfl⟩ := appended
      exact appends.taken event state.rest _ (Prod.ext returned rfl)
    | some fault => simp [Call.struck, Call.outcome_ofOutcome, strikes] at appended
  refused event state fault after appended := by
    cases strikes : chosen state.calls with
    | none =>
      simp only [Call.struck, Call.outcome_ofOutcome, strikes, Prod.mk.injEq] at appended
      obtain ⟨failed, rfl⟩ := appended
      exact appends.refused event state.rest fault _ (Prod.ext failed rfl)
    | some other =>
      simp only [Call.struck, Call.outcome_ofOutcome, strikes, Prod.mk.injEq] at appended
      obtain ⟨-, rfl⟩ := appended
      rfl

/-- The log in memory takes every event. -/
theorem memory_appends : Appends Memory.collaborators.logEvent (·.events) where
  taken event memory after appended := by
    cases appended
    rfl
  refused event memory fault after appended := by cases appended

/-- The answers to events that come in one after the other, each with the state that it leaves. The
next event comes in whether or not the log has taken this one. -/
def recordEach (append : Event → Call σ Unit) :
    List Event → Counted σ → List (Except Fault Event × Counted σ)
  | [], _ => []
  | event :: rest, state =>
    let answered := (record append event).outcome state
    answered :: recordEach append rest answered.2

/-- The answers to events that come in while nothing has been counted. -/
def ingest (append : Event → Call σ Unit) (initial : σ) (events : List Event) :
    List (Except Fault Event × Counted σ) :=
  recordEach append events ⟨.zero, initial⟩

/-- The events that were recorded without a fault. -/
def recorded (answers : List (Except Fault Event × Counted σ)) : List Event :=
  answers.filterMap (·.1.toOption)

/-- An answer in front of others. -/
theorem recorded_cons (answer : Except Fault Event) (after : Counted σ)
    (others : List (Except Fault Event × Counted σ)) :
    recorded ((answer, after) :: others) = answer.toOption.toList ++ recorded others := by
  cases answer <;> rfl

/-- Recording an event counts it. The answer is a fault and the log as it was, or the answer is the
event and it stands at the end of the log. -/
theorem record_step (appends : Appends append log) (event : Event) (state : Counted σ) :
    ∃ answer after, (record append event).outcome state = (answer, after) ∧
      after.counter = state.counter.increment event.type.name ∧
      log after.rest = log state.rest ++ answer.toOption.toList ∧
      ∀ kept, answer = .ok kept → kept = event := by
  rw [record, Call.outcome_ofOutcome]
  rcases appended : (append event).outcome state.rest with ⟨fault | _, rest⟩
  · refine ⟨.error fault, _, rfl, rfl, ?_, fun _ impossible => by cases impossible⟩
    exact (appends.refused _ _ _ _ appended).trans (List.append_nil _).symm
  · refine ⟨.ok event, _, rfl, rfl, appends.taken _ _ _ appended, fun _ same => ?_⟩
    exact (Except.ok.inj same).symm

/-- Every event that comes in has an answer. -/
theorem length_recordEach (events : List Event) :
    ∀ state : Counted σ, (recordEach append events state).length = events.length := by
  induction events with
  | nil => exact fun _ => rfl
  | cons event rest ih => exact fun state => congrArg (· + 1) (ih _)

/-- Recording events from a state in which the counts tell other events: each answer leaves counts
that tell all events so far as well, and a log with the recorded ones of them at its end. -/
theorem recordEach_leaves (appends : Appends append log) (events : List Event) :
    ∀ (tried : List Event) (state : Counted σ), state.counter.Tells tried →
      ∀ place answer after, (recordEach append events state)[place]? = some (answer, after) →
        after.counter.Tells (tried ++ events.take (place + 1)) ∧
        log after.rest =
          log state.rest ++ recorded ((recordEach append events state).take (place + 1)) := by
  induction events with
  | nil => simp [recordEach]
  | cons event rest ih =>
    intro tried state tells place answer after found
    obtain ⟨first, next, stepped, counted, grown, -⟩ := record_step appends event state
    have nextTells : next.counter.Tells (tried ++ [event]) := counted ▸ tells.increment event
    rw [recordEach, stepped] at found ⊢
    rw [List.take_succ_cons, List.take_succ_cons, recorded_cons, ← List.append_assoc, ← grown]
    cases place with
    | zero =>
      cases found
      exact ⟨nextTells, (List.append_nil _).symm⟩
    | succ place =>
      obtain ⟨told, left⟩ := ih _ next nextTells place answer after found
      exact ⟨by simpa using told, left⟩

/-- The recorded events are among those that came in, in the same order. They are all of them if and
only if no answer is a fault. -/
theorem recorded_recordEach (appends : Appends append log) (events : List Event) :
    ∀ state : Counted σ,
      (recorded (recordEach append events state)).Sublist events ∧
      (recorded (recordEach append events state) = events ↔
        ∀ answered ∈ recordEach append events state, ∃ event, answered.1 = .ok event) := by
  induction events with
  | nil => simp [recordEach, recorded]
  | cons event rest ih =>
    intro state
    obtain ⟨first, next, stepped, -, -, own⟩ := record_step appends event state
    obtain ⟨sublist, all⟩ := ih next
    rw [recordEach, stepped, recorded_cons, List.forall_mem_cons, ← all]
    cases first with
    | ok kept =>
      cases own kept rfl
      exact ⟨sublist.cons_cons _, by simp [Except.toOption]⟩
    | error fault =>
      refine ⟨sublist.cons _, ?_⟩
      have shorter := sublist.length_le
      refine iff_of_false (fun same => ?_) (by simp)
      have length := congrArg List.length same
      simp [Except.toOption] at length
      omega

/-- Coming in first, events are answered as they are with others behind them. -/
theorem recordEach_take (events : List Event) :
    ∀ (state : Counted σ) (count : Nat),
      (recordEach append events state).take count =
        recordEach append (events.take count) state := by
  induction events with
  | nil => simp [recordEach]
  | cons event rest ih =>
    intro state count
    cases count with
    | zero => rfl
    | succ count => exact congrArg (_ :: ·) (ih _ count)

/-- Events that come in one after the other at fresh counts and an empty log, whichever of them the
log refuses. After each answer the counts tell the events that have come in so far, and the log
holds those of them that were answered without a fault, in order. So the counts tell the events in
the log if and only if there has been no fault so far. -/
theorem counts_tell_iff (appends : Appends append log) (initial : σ) (fresh : log initial = [])
    (events : List Event) :
    (ingest append initial events).length = events.length ∧
    ∀ place answer after, (ingest append initial events)[place]? = some (answer, after) →
      after.counter.Tells (events.take (place + 1)) ∧
      log after.rest = recorded ((ingest append initial events).take (place + 1)) ∧
      (log after.rest).Sublist (events.take (place + 1)) ∧
      (after.counter.Tells (log after.rest) ↔
        ∀ answered ∈ (ingest append initial events).take (place + 1),
          ∃ event, answered.1 = .ok event) := by
  refine ⟨length_recordEach events _, fun place answer after found => ?_⟩
  obtain ⟨tells, left⟩ :=
    recordEach_leaves appends events [] ⟨.zero, initial⟩ EventCounter.zero_tells _ _ _ found
  rw [List.nil_append] at tells
  rw [fresh, List.nil_append] at left
  obtain ⟨sublist, all⟩ :=
    recorded_recordEach appends (events.take (place + 1)) ⟨.zero, initial⟩
  rw [ingest, left, recordEach_take]
  exact ⟨tells, rfl, sublist, (tells.iff_of_sublist sublist).trans all⟩

section Sample

/-- The second append fails. -/
def sampleOutage (call : Nat) : Option Fault :=
  if call = 1 then some (.unavailable "events down") else none

/-- An event of a type. -/
def sampleEvent (type : EventType) : Event :=
  ⟨"ada", type, [("itemId", .str "gown")], none, none, ⟨63902944800000000, some 0⟩⟩

/-- A view and then a purchase, with a log in memory whose second append fails. -/
def sampleAnswers : List (Except Fault Event × Counted (Storefront.Counted Memory)) :=
  ingest (Memory.collaborators.struck sampleOutage false).logEvent ⟨0, .empty⟩
    [sampleEvent .viewItem, sampleEvent .purchase]

/-- A purchase that the log refuses is counted: the counts tell a view and a purchase, and only the
view is in the log. -/
theorem refused_event_counted :
    ∃ after, sampleAnswers[1]? = some (.error (.unavailable "events down"), after) ∧
      after.counter.total = 2 ∧ after.counter.countOf "PURCHASE" = 1 ∧
      after.rest.rest.events = [sampleEvent .viewItem] ∧
      ¬ after.counter.Tells after.rest.rest.events := by
  refine ⟨_, rfl, rfl, rfl, rfl, fun tells => ?_⟩
  cases tells.total

/-- After the view the counts tell the events in the log, and after the purchase those that came
in. -/
theorem counts_tell_iff_sample :
    Appends (Memory.collaborators.struck sampleOutage false).logEvent (·.rest.events) ∧
    Memory.empty.events = [] ∧
    ∃ first second, sampleAnswers =
        [(.ok (sampleEvent .viewItem), first), (.error (.unavailable "events down"), second)] ∧
      first.counter.Tells first.rest.rest.events ∧
      second.counter.Tells [sampleEvent .viewItem, sampleEvent .purchase] := by
  have appends : Appends (Memory.collaborators.struck sampleOutage false).logEvent
      (·.rest.events) := memory_appends.struck sampleOutage
  obtain ⟨-, each⟩ := counts_tell_iff appends ⟨0, .empty⟩ rfl
    [sampleEvent .viewItem, sampleEvent .purchase]
  obtain ⟨-, -, -, toldIff⟩ := each 0 _ _ rfl
  obtain ⟨toldAll, -⟩ := each 1 _ _ rfl
  exact ⟨appends, rfl, _, _, rfl, toldIff.mpr (List.forall_mem_singleton.mpr ⟨_, rfl⟩), toldAll⟩

end Sample

end Ingestion

end Storefront
