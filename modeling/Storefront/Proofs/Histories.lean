import Storefront.Proofs.Records
import Storefront.Proofs.Sorting
import Storefront.Store.Memory
/-!
# Histories

A history is what the log of events tells about one user. Moments compare only if both have an
offset or neither has, so a log that held both kinds could not be sorted. Reading an event gives
its moment an offset, and a question about the time since some moment does the same with that
moment: no comparison fails, and every answer is the beginning of one list, which is the user's
events from the newest one down.
-/

namespace Storefront

namespace Moment

/-- A clock that is taken to be in UTC shows the same instant. -/
theorem assumingUtc_instant (moment : Moment) : moment.assumingUtc.instant = moment.instant := rfl

/-- One moment is not before another one exactly if its instant is not. -/
theorem isBefore_eq_false_iff {first second : Moment} :
    first.isBefore second = false ↔ second.instant ≤ first.instant := by
  rw [isBefore, decide_eq_false_iff_not, not_lt]

end Moment

/-- The moment of an event that is read is the one in its record, or the reader's present, on a
clock with an offset. -/
theorem Event.timestamp_of_parse {now : Moment} {row : Row} {event : Event}
    (parses : Event.parse now row = .ok event) :
    ∃ moment, row.withDefault "timestamp" Reader.moment now = .valid moment ∧
      event.timestamp = moment.assumingUtc := by
  rw [parse, Checked.toExcept_eq_ok_iff, read] at parses
  simp only [Checked.seq_eq_valid_iff, Checked.map_eq_valid_iff] at parses
  obtain ⟨_, _, ⟨_, _, ⟨_, _, ⟨_, _, ⟨_, _, ⟨_, _, rfl⟩, _, rfl⟩, _, rfl⟩, _, rfl⟩, _, rfl⟩, dated,
    rfl⟩ := parses
  obtain ⟨moment, reads, rfl⟩ := Checked.exists_of_map dated
  exact ⟨moment, reads, rfl⟩

namespace EventLog

/-- Whether an event is older than another one, or the fault of comparing their moments. -/
def isOlder (first second : Event) : Except Fault Bool :=
  Attribute.less (.moment first.timestamp) (.moment second.timestamp)

/-- The events from a moment on, or the fault of comparing one of theirs with it. -/
def sinceM (start : Moment) : List Event → Except Fault (List Event)
  | [] => .ok []
  | event :: rest => do
    let isEarlier ← Attribute.less (.moment event.timestamp) (.moment start.assumingUtc)
    let later ← sinceM start rest
    pure (if isEarlier then later else event :: later)

/-- `ofUser` with comparisons that fail between a moment with an offset and one without. -/
def ofUserM (log : EventLog) (userId : String) (since : Option Moment) :
    Except Fault (List Event) :=
  let own := log.filter fun event => event.userId == userId
  match since with
  | none => .ok own
  | some start => sinceM start own

/-- `recent` with comparisons that fail between a moment with an offset and one without. -/
def recentM (log : EventLog) (userId : String) (limit : Int) (since : Option Moment) :
    Except Fault (List Event) := do
  let selected ← ofUserM log userId since
  let sorted ← Sequence.descendingM isOlder selected
  pure (Sequence.cut limit sorted)

/-- The moments of all events of a log have offsets. -/
def IsZoned (log : EventLog) : Prop := ∀ event ∈ log, event.timestamp.offset.isSome = true

/-- The events of a user from a moment on, by the instants at which they happened. -/
def wanted (log : EventLog) (userId : String) (since : Option Moment) : List Event :=
  log.filter fun event =>
    event.userId = userId ∧ ∀ start ∈ since, start.instant ≤ event.timestamp.instant

/-- A list tells some events from the newest one down. -/
structure Recounts (wanted recounted : List Event) : Prop where
  /-- No event is lost, and none is told twice. -/
  complete : recounted.Perm wanted
  newestFirst : recounted.Pairwise fun earlier later =>
    later.timestamp.instant ≤ earlier.timestamp.instant
  /-- Events of one instant stay in order. -/
  ties : ∀ instant, (recounted.filter fun event => event.timestamp.instant == instant) =
    wanted.filter fun event => event.timestamp.instant == instant

section Reading

variable {log : EventLog}

/-- Moments with offsets compare. -/
theorem less_of_zoned {first second : Moment} (zoned : first.offset.isSome = true)
    (alsoZoned : second.offset.isSome = true) :
    Attribute.less (.moment first) (.moment second) = .ok (first.isBefore second) := by
  rw [Attribute.less, Moment.comparable, zoned, alsoZoned]
  rfl

/-- Every event with an offset is compared with the start of the time that is asked about. -/
theorem sinceM_eq (zoned : log.IsZoned) (start : Moment) :
    sinceM start log = .ok (log.filter (isSince start)) := by
  induction log with
  | nil => rfl
  | cons event rest ih =>
    obtain ⟨first, others⟩ := List.forall_mem_cons.mp zoned
    rw [sinceM, less_of_zoned first rfl, ih others, List.filter_cons, isSince]
    cases event.timestamp.isBefore start.assumingUtc <;> rfl

/-- Selecting from a log whose moments have offsets does not fail. -/
theorem ofUserM_eq (zoned : log.IsZoned) (userId : String) (since : Option Moment) :
    ofUserM log userId since = .ok (log.ofUser userId since) := by
  cases since with
  | none => simp only [ofUserM, ofUser, Option.all_none, Bool.and_true]
  | some start =>
    have own : IsZoned (log.filter fun event => event.userId == userId) :=
      fun event member => zoned event (List.mem_of_mem_filter member)
    simp only [ofUserM, ofUser, sinceM_eq own, List.filter_filter, Option.all_some, Bool.and_comm]

/-- Reading a log whose moments have offsets does not fail. -/
theorem recentM_eq (zoned : log.IsZoned) (userId : String) (limit : Int) (since : Option Moment) :
    recentM log userId limit since = .ok (log.recent userId limit since) := by
  have sorts : Sequence.descendingM isOlder (log.ofUser userId since) =
      .ok (Sequence.descending (fun a b => a.timestamp.isBefore b.timestamp)
        (log.ofUser userId since)) :=
    Sequence.descendingM_eq fun first member second alsoMember =>
      less_of_zoned (zoned first (List.mem_of_mem_filter member))
        (zoned second (List.mem_of_mem_filter alsoMember))
  rw [recentM, ofUserM_eq zoned]
  exact congrArg (Functor.map (Sequence.cut limit)) sorts

/-- The events that a question selects are the wanted ones. -/
theorem ofUser_eq (log : EventLog) (userId : String) (since : Option Moment) :
    log.ofUser userId since = log.wanted userId since := by
  refine List.filter_congr fun event _ => ?_
  rw [Bool.eq_iff_iff, decide_eq_true_iff, Bool.and_eq_true, beq_iff_eq, Option.all_eq_true]
  refine and_congr_right fun _ => forall₂_congr fun start _ => ?_
  rw [isSince, Bool.not_eq_true', Moment.isBefore_eq_false_iff, Moment.assumingUtc_instant]

/-- Sorting the wanted events recounts them, and every answer is a beginning of this list. -/
theorem recounts (log : EventLog) (userId : String) (since : Option Moment) :
    ∃ recounted, Recounts (log.wanted userId since) recounted ∧
      ∀ limit : Nat, log.recent userId limit since = recounted.take limit := by
  let instant (event : Event) := event.timestamp.instant
  refine ⟨Sequence.descending (Sequence.ranksBelow instant) (log.wanted userId since),
    ⟨?complete, ?newestFirst, ?ties⟩, fun limit => ?answers⟩
  case answers =>
    -- Comparing two moments is comparing their instants, so both sides sort alike.
    rw [← ofUser_eq]
    rfl
  case complete => exact Sequence.descending_perm _ _
  case newestFirst => exact Sequence.descending_pairwise _
  case ties => exact fun instant => Sequence.filter_descending_of_rank instant _

end Reading

end EventLog

namespace Memory

/-- Events logged one after the other stand in the log in that order. -/
theorem logged (memory : Memory) (events : List Event) :
    (events.forM collaborators.logEvent).outcome memory =
      (.ok (), { memory with events := memory.events ++ events }) := by
  induction events generalizing memory with
  | nil =>
    rw [List.append_nil]
    rfl
  | cons event rest ih =>
    have appended : (collaborators.logEvent event).outcome memory =
        (.ok (), { memory with events := memory.events ++ [event] }) := rfl
    change (collaborators.logEvent event >>= fun _ => rest.forM collaborators.logEvent).outcome
      memory = _
    rw [Call.outcome_bind, appended]
    simp only [ih, List.append_assoc, List.singleton_append]

/-- Events that were read, logged in any order, are recounted. Their moments have offsets, so no
comparison fails; for every user and every start there is one list of the wanted events, from the
newest one down, and a question with a limit is answered with as many of its first events, a
question with a greater limit with a continuation of them; the stores stay as they are. -/
theorem events_recounted {base : Memory} (unused : base.events = []) {events : List Event}
    (validated : ∀ event ∈ events, ∃ now row, Event.parse now row = .ok event) :
    ∃ memory, (events.forM collaborators.logEvent).outcome base = (.ok (), memory) ∧
      memory.events = events ∧ memory.events.IsZoned ∧
      ∀ userId since, ∃ recounted,
        EventLog.Recounts (EventLog.wanted events userId since) recounted ∧
        ∀ limit : Nat,
          memory.events.recentM userId limit since = .ok (recounted.take limit) ∧
          (collaborators.recentEvents userId limit since).outcome memory =
            (.ok (recounted.take limit), memory) ∧
          ∀ more : Nat, limit ≤ more → ∃ longer,
            (collaborators.recentEvents userId more since).outcome memory = (.ok longer, memory) ∧
            recounted.take limit <+: longer := by
  have zoned : EventLog.IsZoned events := by
    intro event member
    obtain ⟨now, row, parses⟩ := validated event member
    obtain ⟨moment, -, dated⟩ := Event.timestamp_of_parse parses
    rw [dated]
    rfl
  refine ⟨{ base with events }, ?logs, rfl, zoned, fun userId since => ?_⟩
  case logs => rw [logged, unused, List.nil_append]
  obtain ⟨recounted, recounts, answers⟩ := EventLog.recounts events userId since
  have asked (limit : Nat) :
      (collaborators.recentEvents userId limit since).outcome { base with events } =
        (.ok (recounted.take limit), { base with events }) := by
    rw [← answers limit]
    rfl
  refine ⟨recounted, recounts, fun limit => ⟨?_, asked limit, fun more atLeast => ?_⟩⟩
  · rw [EventLog.recentM_eq zoned, answers]
  · exact ⟨_, asked more, List.take_prefix_take_left atLeast⟩

section Sample

/-- The row of a purchase. -/
def samplePurchase (userId itemId timestamp : String) : Row :=
  [("user_id", .str userId), ("event_type", .str "PURCHASE"),
    ("properties", .obj [("itemId", .str itemId)]), ("timestamp", .str timestamp)]

/-- Purchases with and without an offset; the first two are made at one instant. -/
def samplePurchases : List Row :=
  [samplePurchase "ada" "belt" "2026-01-02T10:00:00",
    samplePurchase "ada" "scarf" "2026-01-02T15:30:00+05:30",
    samplePurchase "bob" "hat" "2026-01-02T12:00:00",
    samplePurchase "ada" "coat" "2026-01-02T06:00:00-05:00",
    samplePurchase "ada" "gown" "2026-01-02T09:59:59+00:00"]

/-- The events in these rows. -/
def sampleHistory : List Event :=
  samplePurchases.filterMap fun row => (Event.parse sampleClock row).toOption

/-- Ten o'clock on the day of these purchases. -/
def sampleStart : Moment := ⟨63902944800000000, none⟩

/-- Ada's purchases from ten o'clock on, the newest one first. -/
theorem events_recounted_sample :
    (∀ event ∈ sampleHistory, ∃ now row, Event.parse now row = .ok event) ∧
      ∃ memory, (sampleHistory.forM collaborators.logEvent).outcome empty = (.ok (), memory) ∧
        ∃ answer,
          (collaborators.recentEvents "ada" 4 sampleStart).outcome memory = (.ok answer, memory) ∧
          answer.map (·.itemId?) = [some "coat", some "belt", some "scarf"] := by
  have validated : ∀ event ∈ sampleHistory, ∃ now row, Event.parse now row = .ok event := by
    intro event member
    obtain ⟨row, -, given⟩ := List.mem_filterMap.mp member
    cases parses : Event.parse sampleClock row with
    | error fault => simp [parses, Except.toOption] at given
    | ok read =>
      rw [parses] at given
      exact ⟨sampleClock, row, parses.trans (congrArg Except.ok (Option.some.inj given))⟩
  have unused : empty.events = [] := rfl
  obtain ⟨memory, logs, held, -, answers⟩ := events_recounted unused validated
  obtain ⟨recounted, -, answers⟩ := answers "ada" sampleStart
  obtain ⟨reads, asked, -⟩ := answers 4
  have told : (EventLog.recentM sampleHistory "ada" 4 sampleStart).toOption.map
      (·.map (·.itemId?)) = some [some "coat", some "belt", some "scarf"] := by decide +kernel
  obtain ⟨answer, recounts, items⟩ := Call.ok_of_toOption_map told
  rw [held] at reads
  cases recounts.symm.trans reads
  exact ⟨validated, memory, logs, _, asked, items⟩

end Sample

end Memory

end Storefront
