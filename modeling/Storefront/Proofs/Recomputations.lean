import Storefront.Proofs.KeptProfiles
import Storefront.Proofs.Outages
/-!
# What computing profiles leaves in the stores

A call for the style of a user looks like a question, but it keeps what it finds out. So what the
stores hold of a user afterwards is told by the answer and the preferences: nothing is kept unless a
style or a fit is known, and then the whole record is replaced, under the name of the user only. A
call for the style of a session keeps nothing. Along any number of calls this leaves each user with
the record of the last call that kept one.
-/

namespace Storefront

open Call (Leaves Ends)

/-- The stores with a profile in the place of the one before. -/
def Memory.keeping (memory : Memory) (record : ProfileRecord) : Memory :=
  { memory with profiles := memory.profiles.put record.userId record }

/-- Collaborators over the stores that change nothing when they are asked, and keep a profile as a
whole or refuse it. -/
structure Collaborators.KeepsWhole (world : Collaborators Memory) : Prop where
  recentEvents : ∀ memory userId limit since,
    Call.Keeps (· = memory) (world.recentEvents userId limit since)
  findItem : ∀ memory key, Call.Keeps (· = memory) (world.findItem key)
  preferences : ∀ memory load, world.preferences = some load → ∀ userId,
    Call.Keeps (· = memory) (load userId)
  embed : ∀ memory embed, world.embed = some embed → ∀ text, Call.Keeps (· = memory) (embed text)
  saveProfile : ∀ record memory,
    (world.saveProfile record).outcome memory = (.ok (), memory.keeping record) ∨
      ∃ fault, (world.saveProfile record).outcome memory = (.error fault, memory)

/-- A call that may be interrupted leaves a safe state if the call does. -/
theorem Call.Keeps.interrupted {σ α : Type} {safe : σ → Prop} {call : Call σ α}
    (keeps : Call.Keeps safe call) (down : Option Fault) :
    Call.Keeps safe (call.interrupted fun _ => down) := by
  cases down with
  | none => exact keeps
  | some fault => exact fun _ kept => ⟨kept, trivial⟩

namespace Collaborators.KeepsWhole

/-- The stores keep profiles as a whole, whichever reads fail. -/
theorem failing (embed : Memory.Embedding) (faults : ReadFaults) :
    ((Memory.withEmbedding embed).failing faults).KeepsWhole := by
  constructor
  case recentEvents => exact fun _ _ _ _ => (Memory.ask_keeps _).interrupted _
  case findItem => exact fun _ _ => (Memory.ask_keeps _).interrupted _
  case preferences =>
    rintro _ _ ⟨⟩ _
    exact (Memory.ask_keeps _).interrupted _
  case embed =>
    intro memory _ embeds text
    obtain ⟨_, made, rfl⟩ := Option.map_eq_some_iff.mp embeds
    obtain ⟨answer, -, rfl⟩ := Option.map_eq_some_iff.mp made
    have embedded : Call.Keeps (· = memory) (Call.ofExcept (answer text)) :=
      .ofExcept (fun _ _ => trivial) fun _ _ => trivial
    exact embedded.interrupted _
  case saveProfile => exact fun _ _ => .inl rfl

/-- Collaborators keep profiles as a whole also if saving may fail. -/
theorem refusing {world : Collaborators Memory} (whole : world.KeepsWhole)
    (down : Memory → Option Fault) :
    { world with
      saveProfile := fun record => (world.saveProfile record).interrupted down }.KeepsWhole where
  recentEvents := whole.recentEvents
  findItem := whole.findItem
  preferences := whole.preferences
  embed := whole.embed
  saveProfile record memory := by
    unfold Call.interrupted
    rw [Call.outcome_ofOutcome]
    cases down memory with
    | none => exact whole.saveProfile record memory
    | some fault => exact .inr ⟨fault, rfl⟩

end Collaborators.KeepsWhole

namespace Profile

variable {world : Collaborators Memory} {config : Config} {userId : String} {memory : Memory}

/-- A stated fit has sixteen entries. -/
theorem length_statedFit {preferences : Preferences} {fit : List Float}
    (stated : statedFit preferences = some fit) : fit.length = 16 := by
  unfold statedFit at stated
  split at stated
  · cases stated
  · cases stated
    have cut : ((Sequence.cut fitDim preferences.measurements).map fun entry =>
        clamp (entry.2 / measurementScale)).length ≤ 16 := by
      rw [List.length_map]
      exact List.length_take_le 16 _
    rw [List.length_append, List.length_replicate]
    exact Nat.add_sub_cancel' cut

/-- The preferences that a computation is about to load. -/
def preferencesAt (world : Collaborators Memory) (userId : String) (memory : Memory) :
    Option Preferences := ((statedPreferences world userId).run memory).1

/-- The record that a computation is about to keep: none if it fails, or if it finds neither a style
nor a fit. -/
def computed? (world : Collaborators Memory) (config : Config) (userId : String)
    (memory : Memory) : Option ProfileRecord :=
  let preferences := preferencesAt world userId memory
  let fit := preferences.bind statedFit
  match ((computeStyle world config userId).outcome memory).1 with
  | .ok style =>
    if style.isNone && fit.isNone then none
    else some (toRecord config userId style fit (preferences.bind (·.bodyFit.head?)))
  | .error _ => none

/-- The record that a computation writes: the one it is about to keep, unless that is refused. -/
def written? (world : Collaborators Memory) (config : Config) (userId : String)
    (memory : Memory) : Option ProfileRecord :=
  (computed? world config userId memory).filter fun record =>
    ((world.saveProfile record).outcome memory).1.toBool

/-- What is about to be kept has the style of the answer and a fit of sixteen entries, if any, and
is kept under the name of the user. -/
theorem of_computed? {record : ProfileRecord}
    (computed : computed? world config userId memory = some record) :
    record.userId = userId ∧ (∀ fit, record.fit = some fit → fit.length = 16) ∧
      ∃ style, ((computeStyle world config userId).outcome memory).1 = .ok style ∧
        record.style = style.getD [] := by
  unfold computed? at computed
  dsimp only at computed
  split at computed
  · next style answers =>
    split at computed
    · cases computed
    · cases computed
      refine ⟨rfl, fun fit known => ?_, style, answers, rfl⟩
      obtain ⟨preferences, -, stated⟩ := Option.bind_eq_some_iff.mp known
      exact length_statedFit stated
  · cases computed

/-- A style that is found is about to be kept. -/
theorem exists_computed? {style : List Float}
    (answers : ((computeStyle world config userId).outcome memory).1 = .ok (some style)) :
    ∃ record, computed? world config userId memory = some record ∧ record.style = style := by
  unfold computed?
  rw [answers]
  exact ⟨_, rfl, rfl⟩

/-- Nothing is about to be kept after a failure, or without a style and measurements. -/
theorem computed?_eq_none
    (nothing : (∃ fault, ((computeStyle world config userId).outcome memory).1 = .error fault) ∨
      ((computeStyle world config userId).outcome memory).1 = .ok none ∧
        ∀ preferences, preferencesAt world userId memory = some preferences →
          preferences.measurements = []) :
    computed? world config userId memory = none := by
  unfold computed?
  dsimp only
  rcases nothing with ⟨fault, fails⟩ | ⟨answers, unmeasured⟩
  · rw [fails]
  · have unfit : (preferencesAt world userId memory).bind statedFit = none := by
      refine Option.bind_eq_none_iff.mpr fun preferences loaded => ?_
      by_contra known
      exact statedFit_ne_none_iff.mp known (unmeasured preferences loaded)
    rw [answers, unfit]
    rfl

/-- Finding out a profile changes nothing. -/
theorem findings_keeps (whole : world.KeepsWhole) (config : Config) (userId : String)
    (memory : Memory) :
    Ends (· = memory) (findings world config userId)
      (fun found => found.2 = preferencesAt world userId memory) fun _ => True := by
  refine (Ends.ofState (whole.recentEvents memory userId eventLimit none).leaves).bind
    fun events _ => ?_
  have loads : Leaves (· = memory) (statedPreferences world userId)
      (· = preferencesAt world userId memory) := by
    rintro _ rfl
    exact ⟨rfl, (statedPreferences_keeps (whole.preferences _) userId _ rfl).2⟩
  refine (Ends.ofState loads).bind ?_
  rintro preferences rfl
  refine (Ends.ofState (?stated : Leaves (· = memory) _ fun _ => True)).bind fun stated _ => ?_
  case stated =>
    cases preferencesAt world userId memory with
    | none => exact .pure trivial
    | some preferences => exact statedStyle_keeps (whole.embed memory) preferences
  have pools : Ends (· = memory) (ofEvents world config config.now events) (fun _ => True)
      fun _ => True :=
    ofEvents_ends (fun key => (whole.findItem memory key).leaves) trivial fun _ _ _ => trivial
  exact pools.bind fun behaviour _ => .pure rfl

/-- Keeping a profile changes the stores by its record, unless that is refused. -/
theorem keep_state (whole : world.KeepsWhole) (record : ProfileRecord) (memory : Memory) :
    (((world.saveProfile record).orElse ()).run memory).2 =
      if ((world.saveProfile record).outcome memory).1.toBool then memory.keeping record
      else memory := by
  rw [Call.orElse_run]
  rcases whole.saveProfile record memory with kept | ⟨fault, refused⟩
  · rw [kept]
    rfl
  · rw [refused]
    rfl

/-- A computation answers the style that it finds out and leaves the stores in which it is kept. -/
theorem computeStyle_outcome (world : Collaborators Memory) (config : Config) (userId : String)
    (memory : Memory) :
    (computeStyle world config userId).outcome memory =
      match (findings world config userId).outcome memory with
      | (.ok (style, preferences), state) =>
        (.ok style, ((keep world config userId style (preferences.bind statedFit)
          (preferences.bind (·.bodyFit.head?))).run state).2)
      | (.error fault, state) => (.error fault, state) := by
  rw [computeStyle_eq, Call.outcome_bind]
  rcases (findings world config userId).outcome memory with ⟨_ | ⟨_, _⟩, _⟩ <;> rfl

/-- A computation changes the stores by the record that it writes, and not at all if it writes
none. -/
theorem computeStyle_state (whole : world.KeepsWhole) (config : Config) (userId : String)
    (memory : Memory) :
    ((computeStyle world config userId).outcome memory).2 =
      (written? world config userId memory).elim memory memory.keeping := by
  have ended := findings_keeps whole config userId memory memory rfl
  have runs := computeStyle_outcome world config userId memory
  unfold written? computed?
  rcases found : (findings world config userId).outcome memory with
    ⟨fault | ⟨style, preferences⟩, state⟩
  · rw [found] at ended runs
    obtain ⟨rfl, -⟩ := ended
    rw [runs]
    rfl
  · -- The preferences of the answer are those that are loaded, so what is kept is what is computed.
    rw [found] at ended runs
    obtain ⟨rfl, loaded⟩ := ended
    dsimp only at loaded runs
    subst loaded
    rw [runs]
    dsimp only [keep]
    split
    · rfl
    · rw [keep_state whole, Option.filter_some]
      split <;> rfl

/-- The style of a session is computed without a change. -/
theorem sessionStyle_state (whole : world.KeepsWhole) (config : Config) (userId sessionId : String)
    (limit : Int) (memory : Memory) :
    ((sessionStyle world config userId sessionId limit).outcome memory).2 = memory := by
  have reads : Call.Keeps (· = memory) (sessionStyle world config userId sessionId limit) :=
    (Ends.ofState (whole.recentEvents memory userId eventLimit none).leaves).bind fun _ _ =>
      ofEvents_ends (fun key => (whole.findItem memory key).leaves) trivial fun _ _ _ => trivial
  exact (reads memory rfl).1

end Profile

/-- A call for the style of a user, or of the last events of a session of the user, over
collaborators of its own. -/
structure Visit where
  world : Collaborators Memory
  config : Profile.Config
  userId : String
  session : Option (String × Int)

namespace Visit

variable {visit : Visit} {memory base : Memory}

/-- What a visit calls. -/
def call (visit : Visit) : Call Memory (Option (List Float)) :=
  match visit.session with
  | none => Profile.computeStyle visit.world visit.config visit.userId
  | some (sessionId, limit) =>
    Profile.sessionStyle visit.world visit.config visit.userId sessionId limit

/-- The stores after a visit. -/
def after (visit : Visit) (memory : Memory) : Memory := (visit.call.outcome memory).2

/-- The record that a visit writes. -/
def written? (visit : Visit) (memory : Memory) : Option ProfileRecord :=
  match visit.session with
  | none => Profile.written? visit.world visit.config visit.userId memory
  | some _ => none

/-- The stores after some visits. -/
def afterAll (visits : List Visit) (memory : Memory) : Memory :=
  visits.foldl (fun memory visit => visit.after memory) memory

/-- The record that the last visit of a user that writes one writes. -/
def lastWritten? (userId : String) : List Visit → Memory → Option ProfileRecord
  | [], _ => none
  | visit :: rest, memory =>
    (lastWritten? userId rest (visit.after memory)).or
      (if visit.userId = userId then visit.written? memory else none)

/-- A visit writes a record of its user. -/
theorem userId_of_written? {record : ProfileRecord} (written : visit.written? memory = some record) :
    record.userId = visit.userId := by
  unfold written? at written
  split at written
  · exact (Profile.of_computed? (Option.filter_eq_some_iff.mp written).1).1
  · cases written

/-- A visit changes the stores by the record that it writes, and not at all if it writes none. -/
theorem after_eq (whole : visit.world.KeepsWhole) (memory : Memory) :
    visit.after memory = (visit.written? memory).elim memory memory.keeping := by
  obtain ⟨world, config, userId, _ | ⟨sessionId, limit⟩⟩ := visit
  · exact Profile.computeStyle_state whole config userId memory
  · exact Profile.sessionStyle_state whole config userId sessionId limit memory

/-- After a visit its user has the record that it writes; where there is none, the record is the one
from before. -/
theorem find?_after (whole : visit.world.KeepsWhole) (memory : Memory) (userId : String) :
    (visit.after memory).profiles.find? userId =
      (if visit.userId = userId then visit.written? memory else none).or
        (memory.profiles.find? userId) := by
  rw [after_eq whole]
  cases written : visit.written? memory with
  | none => rw [ite_self, Option.none_or, Option.elim_none]
  | some record =>
    rw [Option.elim_some, Memory.keeping, Table.find?_put, userId_of_written? written]
    by_cases own : visit.userId = userId
    · rw [if_pos own.symm, if_pos own, Option.some_or]
    · rw [if_neg (Ne.symm own), if_neg own, Option.none_or]

/-- After some visits every user has the record that was written last, or the one from before. -/
theorem find?_afterAll {visits : List Visit} (whole : ∀ visit ∈ visits, visit.world.KeepsWhole)
    (memory : Memory) (userId : String) :
    (afterAll visits memory).profiles.find? userId =
      (lastWritten? userId visits memory).or (memory.profiles.find? userId) := by
  induction visits generalizing memory with
  | nil => rfl
  | cons visit rest ih =>
    obtain ⟨first, later⟩ := List.forall_mem_cons.mp whole
    change (afterAll rest (visit.after memory)).profiles.find? userId = _
    rw [ih later, find?_after first, lastWritten?, Option.or_assoc]

/-- A visit leaves all stores but the one of the profiles as they are. -/
theorem agrees_after (whole : visit.world.KeepsWhole) (agrees : base.Agrees memory) :
    base.Agrees (visit.after memory) := by
  rw [after_eq whole]
  cases visit.written? memory with
  | none => exact agrees
  | some record => exact ⟨agrees.catalog, agrees.events, agrees.preferences, agrees.standings⟩

/-- Visits leave all stores but the one of the profiles as they are. -/
theorem agrees_afterAll {visits : List Visit}
    (whole : ∀ visit ∈ visits, visit.world.KeepsWhole) (agrees : base.Agrees memory) :
    base.Agrees (afterAll visits memory) := by
  induction visits generalizing memory with
  | nil => exact agrees
  | cons visit rest ih =>
    obtain ⟨first, later⟩ := List.forall_mem_cons.mp whole
    exact ih later (agrees_after first agrees)

end Visit

namespace Memory

/-- Computing the style of a user changes nothing but the record of that user. If it gives a style
that is not empty and the record is not refused, that style is what is kept of the user, with a fit
of sixteen entries or none; if the record is refused nothing changes. Nothing changes either if the
computation fails or finds neither a style nor measurements, nor ever for a session. So along any
calls, each over collaborators of its own, every user has the record of the last call that wrote
one. -/
theorem last_written_stays {world : Collaborators Memory} (whole : world.KeepsWhole)
    (config : Profile.Config) (userId : String) (memory : Memory) :
    let run := (Profile.computeStyle world config userId).outcome memory
    (memory.Agrees run.2 ∧
      ∀ other ≠ userId, run.2.profiles.find? other = memory.profiles.find? other) ∧
    (∀ vector, run.1 = .ok (some vector) → vector ≠ [] →
      ∃ record, Profile.computed? world config userId memory = some record ∧
        record.userId = userId ∧ record.style = vector ∧
        (∀ fit, record.fit = some fit → fit.length = 16) ∧
        let saved := ((world.saveProfile record).outcome memory).1
        (saved = .ok () → run.2.profiles.find? userId = some record ∧
          ((Profile.keptStyle collaborators userId).outcome run.2).1 = .ok (some vector)) ∧
        (saved ≠ .ok () → run.2 = memory)) ∧
    ((∃ fault, run.1 = .error fault) ∨ run.1 = .ok none ∧
      (∀ preferences, Profile.preferencesAt world userId memory = some preferences →
        preferences.measurements = []) → run.2 = memory) ∧
    (∀ sessionId limit,
      ((Profile.sessionStyle world config userId sessionId limit).outcome memory).2 = memory) ∧
    ∀ visits : List Visit, (∀ visit ∈ visits, visit.world.KeepsWhole) →
      memory.Agrees (Visit.afterAll visits memory) ∧
      ∀ user, (Visit.afterAll visits memory).profiles.find? user =
        (Visit.lastWritten? user visits memory).or (memory.profiles.find? user) := by
  intro run
  let visit : Visit := ⟨world, config, userId, none⟩
  have visited : visit.world.KeepsWhole := whole
  have state : run.2 = (Profile.written? world config userId memory).elim memory memory.keeping :=
    Profile.computeStyle_state whole config userId memory
  refine ⟨⟨?stores, ?others⟩, ?kept, ?unchanged, ?session, ?visits⟩
  case stores => exact Visit.agrees_after visited (.refl memory)
  case others =>
    intro other different
    have found := Visit.find?_after visited memory other
    rwa [if_neg (Ne.symm different), Option.none_or] at found
  case kept =>
    intro vector answers filled
    obtain ⟨record, computed, style⟩ := Profile.exists_computed? answers
    obtain ⟨named, fits, -⟩ := Profile.of_computed? computed
    rw [Profile.written?, computed, Option.filter_some] at state
    refine ⟨record, computed, named, style, fits, fun saved => ?_, fun refused => ?_⟩
    · have found : run.2.profiles.find? userId = some record := by
        rw [state, saved]
        exact (Table.find?_put _ _ _ _).trans (if_pos named.symm)
      refine ⟨found, ?_⟩
      rw [keptStyle_outcome, found, Option.map_some, style, Option.filter_some, if_pos]
      simpa using filled
    · cases saved : ((world.saveProfile record).outcome memory).1 with
      | ok _ => exact absurd saved refused
      | error fault =>
        rw [state, saved]
        rfl
  case unchanged =>
    intro nothing
    rw [state, Profile.written?, Profile.computed?_eq_none nothing]
    rfl
  case session =>
    exact fun sessionId limit =>
      Profile.sessionStyle_state whole config userId sessionId limit memory
  case visits =>
    exact fun visits each => ⟨Visit.agrees_afterAll each (.refl memory),
      Visit.find?_afterAll each memory⟩

section Sample

/-- Stores of a user who wears dresses and has a measurement. -/
def sampleStated : Memory :=
  { Memory.empty with
    preferences := Table.empty.put "ada"
      ⟨"ada", some "dresses", [], [], [("chest", 100.0)], [], none⟩ }

/-- Collaborators with a service that embeds all texts alike. The store of profiles may be down. -/
def sampleStoring (down : Option Fault) : Collaborators Memory :=
  let world := (withEmbedding (some fun _ => .ok (some [1.0, 0.0]))).failing
    ⟨none, fun _ => none, none, none⟩
  { world with saveProfile := fun record => (world.saveProfile record).interrupted fun _ => down }

/-- The collaborators keep profiles as a whole, whether the store is down or not. -/
theorem sampleStoring_keepsWhole (down : Option Fault) : (sampleStoring down).KeepsWhole :=
  .refusing (.failing _ _) fun _ => down

/-- A visit of a user, some minutes after the present of the samples. -/
def sampleVisit (userId : String) (minutes : Int) (down : Option Fault)
    (session : Option (String × Int)) : Visit :=
  ⟨sampleStoring down, ⟨2, ⟨sampleConfig.now.instant + minutes * 60000000, some 0⟩⟩, userId,
    session⟩

/-- Two visits write, then come a session, a user of whom nothing is known, and a visit that is
refused: the record of the second visit is kept. -/
def sampleVisits : List Visit :=
  [sampleVisit "ada" 0 none none, sampleVisit "ada" 1 none none,
    sampleVisit "ada" 2 none (some ("s1", 30)), sampleVisit "bob" 3 none none,
    sampleVisit "ada" 4 (some Operation.saveProfile.outage) none]

/-- The style of the sample user is kept, nothing is kept of a user of whom nothing is known, and
after several visits the record is there that was written last. -/
theorem last_written_stays_sample :
    let run (userId : String) := (Profile.computeStyle (sampleStoring none) sampleConfig
      userId).outcome sampleStated
    (run "ada").1 = .ok (some [1.0, 0.0]) ∧
      ((Profile.keptStyle collaborators "ada").outcome (run "ada").2).1 =
        .ok (some [1.0, 0.0]) ∧
      (run "bob").2 = sampleStated ∧
      ((Visit.afterAll sampleVisits sampleStated).profiles.find? "ada").map (·.lastUpdated) =
        some (sampleVisit "ada" 1 none none).config.now ∧
      (Visit.afterAll sampleVisits sampleStated).profiles.find? "bob" = none := by
  intro run
  have whole := sampleStoring_keepsWhole none
  obtain ⟨-, kept, -, -, visits⟩ := last_written_stays whole sampleConfig "ada" sampleStated
  obtain ⟨-, -, unchanged, -⟩ := last_written_stays whole sampleConfig "bob" sampleStated
  have each : ∀ visit ∈ sampleVisits, visit.world.KeepsWhole := by
    simp only [sampleVisits, List.forall_mem_cons]
    simp [sampleVisit, sampleStoring_keepsWhole]
  obtain ⟨-, records⟩ := visits sampleVisits each
  have answers : (run "ada").1 = .ok (some [1.0, 0.0]) := rfl
  obtain ⟨record, computed, -, -, -, saved, -⟩ := kept [1.0, 0.0] answers (List.cons_ne_nil _ _)
  refine ⟨answers, (saved rfl).2, unchanged (.inr ⟨rfl, fun _ loaded => ?_⟩), ?_, ?_⟩
  · cases loaded
  · rw [records "ada"]
    rfl
  · rw [records "bob"]
    rfl

end Sample

end Memory

end Storefront
