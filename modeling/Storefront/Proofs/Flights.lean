import Mathlib.Logic.Relation
import Storefront.Proofs.Stores
/-!
# Lookups in flight

A gathering of standings looks up the vendors of a chunk on the threads of a pool. Here it is a
machine that takes one small step at a time: a lookup starts on a free thread, a lookup that runs
ends, the standing of an ended lookup is collected, the next chunk is submitted once all of a chunk
is collected, and time runs out once nothing else can happen because of lookups that hang. Which of
the possible steps is next is left open, so the runs of the machine are all the orders in which
lookups can complete.

Whatever the order, every run comes to an end, and it ends with the standings that looking up one
vendor after the other gives.
-/

namespace Storefront

namespace LookupOutcome

/-- The standing that a lookup found. -/
def standing? : LookupOutcome → Option Standing
  | .found standing => some standing
  | _ => none

/-- Whether a lookup does not end before the deadline. -/
def isHanging : LookupOutcome → Bool
  | .hanging => true
  | _ => false

end LookupOutcome

namespace FanOut

variable {ends : String → LookupOutcome}

/-- The standing that the lookup of a vendor finds. -/
def standingBy (ends : String → LookupOutcome) (vendor : String) : Option Standing :=
  (ends vendor).standing?

/-- Whether the lookup of a vendor hangs. -/
def hangsBy (ends : String → LookupOutcome) (vendor : String) : Bool := (ends vendor).isHanging

/-- A gathering on its way. The lookups of the submitted chunk that are neither queued for a thread
nor running have ended, and of these the ones that are not listed as ended are collected. -/
structure Flight where
  records : Table Standing
  chunk : List String
  queued : List String
  running : List String
  ended : List String
  waiting : List (List String)

namespace Flight

/-- A gathering before its first chunk. -/
def ofChunks (chunks : List (List String)) : Flight := ⟨.empty, [], [], [], [], chunks⟩

/-- A gathering of the standings of some vendors; without time it has nothing to do. -/
def ofBudget (budget : Budget) (vendors : List String) : Flight :=
  ofChunks (if budget.hasTime then chunks budget.chunkSize (distinctVendors vendors) else [])

/-- The standings collected, with what the ended lookup of a vendor found. -/
def collected (ends : String → LookupOutcome) (records : Table Standing) (vendor : String) :
    Table Standing :=
  match standingBy ends vendor with
  | some standing => records.put vendor standing
  | none => records

/-- The lookups of the chunk that have ended, in the order in which they were submitted. -/
def done (flight : Flight) : List String :=
  flight.chunk.filter fun vendor =>
    !(flight.queued.contains vendor || flight.running.contains vendor)

/-- The standings collected, with what the lookups found whose standings are not collected yet. -/
def swept (ends : String → LookupOutcome) (records : Table Standing) (vendors : List String) :
    Table Standing :=
  vendors.foldl (fun records vendor =>
    if (records.find? vendor).isSome then records else collected ends records vendor) records

/-- Nothing can happen before the deadline: only lookups that hang are running, and lookups that are
queued have no thread. -/
def IsStuck (ends : String → LookupOutcome) (flight : Flight) : Prop :=
  flight.running ≠ [] ∧ (∀ vendor ∈ flight.running, hangsBy ends vendor = true) ∧
    (flight.queued = [] ∨ poolSize ≤ flight.running.length)

/-- One step of a gathering. -/
inductive Step (ends : String → LookupOutcome) : Flight → Flight → Prop where
  | start {flight : Flight} {vendor : String} {rest : List String}
      (next : flight.queued = vendor :: rest) (free : flight.running.length < poolSize) :
      Step ends flight { flight with queued := rest, running := flight.running ++ [vendor] }
  | finish {flight : Flight} {vendor : String} (runs : vendor ∈ flight.running)
      (comes : hangsBy ends vendor = false) :
      Step ends flight { flight with
        running := flight.running.erase vendor
        ended := flight.ended ++ [vendor] }
  | collect {flight : Flight} {vendor : String} (listed : vendor ∈ flight.ended) :
      Step ends flight { flight with
        ended := flight.ended.erase vendor
        records := collected ends flight.records vendor }
  | submit {flight : Flight} {chunk : List String} {rest : List (List String)}
      (started : flight.queued = []) (idle : flight.running = []) (all : flight.ended = [])
      (next : flight.waiting = chunk :: rest) :
      Step ends flight { flight with chunk, queued := chunk, waiting := rest }
  /-- The deadline passes: what has ended is swept up, and everything else is given up. -/
  | expire {flight : Flight} (stuck : flight.IsStuck ends) :
      Step ends flight { ofChunks [] with
        records := swept ends flight.records flight.done }

/-- Any number of steps. -/
abbrev Runs (ends : String → LookupOutcome) : Flight → Flight → Prop :=
  Relation.ReflTransGen (Step ends)

/-- Nothing is left to do. -/
def IsOver (flight : Flight) : Prop :=
  flight.queued = [] ∧ flight.running = [] ∧ flight.ended = [] ∧ flight.waiting = []

section Ending

/-- How many steps a gathering may still take. -/
def weight (flight : Flight) : Nat :=
  3 * flight.queued.length + 2 * flight.running.length + flight.ended.length +
    (flight.waiting.map fun chunk => 3 * chunk.length + 1).sum

/-- Every step leaves fewer steps to take. -/
theorem Step.weight_lt {flight next : Flight} (step : Step ends flight next) :
    next.weight < flight.weight := by
  cases step with
  | start next free =>
    simp only [weight, next, List.length_cons, List.length_append, List.length_nil]
    omega
  | finish runs comes =>
    have present := List.length_pos_of_mem runs
    simp only [weight, List.length_erase_of_mem runs, List.length_append, List.length_cons,
      List.length_nil]
    omega
  | collect listed =>
    have present := List.length_pos_of_mem listed
    simp only [weight, List.length_erase_of_mem listed]
    omega
  | submit started idle all next =>
    simp only [weight, started, idle, all, next, List.length_nil, List.map_cons, List.sum_cons]
    omega
  | expire stuck =>
    have present := List.length_pos_of_ne_nil stuck.1
    simp only [weight, ofChunks, List.length_nil, List.map_nil, List.sum_nil]
    omega

/-- A gathering that is not over can go on. -/
theorem exists_step {flight : Flight} (goes : ¬ flight.IsOver) :
    ∃ next, Step ends flight next := by
  by_cases all : flight.ended = []
  case neg =>
    obtain ⟨vendor, listed⟩ := List.exists_mem_of_ne_nil _ all
    exact ⟨_, .collect listed⟩
  by_cases hang : ∀ vendor ∈ flight.running, hangsBy ends vendor = true
  case neg =>
    obtain ⟨vendor, runs, comes⟩ : ∃ vendor ∈ flight.running, hangsBy ends vendor = false := by
      simpa using hang
    exact ⟨_, .finish runs comes⟩
  by_cases stuck : flight.queued = [] ∨ poolSize ≤ flight.running.length
  case neg =>
    obtain ⟨present, free⟩ := not_or.mp stuck
    obtain ⟨vendor, rest, next⟩ := List.exists_cons_of_ne_nil present
    exact ⟨_, .start next (Nat.lt_of_not_le free)⟩
  by_cases idle : flight.running = []
  case neg => exact ⟨_, .expire ⟨idle, hang, stuck⟩⟩
  -- Nothing runs, so the pool is free and nothing is queued: a chunk is waiting.
  have unqueued : flight.queued = [] := by
    refine stuck.resolve_right fun full => ?_
    rw [idle] at full
    exact absurd full (by decide)
  have waits : flight.waiting ≠ [] := fun none => goes ⟨unqueued, idle, all, none⟩
  obtain ⟨chunk, rest, next⟩ := List.exists_cons_of_ne_nil waits
  exact ⟨_, .submit unqueued idle all next⟩

end Ending

section Collecting

/-- Collecting what a vendor's lookup found changes what is found under the vendor only. -/
theorem find?_collected (records : Table Standing) (vendor name : String) :
    (collected ends records vendor).find? name =
      if name = vendor ∧ (standingBy ends vendor).isSome then standingBy ends vendor
      else records.find? name := by
  unfold collected
  cases standing : standingBy ends vendor with
  | none => simp
  | some standing =>
    rw [Table.find?_put]
    by_cases same : name = vendor <;> simp [same]

/-- Sweeping up finds what was not collected before. -/
theorem find?_swept (vendors : List String) (name : String) : ∀ records : Table Standing,
    (swept ends records vendors).find? name =
      if name ∈ vendors ∧ records.find? name = none then standingBy ends name
      else records.find? name := by
  induction vendors with
  | nil => exact fun _ => by simp [swept]
  | cons vendor rest ih =>
    intro records
    rw [swept, List.foldl_cons, ← swept, ih]
    by_cases known : (records.find? vendor).isSome = true
    · rw [if_pos known]
      by_cases same : name = vendor
      · subst same
        simp [Option.isSome_iff_ne_none.mp known]
      · simp [same]
    · have unknown : records.find? vendor = none := by simpa using known
      rw [if_neg known, find?_collected]
      by_cases same : name = vendor
      · subst same
        cases standing : standingBy ends name <;> simp [unknown]
      · simp [same]

end Collecting

section Tracking

/-- What a flight has done of a goal. Some vendors are behind it for good; of the submitted chunk
the first lookups have started, each of them is gathered, has ended, or is running, and the ones
that are still running or queued are to be answered as far as the goal says. -/
structure Tracks (ends : String → LookupOutcome) (goal : List String) (flight : Flight)
    (past first gathered : List String) : Prop where
  chunk : flight.chunk = first ++ flight.queued
  split : first.Perm (gathered ++ flight.ended ++ flight.running)
  comes : ∀ vendor ∈ gathered ++ flight.ended, hangsBy ends vendor = false
  started : first <+: started (hangsBy ends) poolSize flight.chunk
  distinct : ∀ chunk ∈ flight.chunk :: flight.waiting, chunk.Nodup
  records : ∀ vendor, flight.records.find? vendor =
    if vendor ∈ past ++ gathered then standingBy ends vendor else none
  goal : goal = past ++ inTime (hangsBy ends) (flight.chunk :: flight.waiting)

variable {goal past first gathered : List String} {flight : Flight}

/-- Before the first chunk all is still to be done. -/
theorem tracks_ofChunks {chunks : List (List String)} (distinct : ∀ chunk ∈ chunks, chunk.Nodup) :
    Tracks ends (inTime (hangsBy ends) chunks) (ofChunks chunks) [] [] [] where
  chunk := rfl
  split := .refl _
  comes vendor member := by cases member
  started := List.nil_prefix
  distinct := List.forall_mem_cons.mpr ⟨List.nodup_nil, distinct⟩
  records vendor := rfl
  goal := rfl

/-- Of the lookups that have started as many hang as are running and hang. -/
theorem Tracks.countP_first (tracks : Tracks ends goal flight past first gathered) :
    first.countP (hangsBy ends) = flight.running.countP (hangsBy ends) := by
  have none : (gathered ++ flight.ended).countP (hangsBy ends) = 0 := by
    refine List.countP_eq_zero.mpr fun vendor member hanging => ?_
    rw [tracks.comes vendor member] at hanging
    cases hanging
  rw [tracks.split.countP_eq, List.countP_append, none, Nat.zero_add]

/-- A flight that has nothing to do in its chunk has gathered the whole chunk. -/
theorem Tracks.gathered_perm (tracks : Tracks ends goal flight past first gathered)
    (queued : flight.queued = []) (idle : flight.running = []) (all : flight.ended = []) :
    flight.chunk.Perm gathered ∧ flight.chunk.any (hangsBy ends) = false := by
  have perm : flight.chunk.Perm gathered := by
    have split := tracks.split
    rw [all, idle, List.append_nil, List.append_nil] at split
    rwa [tracks.chunk, queued, List.append_nil]
  refine ⟨perm, List.any_eq_false.mpr fun vendor member => ?_⟩
  rw [tracks.comes vendor (List.mem_append_left _ (perm.subset member))]
  exact Bool.false_ne_true

/-- If nothing else can happen before the deadline, all lookups have started that ever get a
thread. -/
theorem Tracks.started_eq (tracks : Tracks ends goal flight past first gathered)
    (stuck : flight.IsStuck ends) :
    FanOut.started (hangsBy ends) poolSize flight.chunk = first := by
  obtain ⟨-, hang, blocked⟩ := stuck
  have within : FanOut.started (hangsBy ends) poolSize flight.chunk <+: first := by
    rcases blocked with none | full
    · have whole : flight.chunk = first := by rw [tracks.chunk, none, List.append_nil]
      rw [whole]
      exact started_prefix _ _
    · have kept : first.countP (hangsBy ends) = flight.running.length := by
        rw [tracks.countP_first, List.countP_eq_length]
        exact hang
      rw [tracks.chunk, started_append_of_full flight.queued (by omega)]
      exact started_prefix _ _
  exact within.eq_of_length_le tracks.started.length_le

/-- If nothing else can happen before the deadline, the lookups that have ended are those that have
started and do not hang. -/
theorem Tracks.mem_done (tracks : Tracks ends goal flight past first gathered)
    (stuck : flight.IsStuck ends) (vendor : String) :
    vendor ∈ flight.done ↔ vendor ∈ first ∧ hangsBy ends vendor = false := by
  have disjoint : vendor ∈ first → vendor ∉ flight.queued := by
    have nodup := tracks.distinct _ List.mem_cons_self
    rw [tracks.chunk, List.nodup_append] at nodup
    exact fun here there => nodup.2.2 vendor here vendor there rfl
  have either : vendor ∈ first ↔ vendor ∈ gathered ++ flight.ended ∨ vendor ∈ flight.running := by
    rw [tracks.split.mem_iff, List.mem_append]
  have hangs : vendor ∈ flight.running → hangsBy ends vendor = true := stuck.2.1 vendor
  have comes : vendor ∈ gathered ++ flight.ended → hangsBy ends vendor = false :=
    tracks.comes vendor
  simp only [done, tracks.chunk, List.mem_filter, List.mem_append, Bool.not_eq_true',
    Bool.or_eq_false_iff, List.contains_eq_mem, decide_eq_false_iff_not] at either comes ⊢
  constructor
  · rintro ⟨here | there, unqueued, ended⟩
    · exact ⟨here, comes ((either.mp here).resolve_right ended)⟩
    · exact absurd there unqueued
  · rintro ⟨here, came⟩
    refine ⟨.inl here, disjoint here, fun runs => ?_⟩
    rw [hangs runs] at came
    cases came

/-- A lookup that starts is one more of those that have started. -/
theorem Tracks.start {vendor : String} {rest : List String}
    (tracks : Tracks ends goal flight past first gathered)
    (queued : flight.queued = vendor :: rest) (free : flight.running.length < poolSize) :
    Tracks ends goal { flight with queued := rest, running := flight.running ++ [vendor] } past
      (first ++ [vendor]) gathered := by
  have few : first.countP (hangsBy ends) < poolSize := by
    rw [tracks.countP_first]
    exact Nat.lt_of_le_of_lt List.countP_le_length free
  have chunk : flight.chunk = first ++ vendor :: rest := by rw [tracks.chunk, queued]
  refine { tracks with chunk := ?chunk, split := ?split, started := ?started }
  case chunk =>
    rw [chunk, List.append_assoc]
    rfl
  case split =>
    rw [← List.append_assoc]
    exact tracks.split.append_right [vendor]
  case started =>
    obtain ⟨left, enough⟩ : ∃ left, poolSize - first.countP (hangsBy ends) = left + 1 :=
      ⟨poolSize - first.countP (hangsBy ends) - 1, by omega⟩
    rw [chunk, started_append_of_few _ few, enough, FanOut.started, List.prefix_append_right_inj]
    exact List.prefix_append [vendor] _

/-- A lookup that ends is not running any more. -/
theorem Tracks.finish {vendor : String} (tracks : Tracks ends goal flight past first gathered)
    (runs : vendor ∈ flight.running) (comes : hangsBy ends vendor = false) :
    Tracks ends goal { flight with
      running := flight.running.erase vendor
      ended := flight.ended ++ [vendor] } past first gathered := by
  refine { tracks with split := ?split, comes := ?comes }
  case split =>
    refine tracks.split.trans ?_
    simp only [List.append_assoc]
    exact List.Perm.append_left _ (List.Perm.append_left _ (List.perm_cons_erase runs))
  case comes =>
    intro other member
    rw [← List.append_assoc, List.mem_append, List.mem_singleton] at member
    rcases member with before | rfl
    · exact tracks.comes other before
    · exact comes

/-- A lookup that is collected is one more of those gathered. -/
theorem Tracks.collect {vendor : String} (tracks : Tracks ends goal flight past first gathered)
    (listed : vendor ∈ flight.ended) :
    Tracks ends goal { flight with
      ended := flight.ended.erase vendor
      records := collected ends flight.records vendor } past first (gathered ++ [vendor]) := by
  refine { tracks with split := ?split, comes := ?comes, records := ?records }
  case split =>
    refine tracks.split.trans (List.Perm.append_right _ ?_)
    rw [List.append_assoc]
    exact List.Perm.append_left _ (List.perm_cons_erase listed)
  case comes =>
    intro other member
    refine tracks.comes other ?_
    simp only [List.mem_append, List.mem_singleton] at member ⊢
    rcases member with (before | rfl) | after
    · exact .inl before
    · exact .inr listed
    · exact .inr (List.mem_of_mem_erase after)
  case records =>
    intro name
    rw [find?_collected, tracks.records]
    by_cases same : name = vendor
    · subst same
      cases standing : standingBy ends name <;> simp
    · simp [same]

/-- A chunk that is all gathered is behind the flight when the next one is submitted. -/
theorem Tracks.submit {chunk : List String} {rest : List (List String)}
    (tracks : Tracks ends goal flight past first gathered) (queued : flight.queued = [])
    (idle : flight.running = []) (all : flight.ended = [])
    (waits : flight.waiting = chunk :: rest) :
    Tracks ends goal { flight with chunk, queued := chunk, waiting := rest }
      (past ++ flight.chunk) [] [] := by
  obtain ⟨perm, clean⟩ := tracks.gathered_perm queued idle all
  refine ⟨rfl, ?split, ?comes, List.nil_prefix, ?distinct, ?records, ?goal⟩
  case split =>
    simp only [all, idle]
    exact .refl _
  case comes => simp [all]
  case distinct =>
    have distinct := tracks.distinct
    rw [waits] at distinct
    exact (List.forall_mem_cons.mp distinct).2
  case records =>
    intro vendor
    rw [tracks.records, List.append_nil]
    simp only [List.mem_append, perm.mem_iff]
  case goal => rw [tracks.goal, inTime_cons_of_clean clean, waits, List.append_assoc]

/-- When the deadline passes, sweeping up reaches the goal. -/
theorem Tracks.expire (tracks : Tracks ends goal flight past first gathered)
    (stuck : flight.IsStuck ends) :
    Tracks ends goal { ofChunks [] with records := swept ends flight.records flight.done }
      goal [] [] := by
  obtain ⟨vendor, runs⟩ := List.exists_mem_of_ne_nil _ stuck.1
  have late : flight.chunk.any (hangsBy ends) = true := by
    refine List.any_eq_true.mpr ⟨vendor, ?_, stuck.2.1 vendor runs⟩
    rw [tracks.chunk]
    exact List.mem_append_left _ (tracks.split.mem_iff.mpr (List.mem_append_right _ runs))
  have aim : ∀ name, name ∈ goal ↔ name ∈ past ∨ name ∈ flight.done := by
    intro name
    rw [tracks.goal, inTime_cons_of_late late, tracks.started_eq stuck, List.mem_append,
      List.mem_filter, Bool.not_eq_true', tracks.mem_done stuck]
  have ended : ∀ name ∈ gathered, name ∈ flight.done := by
    intro name member
    have member := List.mem_append_left flight.ended member
    exact (tracks.mem_done stuck name).mpr
      ⟨tracks.split.mem_iff.mpr (List.mem_append_left _ member), tracks.comes name member⟩
  refine ⟨rfl, .refl _, by simp [ofChunks], List.nil_prefix, by simp [ofChunks], ?records, ?goal⟩
  case records =>
    intro name
    rw [find?_swept, tracks.records]
    simp only [List.append_nil, List.mem_append, aim]
    by_cases known : name ∈ past
    · simp [known]
    · by_cases there : name ∈ flight.done
      · by_cases before : name ∈ gathered <;> simp [there, before, known]
      · simp [there, known, mt (ended name) there]
  case goal =>
    have nothing : inTime (hangsBy ends) [[]] = [] := inTime_cons_of_clean rfl []
    change goal = goal ++ inTime (hangsBy ends) [[]]
    rw [nothing, List.append_nil]

/-- Every step keeps track of the goal. -/
theorem Tracks.step {next : Flight} (tracks : Tracks ends goal flight past first gathered)
    (step : Step ends flight next) :
    ∃ past first gathered, Tracks ends goal next past first gathered := by
  cases step with
  | start queued free => exact ⟨_, _, _, tracks.start queued free⟩
  | finish runs comes => exact ⟨_, _, _, tracks.finish runs comes⟩
  | collect listed => exact ⟨_, _, _, tracks.collect listed⟩
  | submit queued idle all waits => exact ⟨_, _, _, tracks.submit queued idle all waits⟩
  | expire stuck => exact ⟨_, _, _, tracks.expire stuck⟩

/-- Every run keeps track of the goal. -/
theorem Tracks.runs {after : Flight} (tracks : Tracks ends goal flight past first gathered)
    (runs : Runs ends flight after) :
    ∃ past first gathered, Tracks ends goal after past first gathered := by
  induction runs with
  | refl => exact ⟨past, first, gathered, tracks⟩
  | tail _ step ih =>
    obtain ⟨past, first, gathered, tracks⟩ := ih
    exact tracks.step step

/-- A flight that is over has the standings of exactly the vendors of the goal. -/
theorem Tracks.find?_of_isOver (tracks : Tracks ends goal flight past first gathered)
    (landed : flight.IsOver) (vendor : String) :
    flight.records.find? vendor = if vendor ∈ goal then standingBy ends vendor else none := by
  obtain ⟨queued, idle, all, waits⟩ := landed
  obtain ⟨perm, clean⟩ := tracks.gathered_perm queued idle all
  have reached : goal = past ++ flight.chunk := by
    rw [tracks.goal, waits, inTime_cons_of_clean clean, ← List.append_assoc]
    exact List.append_nil _
  rw [tracks.records, reached]
  simp only [List.mem_append, perm.mem_iff]

end Tracking

section Landing

/-- Every flight can go on until it is over. -/
theorem exists_landing (flight : Flight) :
    ∃ landed, Runs ends flight landed ∧ landed.IsOver := by
  induction steps : flight.weight using Nat.strong_induction_on generalizing flight with
  | _ weight ih =>
    by_cases landed : flight.IsOver
    · exact ⟨flight, .refl, landed⟩
    · obtain ⟨next, step⟩ : ∃ next, Step ends flight next := exists_step landed
      obtain ⟨last, runs, isOver⟩ := ih next.weight (steps ▸ step.weight_lt) next rfl
      exact ⟨last, runs.head step, isOver⟩

/-- No flight goes on for ever. -/
theorem wellFounded_step : WellFounded fun next flight => Step ends flight next :=
  Subrelation.wf Step.weight_lt (measure weight).wf

end Landing

end Flight

open Flight (Runs)

/-- The vendors that some ids name; an id that is missing names none. -/
def named (ids : List (Option String)) : List String := ids.map fun id => id.getD ""

/-- A list of ids names the vendors that are in it and not blank. -/
theorem mem_distinctVendors_named {ids : List (Option String)} {vendor : String} :
    vendor ∈ distinctVendors (named ids) ↔ some vendor ∈ ids ∧ vendor ≠ "" := by
  rw [mem_distinctVendors, named, List.mem_map]
  constructor
  · rintro ⟨⟨id, member, rfl⟩, present⟩
    cases id with
    | none => exact absurd rfl present
    | some vendor => exact ⟨member, present⟩
  · rintro ⟨member, present⟩
    exact ⟨⟨some vendor, member, rfl⟩, present⟩

/-- No chunk of the vendors to look up has a vendor twice. -/
theorem chunks_nodup (budget : Budget) (vendors : List String) :
    ∀ chunk ∈ chunks budget.chunkSize (distinctVendors vendors), chunk.Nodup := by
  intro chunk member
  have distinct : (distinctVendors vendors).Nodup := Sequence.firsts_nodup _
  rw [← flatten_chunks budget (distinctVendors vendors), List.nodup_flatten] at distinct
  exact distinct.1 chunk member

/-- However its lookups complete, a flight lands with the standings of the vendors that are answered
in time. -/
theorem find?_of_landed {budget : Budget} {vendors : List String} {landed : Flight}
    (runs : Runs ends (.ofBudget budget vendors) landed) (isOver : landed.IsOver)
    (vendor : String) :
    landed.records.find? vendor =
      if vendor ∈ answered (hangsBy ends) budget vendors then standingBy ends vendor else none := by
  have distinct : ∀ chunk ∈ (if budget.hasTime then
      chunks budget.chunkSize (distinctVendors vendors) else []), chunk.Nodup := by
    split
    · exact chunks_nodup budget vendors
    · simp
  obtain ⟨past, first, gathered, tracks⟩ := (Flight.tracks_ofChunks distinct).runs runs
  have goal : inTime (hangsBy ends) (if budget.hasTime then
      chunks budget.chunkSize (distinctVendors vendors) else []) =
        answered (hangsBy ends) budget vendors := by
    rw [answered]
    split <;> rfl
  rw [tracks.find?_of_isOver isOver, goal]

/-- A lookup that ends as given hangs, or reports what it found. -/
theorem ending_of_pure {σ : Type} (ends : String → LookupOutcome) (vendor : String) :
    Call.Leaves (fun _ : σ => True) (pure (ends vendor))
      (Ending (hangsBy ends vendor) (standingBy ends vendor)) := by
  refine .pure ?_
  unfold Ending Reports hangsBy standingBy
  cases ends vendor with
  | found standing => rfl
  | unknown => exact .inl rfl
  | failed => exact .inr rfl
  | hanging => rfl

/-- A chunk of some vendors is no longer than asked for. -/
theorem length_le_of_mem_chunks {α : Type} {size : Nat} {chunk : List α} :
    ∀ {steps : Nat} {xs : List α}, chunk ∈ chunksWithin size steps xs → chunk.length ≤ size := by
  intro steps
  induction steps with
  | zero => exact fun member => by cases member
  | succ steps ih =>
    intro xs member
    cases xs with
    | nil => cases member
    | cons x rest =>
      rcases List.mem_cons.mp member with rfl | later
      · exact List.length_take_le _ _
      · exact ih later

/-- The chunks that are submitted are chunks of the list. -/
theorem submitted_subset (hangs : String → Bool) (chunks : List (List String)) :
    submitted hangs chunks ⊆ chunks := by
  induction chunks with
  | nil => exact fun _ member => member
  | cons chunk rest ih =>
    unfold submitted
    split
    · exact List.cons_subset_cons chunk (List.nil_subset rest)
    · exact List.cons_subset_cons chunk ih

/-- The vendors that would be answered in time if every lookup had a thread of its own: those of the
chunks up to the first one with a lookup that hangs, without the ones that hang. -/
def answeredApart (hangs : String → Bool) (budget : Budget) (vendors : List String) :
    List String :=
  (submitted hangs (chunks budget.chunkSize (distinctVendors vendors))).flatten.filter (!hangs ·)

/-- The pool makes no difference if chunks are no larger than it, or leave a thread of it free. -/
theorem answered_eq_apart {hangs : String → Bool} {budget : Budget}
    (timely : budget.hasTime = true) {vendors : List String}
    (free : budget.maxWorkers ≤ poolSize ∨
      ∀ chunk ∈ submitted hangs (chunks budget.chunkSize (distinctVendors vendors)),
        chunk.countP hangs < poolSize) :
    answered hangs budget vendors = answeredApart hangs budget vendors := by
  rw [answered, if_pos timely, inTime_eq_filter, answeredApart]
  intro chunk member
  rcases free with small | few
  · refine started_eq_self_of_short chunk ?_
    have short : chunk.length ≤ budget.chunkSize :=
      length_le_of_mem_chunks (submitted_subset hangs _ member)
    have fits : budget.chunkSize ≤ poolSize := by
      unfold Budget.chunkSize poolSize at *
      omega
    exact short.trans fits
  · exact started_eq_self_of_few (few chunk member)

/-- Other outcomes of the lookup of one vendor, as long as it ends, leave the answered vendors and
what is found of the others. -/
theorem hangsBy_eq_of_other {others : String → LookupOutcome} {vendor : String}
    (same : ∀ other, other ≠ vendor → others other = ends other)
    (comes : hangsBy ends vendor = false) (alsoComes : hangsBy others vendor = false) :
    hangsBy others = hangsBy ends := by
  funext other
  by_cases own : other = vendor
  · rw [own, comes, alsoComes]
  · rw [hangsBy, hangsBy, same other own]

/-- With time for the lookups, a flight that looks up the vendors of some ids cannot be caught short
of landing, and does not go on for ever. Wherever it lands, in whatever order its lookups complete,
it has what was found of exactly the vendors that are answered in time, as looking up one vendor
after the other has. If no lookup hangs, these are all ids that are not blank, however many lookups
may be in flight and however the ids are listed. If some hang, they are those of the chunks up to
the first one with such a lookup that do not hang, as long as the pool has a thread for each chunk's
lookups. And how the lookup of one vendor ends makes no difference to what is found of the others,
as long as it ends. -/
theorem flights_land {budget : Budget} (timely : budget.hasTime = true)
    (ends : String → LookupOutcome) (ids : List (Option String)) :
    WellFounded (fun next flight => Flight.Step ends flight next) ∧
    (∀ flight, Runs ends (.ofBudget budget (named ids)) flight →
      ∃ landed, Runs ends flight landed ∧ landed.IsOver) ∧
    (budget.maxWorkers ≤ poolSize ∨
        (∀ chunk ∈ submitted (hangsBy ends)
          (chunks budget.chunkSize (distinctVendors (named ids))),
            chunk.countP (hangsBy ends) < poolSize) →
      answered (hangsBy ends) budget (named ids) =
        answeredApart (hangsBy ends) budget (named ids)) ∧
    ∀ landed, Runs ends (.ofBudget budget (named ids)) landed → landed.IsOver →
      (∀ vendor, landed.records.find? vendor =
        if vendor ∈ answered (hangsBy ends) budget (named ids) then standingBy ends vendor
        else none) ∧
      (∀ vendor, landed.records.find? vendor = ((gather (some fun vendor => pure (ends vendor))
        budget (named ids)).run ()).1.lookup vendor) ∧
      ((∀ vendor, some vendor ∈ ids → vendor ≠ "" → hangsBy ends vendor = false) →
        ∀ vendor, landed.records.find? vendor =
          if some vendor ∈ ids ∧ vendor ≠ "" then standingBy ends vendor else none) ∧
      ∀ others vendor, (∀ other, other ≠ vendor → others other = ends other) →
        hangsBy ends vendor = false → hangsBy others vendor = false →
        ∀ apart, Runs others (.ofBudget budget (named ids)) apart → apart.IsOver →
          ∀ other, other ≠ vendor → apart.records.find? other = landed.records.find? other := by
  refine ⟨Flight.wellFounded_step, fun flight _ => flight.exists_landing,
    fun free => answered_eq_apart timely free, fun landed runs isOver => ?_⟩
  have found := find?_of_landed runs isOver
  refine ⟨found, fun vendor => ?_, fun clean vendor => ?_, ?_⟩
  · have gathers := (gather_answered (ending_of_pure ends) budget (named ids) () trivial).1
    rw [gathers, lookup_known, found]
  · have all : answered (hangsBy ends) budget (named ids) = distinctVendors (named ids) := by
      refine answered_of_timely timely fun vendor member => ?_
      obtain ⟨listed, present⟩ := mem_distinctVendors_named.mp member
      exact clean vendor listed present
    rw [found, all]
    simp only [mem_distinctVendors_named]
  · intro others vendor same comes alsoComes apart alsoRuns alsoOver other differs
    rw [found, find?_of_landed alsoRuns alsoOver, hangsBy_eq_of_other same comes alsoComes,
      standingBy, standingBy, same other differs]

section Sample

/-- A standing of a vendor that is not gated. -/
def sampleStanding (vendor : String) : Standing := ⟨vendor, none, true, none, none, false, none⟩

/-- Lookups of which those of some vendors hang, and the others find a standing. -/
def sampleEnds (hanging : List String) (vendor : String) : LookupOutcome :=
  if hanging.contains vendor then .hanging else .found (sampleStanding vendor)

/-- With two lookups at a time a mill whose lookup hangs is looked up next to the loom. The smith of
the next chunk is not looked up. -/
theorem flights_land_sample :
    (⟨2, true⟩ : Budget).hasTime = true ∧
    answered (hangsBy (sampleEnds ["mill"])) ⟨2, true⟩
      (named [some "loom", none, some "", some "mill", some "loom", some "smith"]) = ["loom"] ∧
    ∃ landed, Runs (sampleEnds ["mill"]) (.ofBudget ⟨2, true⟩
        (named [some "loom", none, some "", some "mill", some "loom", some "smith"])) landed ∧
      landed.records.find? "loom" = some (sampleStanding "loom") ∧
      landed.records.find? "smith" = none := by
  have timely : (⟨2, true⟩ : Budget).hasTime = true := rfl
  have only : answered (hangsBy (sampleEnds ["mill"])) ⟨2, true⟩
      (named [some "loom", none, some "", some "mill", some "loom", some "smith"]) = ["loom"] := by
    decide +kernel
  obtain ⟨-, lands, -, tells⟩ := flights_land timely (sampleEnds ["mill"])
    [some "loom", none, some "", some "mill", some "loom", some "smith"]
  obtain ⟨landed, runs, isOver⟩ := lands _ .refl
  have found := (tells landed runs isOver).1
  rw [only] at found
  exact ⟨timely, only, landed, runs, found "loom", found "smith"⟩

/-- Sixteen mills. -/
def sampleMills : List String := (List.range 16).map fun number => "mill " ++ toString number

/-- With seventeen lookups at a time sixteen mills whose lookups hang keep all threads of the pool.
The lookup of the loom, the last of the same chunk, would find a standing, but does not start. -/
theorem loom_waits_for_thread :
    answeredApart (hangsBy (sampleEnds sampleMills)) ⟨17, true⟩ (sampleMills ++ ["loom"]) =
      ["loom"] ∧
    answered (hangsBy (sampleEnds sampleMills)) ⟨17, true⟩ (sampleMills ++ ["loom"]) = [] ∧
    (((gather (some fun vendor => pure (sampleEnds sampleMills vendor)) ⟨17, true⟩
      (sampleMills ++ ["loom"])).run ()).1.lookup "loom").isNone = true ∧
    ∀ landed,
      Runs (sampleEnds sampleMills) (.ofBudget ⟨17, true⟩ (sampleMills ++ ["loom"])) landed →
        landed.IsOver → landed.records.find? "loom" = none := by
  have none : answered (hangsBy (sampleEnds sampleMills)) ⟨17, true⟩ (sampleMills ++ ["loom"]) =
      [] := by decide +kernel
  refine ⟨by decide +kernel, none, by decide +kernel, fun landed runs isOver => ?_⟩
  rw [find?_of_landed runs isOver, none]
  rfl

end Sample

end FanOut

end Storefront
