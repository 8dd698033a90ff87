import Storefront.Proofs.Calls
import Storefront.Proofs.Sequences
import Storefront.Vendor.FanOut
/-!
# Gathering standings

What a gathering of standings gives if the service always says the same of a vendor or always hangs
for it: exactly what the service knows of the vendors that are answered in time. Chunks follow one
another up to the first one with a lookup that hangs, so all vendors with a name are answered in
time if no lookup hangs. In that last chunk the lookups start in order while threads are free.
-/

namespace Storefront.FanOut

open Call (Leaves)

variable {σ : Type} {safe : σ → Prop} {find : String → Option Standing} {hangs : String → Bool}
  {lookUp : String → StateM σ LookupOutcome}

/-- An outcome that says in time what is known of a vendor. -/
def Reports (standing : Option Standing) (outcome : LookupOutcome) : Prop :=
  match standing with
  | some standing => outcome = .found standing
  | none => outcome = .unknown ∨ outcome = .failed

/-- An outcome of a lookup that does not end, or says what is known of a vendor. -/
def Ending (hangs : Bool) (standing : Option Standing) (outcome : LookupOutcome) : Prop :=
  if hangs then outcome = .hanging else Reports standing outcome

/-- The chunks that are looked up: one with a lookup that hangs is the last. -/
def submitted (hangs : String → Bool) : List (List String) → List (List String)
  | [] => []
  | chunk :: rest => if chunk.any hangs then [chunk] else chunk :: submitted hangs rest

/-- The vendors of a chunk whose lookups get one of some free threads, if a lookup that hangs keeps
its thread. -/
def started (hangs : String → Bool) : Nat → List String → List String
  | _, [] => []
  | 0, _ :: _ => []
  | free + 1, vendor :: rest =>
    vendor :: started hangs (if hangs vendor then free else free + 1) rest

/-- The vendors of some chunks whose lookups start and end before time is up. -/
def inTime (hangs : String → Bool) (chunks : List (List String)) : List String :=
  ((submitted hangs chunks).flatMap (started hangs poolSize)).filter (!hangs ·)

/-- The vendors of a list whose lookups end in time. -/
def answered (hangs : String → Bool) (budget : Budget) (vendors : List String) : List String :=
  if budget.hasTime then inTime hangs (chunks budget.chunkSize (distinctVendors vendors)) else []

/-- The standings known of some vendors. -/
def known (find : String → Option Standing) (vendors : List String) : TrustMap :=
  vendors.filterMap fun vendor => (find vendor).map (vendor, ·)

/-- What is known of the vendors of several lists is what is known of each of them. -/
theorem known_append (first second : List String) :
    known find (first ++ second) = known find first ++ known find second :=
  List.filterMap_append

/-- Among what is known of some vendors, each of them has its standing, and no other vendor has
any. -/
theorem lookup_known (find : String → Option Standing) (vendors : List String) (vendor : String) :
    (known find vendors).lookup vendor = if vendor ∈ vendors then find vendor else none := by
  induction vendors with
  | nil => rfl
  | cons first rest ih =>
    cases standing : find first with
    | none =>
      have skipped : known find (first :: rest) = known find rest := by simp [known, standing]
      rw [skipped, ih]
      by_cases own : vendor = first
      · subst own
        simp [standing]
      · simp [own]
    | some found =>
      have entered : known find (first :: rest) = (first, found) :: known find rest := by
        simp [known, standing]
      rw [entered, List.lookup_cons, ih]
      by_cases own : vendor = first
      · subst own
        simp [standing]
      · rw [beq_false_of_ne own]
        simp [own]

/-- The chunks of a list make it up. -/
theorem flatten_chunksWithin {α : Type} {size : Nat} (positive : 1 ≤ size) :
    ∀ (steps : Nat) (xs : List α), xs.length ≤ steps →
      (chunksWithin size steps xs).flatten = xs := by
  intro steps
  induction steps with
  | zero =>
    intro xs short
    rw [List.eq_nil_of_length_eq_zero (Nat.le_zero.mp short)]
    rfl
  | succ steps ih =>
    intro xs short
    cases xs with
    | nil => rfl
    | cons x rest =>
      rw [List.length_cons] at short
      have shorter : ((x :: rest).drop size).length ≤ steps := by
        rw [List.length_drop, List.length_cons]
        omega
      rw [chunksWithin, List.flatten_cons, ih _ shorter, List.take_append_drop]
      simp

section Keeping

variable (keeps : ∀ vendor, Leaves safe (lookUp vendor) fun _ => True)
include keeps

/-- A chunk leaves a safe state if every lookup does. -/
theorem lookUpChunk_keeps (vendors : List String) :
    ∀ free, Leaves safe (lookUpChunk lookUp free vendors) fun _ => True := by
  induction vendors with
  | nil => exact fun _ => .pure trivial
  | cons vendor rest ih =>
    intro free
    cases free with
    | zero => exact .pure trivial
    | succ free =>
      refine (keeps vendor).bind fun outcome _ => ?_
      cases outcome with
      | found standing => exact (ih _).bind fun _ _ => .pure trivial
      | hanging => exact (ih _).bind fun _ _ => .pure trivial
      | unknown => exact ih _
      | failed => exact ih _

/-- All chunks leave a safe state, also if one of them hangs. -/
theorem lookUpChunks_keeps (chunks : List (List String)) :
    Leaves safe (lookUpChunks lookUp chunks) fun _ => True := by
  induction chunks with
  | nil => exact .pure trivial
  | cons chunk rest ih =>
    refine (lookUpChunk_keeps keeps chunk poolSize).bind ?_
    rintro ⟨found, late⟩ -
    cases late with
    | true => exact .pure trivial
    | false => exact ih.bind fun _ _ => .pure trivial

/-- Gathering standings leaves a safe state if every lookup does. -/
theorem gather_keeps (budget : Budget) (vendors : List String) :
    Leaves safe (gather (some lookUp) budget vendors) fun _ => True := by
  by_cases timely : budget.hasTime = true
  · rw [gather, if_pos timely]
    exact lookUpChunks_keeps keeps _
  · rw [gather, if_neg timely]
    exact .pure trivial

end Keeping

section Threads

/-- Lookups start in order. -/
theorem started_prefix (vendors : List String) :
    ∀ free, started hangs free vendors <+: vendors := by
  induction vendors with
  | nil => exact fun _ => List.nil_prefix
  | cons vendor rest ih =>
    intro free
    cases free with
    | zero => exact List.nil_prefix
    | succ free => exact List.prefix_cons_inj vendor |>.mpr (ih _)

/-- As long as not every thread is kept, all lookups start. -/
theorem started_append_of_few {first : List String} (rest : List String) :
    ∀ {free : Nat}, first.countP hangs < free →
      started hangs free (first ++ rest) =
        first ++ started hangs (free - first.countP hangs) rest := by
  induction first with
  | nil => exact fun _ => rfl
  | cons vendor others ih =>
    intro free few
    obtain ⟨left, rfl⟩ : ∃ left, free = left + 1 := ⟨free - 1, by omega⟩
    rw [List.countP_cons] at few ⊢
    rw [List.cons_append, started, List.cons_append]
    cases hanging : hangs vendor with
    | false =>
      simp only [hanging, Bool.false_eq_true, if_false, Nat.add_zero] at few ⊢
      rw [ih few]
    | true =>
      simp only [hanging, if_true] at few ⊢
      rw [ih (by omega), Nat.add_sub_add_right]

/-- Once every thread is kept, no other lookup starts. -/
theorem started_append_of_full {first : List String} (rest : List String) :
    ∀ {free : Nat}, free ≤ first.countP hangs →
      started hangs free (first ++ rest) = started hangs free first := by
  induction first with
  | nil =>
    intro free full
    obtain rfl : free = 0 := Nat.le_zero.mp full
    cases rest <;> rfl
  | cons vendor others ih =>
    intro free full
    cases free with
    | zero => rfl
    | succ left =>
      rw [List.countP_cons] at full
      rw [List.cons_append, started, started]
      cases hanging : hangs vendor with
      | false =>
        simp only [hanging, Bool.false_eq_true, if_false, Nat.add_zero] at full ⊢
        rw [ih full]
      | true =>
        simp only [hanging, if_true] at full ⊢
        rw [ih (by omega)]

/-- All lookups of a chunk start if not all threads are kept. -/
theorem started_eq_self_of_few {vendors : List String} {free : Nat}
    (few : vendors.countP hangs < free) : started hangs free vendors = vendors := by
  have all := started_append_of_few [] few
  simpa only [List.append_nil, started] using all

/-- All lookups of a chunk start if there is a thread for each of them. -/
theorem started_eq_self_of_short (vendors : List String) :
    ∀ {free : Nat}, vendors.length ≤ free → started hangs free vendors = vendors := by
  induction vendors with
  | nil => exact fun _ => rfl
  | cons vendor rest ih =>
    intro free short
    rw [List.length_cons] at short
    obtain ⟨left, rfl⟩ : ∃ left, free = left + 1 := ⟨free - 1, by omega⟩
    rw [started, ih]
    split <;> omega

/-- A chunk with a lookup that hangs is the last, and of it the lookups that start count. -/
theorem inTime_cons_of_late {chunk : List String} (late : chunk.any hangs = true)
    (rest : List (List String)) :
    inTime hangs (chunk :: rest) = (started hangs poolSize chunk).filter (!hangs ·) := by
  rw [inTime, submitted, if_pos late, List.flatMap_cons, List.flatMap_nil, List.append_nil]

/-- Of a chunk without a lookup that hangs all lookups count. -/
theorem filter_started_of_clean {chunk : List String} (clean : chunk.any hangs = false) :
    (started hangs poolSize chunk).filter (!hangs ·) = chunk := by
  have none : ∀ vendor ∈ chunk, ¬ hangs vendor = true := List.any_eq_false.mp clean
  have few : chunk.countP hangs < poolSize := by
    rw [List.countP_eq_zero.mpr none]
    decide
  rw [started_eq_self_of_few few]
  exact List.filter_eq_self.mpr fun vendor member => by simpa using none vendor member

/-- After a chunk without a lookup that hangs the other chunks follow. -/
theorem inTime_cons_of_clean {chunk : List String} (clean : chunk.any hangs = false)
    (rest : List (List String)) :
    inTime hangs (chunk :: rest) = chunk ++ inTime hangs rest := by
  rw [inTime, submitted, clean, if_neg (by simp), List.flatMap_cons, List.filter_append,
    filter_started_of_clean clean]
  rfl

/-- Without a lookup that hangs every lookup of every chunk counts. -/
theorem inTime_eq_flatten {chunks : List (List String)}
    (clean : ∀ chunk ∈ chunks, chunk.any hangs = false) :
    inTime hangs chunks = chunks.flatten := by
  induction chunks with
  | nil => rfl
  | cons chunk rest ih =>
    rw [List.forall_mem_cons] at clean
    rw [inTime_cons_of_clean clean.1, ih clean.2, List.flatten_cons]

/-- If the lookups of every chunk start, then those count that do not hang, up to the last chunk. -/
theorem inTime_eq_filter {chunks : List (List String)}
    (all : ∀ chunk ∈ submitted hangs chunks, started hangs poolSize chunk = chunk) :
    inTime hangs chunks = (submitted hangs chunks).flatten.filter (!hangs ·) := by
  have starts : (submitted hangs chunks).map (started hangs poolSize) = submitted hangs chunks := by
    rw [List.map_congr_left all, List.map_id']
  rw [inTime, List.flatMap_def, starts]

end Threads

/-- The vendors to look up are those of the list that have a name. -/
theorem mem_distinctVendors {vendors : List String} {vendor : String} :
    vendor ∈ distinctVendors vendors ↔ vendor ∈ vendors ∧ vendor ≠ "" := by
  rw [distinctVendors, Sequence.mem_firsts, List.mem_filter]
  simp

section Reporting

variable (ends : ∀ vendor, Leaves safe (lookUp vendor) (Ending (hangs vendor) (find vendor)))
include ends

/-- A chunk gives what is known of its vendors whose lookups start and do not hang. With a thread to
begin with it is late if one of its lookups hangs. -/
theorem lookUpChunk_leaves (vendors : List String) :
    ∀ free, Leaves safe (lookUpChunk lookUp free vendors) fun result =>
      result.1 = known find ((started hangs free vendors).filter (!hangs ·)) ∧
        (0 < free → result.2 = vendors.any hangs) := by
  induction vendors with
  | nil => exact fun _ => .pure ⟨rfl, fun _ => rfl⟩
  | cons vendor rest ih =>
    intro free
    cases free with
    | zero => exact .pure ⟨rfl, fun positive => absurd positive (Nat.lt_irrefl 0)⟩
    | succ free =>
      refine (ends vendor).bind fun outcome ended => ?_
      unfold Ending at ended
      by_cases hanging : hangs vendor = true
      · rw [if_pos hanging] at ended
        subst ended
        refine (ih free).bind ?_
        rintro ⟨_, late⟩ ⟨rfl, -⟩
        exact .pure (by simp [started, hanging])
      · rw [if_neg hanging] at ended
        unfold Reports at ended
        cases standing : find vendor with
        | some standing =>
          rw [standing] at ended
          subst ended
          refine (ih (free + 1)).bind ?_
          rintro ⟨_, late⟩ ⟨rfl, same⟩
          obtain rfl := same (Nat.succ_pos free)
          exact .pure (by simp [started, known, standing, hanging])
        | none =>
          have skipped :
              known find ((started hangs (free + 1) (vendor :: rest)).filter (!hangs ·)) =
                known find ((started hangs (free + 1) rest).filter (!hangs ·)) := by
            simp [started, known, standing, hanging]
          rw [standing] at ended
          rw [skipped, List.any_cons, Bool.eq_false_of_not_eq_true hanging, Bool.false_or]
          rcases ended with rfl | rfl <;> exact ih (free + 1)

/-- The chunks give what is known of the vendors whose lookups end in time. -/
theorem lookUpChunks_leaves (chunks : List (List String)) :
    Leaves safe (lookUpChunks lookUp chunks) fun trust =>
      trust = known find (inTime hangs chunks) := by
  induction chunks with
  | nil => exact .pure rfl
  | cons chunk rest ih =>
    refine (lookUpChunk_leaves ends chunk poolSize).bind ?_
    rintro ⟨_, late⟩ ⟨rfl, same⟩
    obtain rfl := same (by decide)
    cases hanging : chunk.any hangs with
    | true =>
      rw [inTime_cons_of_late hanging]
      exact .pure rfl
    | false =>
      refine ih.bind ?_
      rintro _ rfl
      refine .pure ?_
      rw [inTime_cons_of_clean hanging, known_append, filter_started_of_clean hanging]

/-- A gathering gives exactly what is known of the vendors that are answered in time. -/
theorem gather_answered (budget : Budget) (vendors : List String) :
    Leaves safe (gather (some lookUp) budget vendors) fun trust =>
      trust = known find (answered hangs budget vendors) := by
  rw [gather, answered]
  by_cases timely : budget.hasTime = true
  · rw [if_pos timely, if_pos timely]
    exact lookUpChunks_leaves ends _
  · rw [if_neg timely, if_neg timely]
    exact .pure rfl

end Reporting

/-- The chunks of the vendors to look up make them up. -/
theorem flatten_chunks (budget : Budget) (vendors : List String) :
    (chunks budget.chunkSize vendors).flatten = vendors := by
  have sized : 1 ≤ budget.chunkSize := Nat.le_max_left _ _
  exact flatten_chunksWithin sized _ _ (Nat.le_refl _)

/-- With time for the lookups and none that hangs, every vendor that has a name is answered. -/
theorem answered_of_timely {budget : Budget} (timely : budget.hasTime = true)
    {vendors : List String} (clean : ∀ vendor ∈ distinctVendors vendors, hangs vendor = false) :
    answered hangs budget vendors = distinctVendors vendors := by
  rw [answered, if_pos timely, inTime_eq_flatten, flatten_chunks]
  intro chunk member
  rw [List.any_eq_false]
  intro vendor within
  rw [clean]
  · exact Bool.false_ne_true
  · rw [← flatten_chunks budget (distinctVendors vendors)]
    exact List.mem_flatten_of_mem member within

/-- With time for the lookups and a service that reports in time, every vendor that has a name has
exactly the standing that the service knows of it. -/
theorem gather_leaves (reports : ∀ vendor, Leaves safe (lookUp vendor) (Reports (find vendor)))
    {budget : Budget} (timely : budget.hasTime = true) (vendors : List String) :
    Leaves safe (gather (some lookUp) budget vendors)
      fun trust => ∀ vendor ∈ vendors, vendor ≠ "" → trust.lookup vendor = find vendor := by
  have ends : ∀ vendor, Leaves safe (lookUp vendor) (Ending false (find vendor)) := reports
  refine (gather_answered ends budget vendors).mono ?_
  rintro _ rfl vendor member named
  rw [answered_of_timely timely fun _ _ => rfl, lookup_known,
    if_pos (mem_distinctVendors.mpr ⟨member, named⟩)]

end Storefront.FanOut
