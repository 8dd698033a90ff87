import Storefront.Proofs.Guarantees
import Storefront.Proofs.Vectors
import Storefront.Rehearsal.Outage
/-!
# What an outage leaves of a kept profile

A profile is computed anew from the log, the stated preferences, the styles of items and a service
that embeds texts, and then kept as a whole. Each of these may fail; what fails counts as absent. So
the style that is kept survives unless a profile without a style is stored in its place: one whose
fit is known from measurements when nothing is known of the style. A profile of which neither is
known is not stored.
-/

namespace Storefront

open Call (Leaves Ends)

section Reading

/-- The faults with which the reads for a profile end, where they do not answer. -/
structure ReadFaults where
  events : Option Fault
  item : Key → Option Fault
  preferences : Option Fault
  embedding : Option Fault

/-- Collaborators some of whose reads fail. -/
def Collaborators.failing {σ : Type} (faults : ReadFaults) (world : Collaborators σ) :
    Collaborators σ :=
  { world with
    recentEvents userId limit since :=
      (world.recentEvents userId limit since).interrupted fun _ => faults.events
    findItem key := (world.findItem key).interrupted fun _ => faults.item key
    preferences := world.preferences.map fun load userId =>
      (load userId).interrupted fun _ => faults.preferences
    embed := world.embed.map fun embed text => (embed text).interrupted fun _ => faults.embedding }

/-- The preferences that are loaded of a user. -/
def ReadFaults.loaded (faults : ReadFaults) (memory : Memory) (userId : String) :
    Option Preferences :=
  match faults.preferences with
  | some _ => none
  | none => memory.preferences.find? userId

/-- What is found out for a profile: its style, and the preferences that it is computed from. -/
def Profile.findings {σ : Type} (world : Collaborators σ) (config : Config) (userId : String) :
    Call σ (Option (List Float) × Option Preferences) := do
  let events ← Call.ofState (recentEvents world userId eventLimit)
  let preferences ← Call.ofState (statedPreferences world userId)
  let stated ← Call.ofState <| match preferences with
    | none => pure none
    | some preferences => statedStyle world preferences
  let behaviour ← ofEvents world config config.now events
  pure (Vector.blend blendShare stated behaviour, preferences)

/-- A profile is found out first and then kept. -/
theorem Profile.computeStyle_eq {σ : Type} (world : Collaborators σ) (config : Config)
    (userId : String) :
    computeStyle world config userId = (do
      let (style, preferences) ← findings world config userId
      Call.ofState (keep world config userId style (preferences.bind statedFit)
        (preferences.bind (·.bodyFit.head?)))
      pure style) := by
  simp only [findings, bind_assoc, pure_bind]
  rfl

/-- A fit is known of a user exactly if there are measurements. -/
theorem Profile.statedFit_ne_none_iff {preferences : Preferences} :
    Profile.statedFit preferences ≠ none ↔ preferences.measurements ≠ [] := by
  unfold Profile.statedFit
  split <;> simp_all

/-- A call that may be interrupted gives its answers, or the fallback if it is interrupted. -/
theorem Call.interrupted_leaves {σ α : Type} {safe : σ → Prop} {call : Call σ α} {post : α → Prop}
    (ends : Ends safe call post fun _ => True) (down : Option Fault) {fallback : α}
    (holds : post fallback) :
    Leaves safe ((call.interrupted fun _ => down).orElse fallback) post := by
  cases down with
  | none => exact .orElse ends fun _ _ => holds
  | some fault =>
    have fails : Ends safe (call.interrupted fun _ => some fault) post fun _ => True :=
      fun _ kept => ⟨kept, trivial⟩
    exact .orElse fails fun _ _ => holds

end Reading

namespace Memory

variable {memory : Memory} {userId : String}

/-- A style is kept of a user: the stores give one that is not empty. -/
def KeepsStyle (memory : Memory) (userId : String) : Prop :=
  ∃ style, ((Profile.keptStyle collaborators userId).outcome memory).1 = .ok (some style) ∧
    style ≠ []

/-- What is kept of a user is the style of the record, unless that is empty. -/
theorem keptStyle_outcome (memory : Memory) (userId : String) :
    ((Profile.keptStyle collaborators userId).outcome memory).1 =
      .ok (((memory.profiles.find? userId).map (·.style)).filter (! ·.isEmpty)) := rfl

/-- A style is kept of a user exactly if the record of the user has one. -/
theorem keepsStyle_iff :
    memory.KeepsStyle userId ↔
      ∃ record, memory.profiles.find? userId = some record ∧ record.style ≠ [] := by
  unfold KeepsStyle
  rw [keptStyle_outcome]
  cases memory.profiles.find? userId with
  | none => simp
  | some record => cases filled : record.style <;> simp [filled]

/-- A question that may be interrupted leaves the stores as they are. -/
theorem ask_interrupted_leaves {α : Type} (answer : Memory → Except Fault α) (down : Option Fault)
    (fallback : α) :
    Leaves (· = memory) (((ask answer).interrupted fun _ => down).orElse fallback)
      fun _ => True := by
  have asked : Ends (· = memory) (ask answer) (fun _ => True) fun _ => True :=
    ask_ends (fun _ _ _ _ => trivial) fun _ _ _ _ => trivial
  exact Call.interrupted_leaves asked down trivial

/-- The stated preferences are those that are loaded. -/
theorem statedPreferences_leaves (memory : Memory) (embed : Embedding) (faults : ReadFaults)
    (userId : String) :
    Leaves (· = memory)
      (Profile.statedPreferences ((withEmbedding embed).failing faults) userId)
      (· = faults.loaded memory userId) := by
  have read : ∀ state, (Profile.statedPreferences ((withEmbedding embed).failing faults)
      userId).run state = (faults.loaded state userId, state) := by
    intro state
    change (((ask fun memory => .ok (memory.preferences.find? userId)).interrupted
      fun _ => faults.preferences).orElse none).run state = _
    rw [Call.orElse_run, ReadFaults.loaded]
    cases faults.preferences <;> rfl
  intro state same
  rw [read, same]
  exact ⟨rfl, rfl⟩

/-- A stated style that is found is not empty unless the service answers with an empty one. -/
theorem statedStyle_leaves (memory : Memory) (embed : Embedding) (faults : ReadFaults)
    (preferences : Preferences) :
    Leaves (· = memory) (Profile.statedStyle ((withEmbedding embed).failing faults) preferences)
      fun stated => stated = some [] → ∃ service text, embed = some service ∧
        service text = .ok (some []) := by
  unfold Profile.statedStyle
  split
  · next text service _ given =>
    obtain ⟨_, made, rfl⟩ := Option.map_eq_some_iff.mp given
    obtain ⟨answer, rfl, rfl⟩ := Option.map_eq_some_iff.mp made
    refine Call.interrupted_leaves ?_ faults.embedding (by simp)
    refine .ofExcept (fun stated embedded empty => ?_) fun _ _ => trivial
    exact ⟨answer, text, rfl, empty ▸ embedded⟩
  · exact .pure (by simp)

/-- Finding out a profile leaves the stores as they are, whichever reads fail. The preferences are
those that are loaded, and a style that is found is not empty unless vectors have no entries at all
or the service answers with an empty one. -/
theorem findings_ends (memory : Memory) (embed : Embedding) (faults : ReadFaults)
    (config : Profile.Config) (userId : String) :
    Ends (· = memory)
      (Profile.findings ((withEmbedding embed).failing faults) config userId)
      (fun found => found.2 = faults.loaded memory userId ∧
        (found.1 = some [] → config.dim = 0 ∨
          ∃ service text, embed = some service ∧ service text = .ok (some [])))
      fun _ => True := by
  refine (Ends.ofState (ask_interrupted_leaves _ faults.events [])).bind fun events _ => ?_
  refine (Ends.ofState (statedPreferences_leaves memory embed faults userId)).bind ?_
  rintro preferences rfl
  refine (Ends.ofState (?stated : Leaves _ _ fun stated => stated = some [] → ∃ service text,
    embed = some service ∧ service text = .ok (some []))).bind fun stated answered => ?_
  case stated =>
    cases faults.loaded memory userId with
    | none => exact .pure (by simp)
    | some preferences => exact statedStyle_leaves memory embed faults preferences
  -- Of what events tell only the length is known: it is the set one.
  have directs : Ends (· = memory)
      (Profile.ofEvents ((withEmbedding embed).failing faults) config config.now events)
      (fun behaviour => behaviour = some [] → config.dim = 0) fun _ => True := by
    refine Profile.ofEvents_ends (fun key => ask_interrupted_leaves _ (faults.item key) none)
      (by simp) ?_
    rintro styles _ directs rfl
    exact (Pooling.length_of_direction directs).symm
  refine directs.bind fun behaviour directed => .pure ⟨rfl, fun empty => ?_⟩
  exact (Vector.empty_of_blend empty).symm.imp directed answered

/-- A profile is stored in place of the one before, unless it has neither a style nor a fit. -/
theorem keep_run (embed : Embedding) (faults : ReadFaults) (config : Profile.Config)
    (style fit : Option (List Float)) (kind : Option String) :
    (Profile.keep ((withEmbedding embed).failing faults) config userId style fit kind).run memory =
      ((), if style.isNone && fit.isNone then memory else { memory with
        profiles := memory.profiles.put userId (Profile.toRecord config userId style fit kind) }) := by
  unfold Profile.keep
  split <;> rfl

/-- After a profile was kept there is a style exactly if it has one, or has neither a style nor a
fit and there was a style before. -/
theorem keepsStyle_keep_iff (kept : memory.KeepsStyle userId) (embed : Embedding)
    (faults : ReadFaults) (config : Profile.Config) (style fit : Option (List Float))
    (kind : Option String) :
    ((Profile.keep ((withEmbedding embed).failing faults) config userId style fit kind).run
        memory).2.KeepsStyle userId ↔ ¬ (style = some [] ∨ style = none ∧ fit ≠ none) := by
  rw [keep_run]
  have stored : KeepsStyle { memory with
      profiles := memory.profiles.put userId (Profile.toRecord config userId style fit kind) }
      userId ↔ style.getD [] ≠ [] := by
    rw [keepsStyle_iff, Table.find?_put, if_pos rfl]
    simp [Profile.toRecord]
  cases style with
  | none => cases fit <;> simp [kept, stored]
  | some vector => simp [stored]

/-- Whichever reads fail while a profile is computed, a style that was kept of the user is still
there afterwards, or another one in its place, unless the computation gives an empty vector, or
none at all although the preferences that were loaded have measurements. A vector is empty only if
no vector has an entry or the service answers with an empty one. -/
theorem style_survives_iff (kept : memory.KeepsStyle userId) (embed : Embedding)
    (faults : ReadFaults) (config : Profile.Config) :
    let run := (Profile.computeStyle ((withEmbedding embed).failing faults) config
      userId).outcome memory
    (run.2.KeepsStyle userId ↔ ¬ (run.1 = .ok (some []) ∨ run.1 = .ok none ∧
      ∃ preferences, faults.loaded memory userId = some preferences ∧
        preferences.measurements ≠ [])) ∧
    (run.1 = .ok (some []) → config.dim = 0 ∨
      ∃ service text, embed = some service ∧ service text = .ok (some [])) := by
  have ended := findings_ends memory embed faults config userId memory rfl
  rw [Profile.computeStyle_eq, Call.outcome_bind]
  rcases found : (Profile.findings ((withEmbedding embed).failing faults) config userId).outcome
    memory with ⟨fault | ⟨style, preferences⟩, state⟩
  · rw [found] at ended
    obtain ⟨same, -⟩ := ended
    dsimp only at same ⊢
    subst same
    simp [kept]
  · rw [found] at ended
    obtain ⟨same, loaded, answered⟩ := ended
    dsimp only at same loaded answered ⊢
    subst same loaded
    have fits : (faults.loaded state userId).bind Profile.statedFit ≠ none ↔
        ∃ preferences, faults.loaded state userId = some preferences ∧
          preferences.measurements ≠ [] := by
      cases faults.loaded state userId with
      | none => simp
      | some preferences => simp [← Profile.statedFit_ne_none_iff]
    have runs : ∀ keeping : StateM Memory Unit,
        (do Call.ofState keeping; pure style : Call Memory _).outcome state =
          (.ok style, (keeping.run state).2) := fun _ => rfl
    rw [runs]
    refine ⟨(keepsStyle_keep_iff kept embed faults config style _ _).trans ?_, fun empty => ?_⟩
    · rw [fits, Except.ok.injEq, Except.ok.injEq]
    · exact answered (Except.ok.inj empty)

section Sample

/-- A clock. -/
def sampleConfig : Profile.Config := ⟨2, ⟨63900000000000000, some 0⟩⟩

/-- Stores of a user with a measurement who has bought an item, and whose style was kept since. -/
def sampleKept : Memory where
  catalog := Catalog.ofItems [{ sampleItem "gown" "loom" true (.garment none none) with
    embeddings := some ⟨some [1.0, 0.0], none⟩ }]
  events := [⟨"ada", .purchase, [("itemId", .str "gown")], none, none, sampleConfig.now⟩]
  profiles := Table.empty.put "ada" (Profile.toRecord sampleConfig "ada" (some [1.0, 0.0]) none none)
  preferences := Table.empty.put "ada" ⟨"ada", none, [], [], [("chest", 100.0)], [], none⟩
  standings := .empty

/-- The style of the sample user is kept. -/
theorem sampleKept_keepsStyle : sampleKept.KeepsStyle "ada" :=
  keepsStyle_iff.mpr ⟨_, rfl, List.cons_ne_nil _ _⟩

/-- Without the log and the preferences nothing is found out of the user, and the style stays. -/
theorem style_survives_iff_sample :
    sampleKept.KeepsStyle "ada" ∧
      ((Profile.computeStyle ((withEmbedding none).failing ⟨some (Operation.outage .recentEvents),
        fun _ => none, some (Operation.outage .preferences), none⟩) sampleConfig "ada").outcome
          sampleKept).2.KeepsStyle "ada" := by
  refine ⟨sampleKept_keepsStyle, (style_survives_iff sampleKept_keepsStyle none _ _).1.mpr ?_⟩
  rintro (empty | ⟨-, preferences, loaded, -⟩)
  · have found := congrArg (fun answer => answer.toOption.map Option.isSome) empty
    revert found
    decide +kernel
  · cases loaded

/-- Without the log alone the fit of the user is stored without the style that was kept. -/
theorem outage_erases_style :
    sampleKept.KeepsStyle "ada" ∧
      ¬ ((Profile.computeStyle ((withEmbedding none).failing ⟨some (Operation.outage .recentEvents),
        fun _ => none, none, none⟩) sampleConfig "ada").outcome sampleKept).2.KeepsStyle "ada" := by
  refine ⟨sampleKept_keepsStyle, fun kept => ?_⟩
  obtain ⟨record, found, filled⟩ := keepsStyle_iff.mp kept
  have stored : (((Profile.computeStyle ((withEmbedding none).failing
      ⟨some (Operation.outage .recentEvents), fun _ => none, none, none⟩) sampleConfig
        "ada").outcome sampleKept).2.profiles.find? "ada").map (·.style.isEmpty) = some true := by
    decide +kernel
  rw [found] at stored
  simp [filled] at stored

end Sample

end Memory

end Storefront
