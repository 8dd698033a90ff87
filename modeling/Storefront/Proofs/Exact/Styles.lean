import Mathlib
import Storefront.Proofs.Exact.Blends
import Storefront.Proofs.Exact.Decay
/-!
# The length of style vectors

In exact arithmetic the style vector of a user is made one long as soon as an event of the user
contributes, whether the user has stated preferences or not, and it is the zero vector only if what
contributes cancels. Without such an event the stated preferences are the style as the embedding
service gives them, so the style is as long as the service makes it.
-/

namespace Storefront.Profile

variable {σ R : Type} [Analytic R]

/-- What style vectors are computed with, for scalars of any kind: the collaborators, the styles of
items, the service that embeds texts, and the store for a style and the rest of its profile. -/
structure StyleSources (σ R : Type) where
  world : Collaborators σ
  styleOf : Item → Option (List R)
  embed : Option (String → Call σ (Option (List R)))
  save : List R → ProfileRecord → Call σ Unit

/-- The material of a style vector: the recent events of a user, the stated preferences, the vector
of their text, and the items that the events name. -/
structure StyleMaterial (R : Type) where
  events : List Event
  preferences : Option Preferences
  stated : Option (List R)
  items : List (Slot × Item)

namespace StyleSources

/-- Collaborators are sources on machine floats. -/
def ofWorld (world : Collaborators σ) : StyleSources σ Float where
  world := world
  styleOf := (·.styleVector?)
  embed := world.embed
  save style record := world.saveProfile { record with style }

/-- The embedded text of stated preferences, if there is a text and a service that embeds it. -/
def statedStyle (sources : StyleSources σ R) (preferences : Preferences) :
    StateM σ (Option (List R)) :=
  match preferences.text?, sources.embed with
  | some text, some embed => (embed text).orElse none
  | _, _ => pure none

/-- The vector of what a user has stated, if the user has stated anything. -/
def stated (sources : StyleSources σ R) : Option Preferences → StateM σ (Option (List R))
  | none => pure none
  | some preferences => sources.statedStyle preferences

/-- Keep a profile, if the store can; a profile without a style and without a fit is not kept. -/
def keep (sources : StyleSources σ R) (config : Config) (userId : String) (style : Option (List R))
    (fit : Option (List Float)) (fitPreference : Option String) : StateM σ Unit :=
  if style.isNone && fit.isNone then pure ()
  else (sources.save (style.getD []) (toRecord config userId none fit fitPreference)).orElse ()

/-- Compute and keep a user's style vector. -/
def computeStyle (sources : StyleSources σ R) (config : Config) (userId : String) :
    Call σ (Option (List R)) := do
  let events ← Call.ofState (recentEvents sources.world userId eventLimit)
  let preferences ← Call.ofState (statedPreferences sources.world userId)
  let stated ← Call.ofState (sources.stated preferences)
  let behaviour ← directionOf sources.world sources.styleOf config.dim config.now events
  let style := Vector.blend 0.7 stated behaviour
  Call.ofState (sources.keep config userId style (preferences.bind statedFit)
    (preferences.bind (·.bodyFit.head?)))
  pure style

/-- Style vectors are computed on machine floats. -/
theorem computeStyle_ofWorld (world : Collaborators σ) (config : Config) (userId : String) :
    (ofWorld world).computeStyle config userId = Profile.computeStyle world config userId := by
  have stated : ∀ preferences, (ofWorld world).stated preferences =
      match preferences with
      | none => pure none
      | some preferences => Profile.statedStyle world preferences := by
    rintro (_ | preferences)
    · rfl
    · change (ofWorld world).statedStyle preferences = Profile.statedStyle world preferences
      unfold statedStyle Profile.statedStyle ofWorld
      cases preferences.text? <;> cases world.embed <;> rfl
  unfold computeStyle Profile.computeStyle
  simp only [stated]
  rfl

/-- Gather the material of a style vector; a reference that nothing can be looked up by is a
fault. -/
def gather (sources : StyleSources σ R) (userId : String) : Call σ (StyleMaterial R) := do
  let events ← Call.ofState (recentEvents sources.world userId eventLimit)
  let preferences ← Call.ofState (statedPreferences sources.world userId)
  let stated ← Call.ofState (sources.stated preferences)
  Call.ofExcept (Pooling.checkReferences (Pooling.references events))
  let items ← Call.ofState (loadItems sources.world (Pooling.itemKeys events))
  pure ⟨events, preferences, stated, items⟩

/-- Without events a direction needs no lookup to be absent. -/
theorem directionOf_eq (zero : Scalar.isZero (Scalar.zero : R) = true) (world : Collaborators σ)
    (styleOf : Item → Option (List R)) (dim : Nat) (now : Moment) (events : List Event) :
    directionOf world styleOf dim now events = (do
      Call.ofExcept (Pooling.checkReferences (Pooling.references events))
      let items ← Call.ofState (loadItems world (Pooling.itemKeys events))
      Call.ofExcept (Pooling.direction (stylesOf (items.lookup ·) styleOf) dim now events)) := by
  unfold directionOf
  split
  · next empty =>
    rw [List.isEmpty_iff.mp empty]
    have idle : (Pooling.Pool.empty dim : Pooling.Pool R).direction? = none := if_pos zero
    exact congrArg (fun answer => Call.ofExcept (.ok answer)) idle.symm
  · rfl

/-- The material is gathered first, then the direction of the events is blended with the stated
vector, and the blend is kept. -/
theorem computeStyle_eq (zero : Scalar.isZero (Scalar.zero : R) = true)
    (sources : StyleSources σ R) (config : Config) (userId : String) :
    sources.computeStyle config userId = (do
      let material ← sources.gather userId
      let behaviour ← Call.ofExcept (Pooling.direction
        (stylesOf (material.items.lookup ·) sources.styleOf) config.dim config.now material.events)
      let style := Vector.blend 0.7 material.stated behaviour
      Call.ofState (sources.keep config userId style (material.preferences.bind statedFit)
        (material.preferences.bind (·.bodyFit.head?)))
      pure style) := by
  simp only [computeStyle, gather, directionOf_eq zero, bind_assoc, pure_bind]

end StyleSources

/-- A vector is one long, or it is the zero vector. -/
def IsDirection (v : List ℝ) : Prop := Vector.norm v = 1 ∨ ∀ x ∈ v, x = 0

/-- What is made one long is one long or zero. -/
theorem isDirection_normalize (v : List ℝ) : IsDirection (Vector.normalize v) := by
  by_cases zeros : ∀ x ∈ v, x = 0
  · exact .inr (by rwa [Vector.normalize_of_zero zeros])
  · push Not at zeros
    exact .inl (Vector.norm_normalize zeros)

namespace StyleMaterial

variable (styleOf : Item → Option (List ℝ)) (config : Config) (material : StyleMaterial ℝ)

/-- What the events of the material add to a style. -/
noncomputable def shares : List (ℝ × List ℝ) :=
  Pooling.shares (stylesOf (material.items.lookup ·) styleOf) config.now material.events

/-- What contributes to a style, added up: the weighted styles of the items, and the direction of
that mixed with the stated vector if there is one. -/
noncomputable def sum : List ℝ :=
  let total := Pooling.totalOf config.dim (material.shares styleOf config)
  match material.stated with
  | none => total
  | some stated => Vector.combination 0.7 stated (Vector.normalize total)

/-- The style of the material: what contributes made one long, and without an event that contributes
the stated vector as it is. -/
noncomputable def style? : Option (List ℝ) :=
  if (material.shares styleOf config).isEmpty then material.stated
  else some (Vector.normalize (material.sum styleOf config))

/-- The direction of the events is blended with the stated vector to the style. -/
theorem blend_eq {behaviour : Option (List ℝ)}
    (directs : Pooling.direction (stylesOf (material.items.lookup ·) styleOf) config.dim config.now
      material.events = .ok behaviour) :
    Vector.blend 0.7 material.stated behaviour = material.style? styleOf config := by
  rw [Pooling.of_direction directs, ← shares, style?, sum]
  split
  · cases material.stated <;> rfl
  · cases material.stated with
    | none => rfl
    | some stated => rw [Vector.blend, Vector.mix_exact]

/-- The events of the material have shares exactly if one of them contributes. -/
theorem shares_isEmpty_iff :
    (material.shares styleOf config).isEmpty = true ↔ ¬ ∃ event ∈ material.events,
      event.Contributes (material.items.lookup ·) styleOf config.now := by
  rw [List.isEmpty_iff, shares, ← not_iff_not, not_not]
  exact Pooling.shares_ne_nil_iff

/-- The style of material is a direction if an event contributes, and else the stated vector. -/
theorem of_style? {style : List ℝ} (styled : material.style? styleOf config = some style) :
    let acts := ∃ event ∈ material.events,
      event.Contributes (material.items.lookup ·) styleOf config.now
    let sum := material.sum styleOf config
    (acts → ((∀ x ∈ sum, x = 0) → style = sum) ∧ ((∃ x ∈ sum, x ≠ 0) → Vector.norm style = 1)) ∧
    (¬ acts → material.stated = some style) ∧
    (IsDirection style ↔
      acts ∨ ∃ stated, material.stated = some stated ∧ IsDirection stated) := by
  intro acts sum
  unfold style? at styled
  split at styled
  · next empty =>
    have rests : ¬ acts := (material.shares_isEmpty_iff styleOf config).mp empty
    refine ⟨fun acting => absurd acting rests, fun _ => styled, ?_⟩
    simp only [rests, false_or, styled, Option.some.injEq, exists_eq_left']
  · next filled =>
    have acting : acts := by
      by_contra rests
      exact filled ((material.shares_isEmpty_iff styleOf config).mpr rests)
    cases styled
    refine ⟨fun _ => ⟨Vector.normalize_of_zero, Vector.norm_normalize⟩,
      fun rests => absurd acting rests, fun _ => .inl acting, fun _ => isDirection_normalize sum⟩

end StyleMaterial

section Exactly

variable (sources : StyleSources σ ℝ) (config : Config) (userId : String) (state : σ)

/-- A computation ends with a fault after it has gathered the material, or it answers the style of
the material and keeps it. -/
theorem computeStyle_cases :
    let run := (sources.computeStyle config userId).outcome state
    let found := (sources.gather userId).outcome state
    (∃ fault, run = (.error fault, found.2)) ∨
    ∃ material, found.1 = .ok material ∧
      let style := material.style? sources.styleOf config
      run = (.ok style, ((sources.keep config userId style (material.preferences.bind statedFit)
        (material.preferences.bind (·.bodyFit.head?))).run found.2).2) := by
  dsimp only
  rw [sources.computeStyle_eq (by simp), Call.outcome_bind]
  rcases (sources.gather userId).outcome state with ⟨fault | material, changed⟩
  · exact .inl ⟨fault, rfl⟩
  · dsimp only
    rw [Call.outcome_bind, Call.outcome_ofExcept]
    cases directs : Pooling.direction (stylesOf (material.items.lookup ·) sources.styleOf)
      config.dim config.now material.events with
    | error fault => exact .inl ⟨fault, rfl⟩
    | ok behaviour =>
      refine .inr ⟨material, rfl, ?_⟩
      rw [← material.blend_eq sources.styleOf config directs]
      rfl

/-- Style vectors are computed on machine floats. In exact arithmetic a style that is answered is
one long, or zero because the sum of what contributes is, as soon as an event contributes, with or
without stated preferences. Without such an event it is the vector that the service gives for the
stated preferences, so it is one long or zero exactly if that is. A style that is kept is the one
that is answered; a profile without a style is kept with an empty one, if at all, and after a fault
nothing is kept. -/
theorem style_isDirection_iff :
    let run := (sources.computeStyle config userId).outcome state
    let found := (sources.gather userId).outcome state
    let keeping (style : List ℝ) (record : ProfileRecord) :=
      (((sources.save style record).orElse ()).run found.2).2
    (∀ world : Collaborators σ, (StyleSources.ofWorld world).computeStyle config userId =
      Profile.computeStyle world config userId) ∧
    (∀ style, run.1 = .ok (some style) → ∃ material, found.1 = .ok material ∧
      (let acts := ∃ event ∈ material.events,
        event.Contributes (material.items.lookup ·) sources.styleOf config.now
      let sum := material.sum sources.styleOf config
      (acts → ((∀ x ∈ sum, x = 0) → style = sum) ∧
        ((∃ x ∈ sum, x ≠ 0) → Vector.norm style = 1)) ∧
      (¬ acts → material.stated = some style) ∧
      (IsDirection style ↔ acts ∨ ∃ stated, material.stated = some stated ∧ IsDirection stated)) ∧
      ∃ record, record.userId = userId ∧ run.2 = keeping style record) ∧
    (run.1 = .ok none → run.2 = found.2 ∨
      ∃ record, record.userId = userId ∧ run.2 = keeping [] record) ∧
    ∀ fault, run.1 = .error fault → run.2 = found.2 := by
  intro run found keeping
  refine ⟨fun world => StyleSources.computeStyle_ofWorld world config userId, ?_⟩
  rcases computeStyle_cases sources config userId state with
    ⟨fault, fails⟩ | ⟨material, gathers, ends⟩
  · simp [run, found, fails]
  · refine ⟨fun style answers => ?answered, fun answers => ?silent, fun fault fails => ?failed⟩
    case answered =>
      have styled := Except.ok.inj ((congrArg Prod.fst ends).symm.trans answers)
      refine ⟨material, gathers, material.of_style? sources.styleOf config styled,
        toRecord config userId none (material.preferences.bind statedFit)
          (material.preferences.bind (·.bodyFit.head?)), rfl, ?_⟩
      exact (congrArg Prod.snd ends).trans (by rw [styled]; rfl)
    case silent =>
      have styleless := Except.ok.inj ((congrArg Prod.fst ends).symm.trans answers)
      have kept := congrArg Prod.snd ends
      rw [styleless] at kept
      cases fits : material.preferences.bind statedFit with
      | none =>
        rw [fits] at kept
        exact .inl kept
      | some fit =>
        rw [fits] at kept
        exact .inr ⟨_, rfl, kept⟩
    case failed => cases (congrArg Prod.fst ends).symm.trans fails

end Exactly

section Sample

/-- Sources over the list of the styles that were kept, with a gown in the catalog: a user who wears
dresses, of whom some events are known, and a service that embeds all texts alike. -/
noncomputable def sampleSources (events : List Event) (stated : List ℝ) :
    StyleSources (List (List ℝ)) ℝ where
  world :=
    { listItems := fun _ => pure []
      findItem := fun key => pure (sampleGowned.catalog.itemAt? key.slot)
      addItem := fun _ => pure ()
      updateItem := fun _ _ => pure ()
      search := none
      logEvent := fun _ => pure ()
      recentEvents := fun _ _ _ => pure events
      preferences := some fun userId => pure (some ⟨userId, some "dresses", [], [], [], [], none⟩)
      embed := none
      saveProfile := fun _ => pure ()
      loadProfile := fun _ => pure none
      vendor := none }
  styleOf := sampleStyle
  embed := some fun _ => pure (some stated)
  save style _ := Call.ofState (modify (· ++ [style]))

/-- Vectors of two entries, at the present of the samples. -/
def sampleClock : Config := ⟨2, sampleNow⟩

/-- What is gathered of the sample user who bought the gown, given the vector of what is stated. -/
def sampleMaterial (stated : List ℝ) : StyleMaterial ℝ where
  events := [samplePurchase "gown"]
  preferences := some ⟨"ada", some "dresses", [], [], [], [], none⟩
  stated := some stated
  items := [(.text "gown", Memory.sampleItem "gown" "loom" true (.garment none none))]

/-- The purchase of the gown contributes. -/
theorem sampleMaterial_acts (stated : List ℝ) : ∃ event ∈ (sampleMaterial stated).events,
    event.Contributes ((sampleMaterial stated).items.lookup ·) sampleStyle sampleNow :=
  ⟨_, List.mem_singleton_self _,
    ⟨⟨"gown", _, [3, 4], rfl, rfl, rfl, List.cons_ne_nil _ _⟩, samplePurchase_weighs.ne'⟩⟩

/-- The purchase points the way of the gown, whatever it weighs. -/
theorem sampleMaterial_direction (stated : List ℝ) :
    let material := sampleMaterial stated
    Pooling.direction (stylesOf (material.items.lookup ·) sampleStyle) 2 sampleNow
      material.events = .ok (some [3 / 5, 4 / 5]) := by
  intro material
  have plain : ∀ event ∈ material.events, event.IsPlain := samplePurchase_plain
  have share : Pooling.share? (stylesOf (material.items.lookup ·) sampleStyle) sampleNow
      (samplePurchase "gown") = some ((samplePurchase "gown").weight sampleNow, [3, 4]) := by
    have styled : Pooling.styleOf? (stylesOf (material.items.lookup ·) sampleStyle)
        (samplePurchase "gown") = some [3, 4] := rfl
    simp [Pooling.share?, styled, samplePurchase_weighs.ne']
  have shares : Pooling.shares (stylesOf (material.items.lookup ·) sampleStyle) sampleNow
      material.events = [((samplePurchase "gown").weight sampleNow, [3, 4])] :=
    List.filterMap_cons_some share
  have total : Pooling.totalOf 2 [((samplePurchase "gown").weight sampleNow, [3, 4])] =
      Vector.scale ((samplePurchase "gown").weight sampleNow) ([3, 4] : List ℝ) := by
    simp [Pooling.totalOf, Vector.scale, List.range_succ]
  rw [direction_of_shares _ _ rfl plain, shares, total, Vector.normalize_scale samplePurchase_weighs,
    Vector.normalize_three_four]
  rfl

/-- The stated vector of the sample user is longer than one. With the purchase of a gown that has
the same direction it is made one long. -/
theorem style_isDirection_iff_sample :
    ((sampleSources [samplePurchase "gown"] [3, 4]).computeStyle sampleClock "ada").outcome [] =
      (.ok (some [3 / 5, 4 / 5]), [[3 / 5, 4 / 5]]) ∧
    Vector.norm ([3 / 5, 4 / 5] : List ℝ) = 1 := by
  let sources := sampleSources [samplePurchase "gown"] [3, 4]
  have gathers : (sources.gather "ada").outcome [] = (.ok (sampleMaterial [3, 4]), []) := rfl
  have blends : Vector.blend 0.7 (sampleMaterial [3, 4]).stated (some [3 / 5, 4 / 5]) =
      (some [3 / 5, 4 / 5] : Option (List ℝ)) := by
    have mixed : Vector.combination 0.7 [3, 4] [3 / 5, 4 / 5] = Vector.scale (11 / 25) [3, 4] := by
      norm_num [Vector.combination, Vector.scale, List.range_succ]
    change some (Vector.normalize (Vector.mix _ _ _)) = _
    rw [Vector.mix_exact, mixed, Vector.normalize_scale (by norm_num), Vector.normalize_three_four]
  have answers : ((sources.computeStyle sampleClock "ada").outcome []).1 =
      .ok (some [3 / 5, 4 / 5]) := by
    let material := sampleMaterial [3, 4]
    have directs : Pooling.direction (stylesOf (material.items.lookup ·) sources.styleOf)
      sampleClock.dim sampleClock.now material.events = _ := sampleMaterial_direction [3, 4]
    rw [sources.computeStyle_eq (by simp), Call.outcome_bind, gathers]
    dsimp only
    rw [Call.outcome_bind, Call.outcome_ofExcept, directs]
    exact congrArg Except.ok blends
  obtain ⟨-, answered, -⟩ := style_isDirection_iff sources sampleClock "ada" []
  obtain ⟨material, found, ⟨-, -, directed⟩, record, -, kept⟩ := answered _ answers
  cases Except.ok.inj found
  refine ⟨Prod.ext answers kept, (directed.mpr (.inl (sampleMaterial_acts _))).resolve_right ?_⟩
  intro zeros
  have first := zeros (3 / 5) List.mem_cons_self
  norm_num at first

/-- Without a purchase the stated vector is the style as it is, five long, and it is kept so. -/
theorem stated_style_stays_long :
    ((sampleSources [] [3, 4]).computeStyle sampleClock "ada").outcome [] =
      (.ok (some [3, 4]), [[3, 4]]) ∧
    Vector.norm ([3, 4] : List ℝ) = 5 ∧ ¬ IsDirection [3, 4] := by
  refine ⟨rfl, Vector.norm_three_four, ?_⟩
  rintro (long | zeros)
  · rw [Vector.norm_three_four] at long
    norm_num at long
  · exact three_ne_zero (zeros 3 List.mem_cons_self)

end Sample

end Storefront.Profile
