import Mathlib.Data.List.TakeWhile
import Storefront.Feed.Mixer
/-!
# Steps of the mixer

What the mixer can do next, as a relation on its progress. It places the first item of a stream
that it does not pass over, or it finds that a stream has no such item and gives the stream up.
Every search for the next item, and the whole loop that fills the places, is a sequence of such
steps, labelled with the items placed and the streams they came from. The order in which the
streams are asked is not part of the relation.
-/

namespace Storefront

/-- A kind is found by its name and by no other one. -/
theorem Kind.ofName?_eq_some_iff {name : String} {kind : Kind} :
    ofName? name = some kind ↔ kind.name = name := by
  constructor
  · intro found
    have same : (kind.name == name) = true := by simpa using List.find?_some found
    exact beq_iff_eq.mp same
  · rintro rfl
    cases kind <;> decide

namespace Mixer

/-- An item that was placed, with the stream it was taken from. -/
structure Pick where
  source : Kind
  ranked : Ranked

/-- The item as the feed shows it: only the name of its stream is new. -/
def Pick.shown (pick : Pick) : Ranked := { pick.ranked with stream := some pick.source.stream }

/-- The items of some picks that were taken from one stream, in order. -/
def drawn (picks : List Pick) (kind : Kind) : List Ranked :=
  (picks.filter (·.source = kind)).map (·.ranked)

/-- What is drawn from a stream by more picks. -/
theorem drawn_append (picks more : List Pick) (kind : Kind) :
    drawn (picks ++ more) kind = drawn picks kind ++ drawn more kind := by
  simp [drawn]

/-- The item of a pick is drawn from the stream that it was taken from. -/
theorem mem_drawn {picks : List Pick} {pick : Pick} (picked : pick ∈ picks) :
    pick.ranked ∈ drawn picks pick.source :=
  List.mem_map.mpr ⟨pick, List.mem_filter.mpr ⟨picked, decide_eq_true rfl⟩, rfl⟩

namespace Progress

/-- One step of the mixer and the picks it makes. -/
inductive Step (config : MixerConfig) (progress : Progress) : List Pick → Progress → Prop where
  | place {kind skipped ranked rest}
      (queue : progress.queues kind = skipped ++ ranked :: rest)
      (passed : ∀ other ∈ skipped, progress.passesOver config other = true)
      (taken : progress.passesOver config ranked = false) :
      Step config progress [⟨kind, ranked⟩] (progress.place config kind ranked rest)
  | giveUp {kind}
      (passed : ∀ other ∈ progress.queues kind, progress.passesOver config other = true) :
      Step config progress [] (progress.exhaust kind)

/-- A sequence of steps and the picks made on the way, the first one first. -/
inductive Steps (config : MixerConfig) (start : Progress) : List Pick → Progress → Prop where
  | refl : Steps config start [] start
  | step {picks progress more next}
      (prior : Steps config start picks progress)
      (transition : Step config progress more next) :
      Steps config start (picks ++ more) next

variable {config : MixerConfig} {progress next final : Progress} {picks more : List Pick}

/-- One step is a sequence of steps. -/
theorem Step.steps (transition : Step config progress picks next) :
    Steps config progress picks next := by
  simpa using Steps.step .refl transition

/-- Sequences of steps can be joined; their picks are appended. -/
theorem Steps.trans (first : Steps config progress picks next)
    (second : Steps config next more final) : Steps config progress (picks ++ more) final := by
  induction second with
  | refl => simpa using first
  | step _ transition ih => rw [← List.append_assoc]; exact .step ih transition

/-- A step places its picks. -/
theorem Step.placed (transition : Step config progress picks next) :
    next.placed = (picks.map Pick.shown).reverse ++ progress.placed := by
  cases transition with
  | place => rfl
  | giveUp => rfl

/-- A sequence of steps places its picks. -/
theorem Steps.placed (steps : Steps config progress picks next) :
    next.placed = (picks.map Pick.shown).reverse ++ progress.placed := by
  induction steps with
  | refl => rfl
  | step _ transition ih =>
    rw [transition.placed, ih, List.map_append, List.reverse_append, List.append_assoc]

/-- Every pick of a sequence of steps is one item placed. -/
theorem Steps.size (steps : Steps config progress picks next) :
    next.size = progress.size + picks.length := by
  simp [Progress.size, steps.placed, Nat.add_comm]

/-- What a step draws from a stream, and then what it leaves of it, was in the stream in this
order. -/
theorem Step.ordered (transition : Step config progress picks next) (kind : Kind) :
    (drawn picks kind ++ next.queues kind).Sublist (progress.queues kind) := by
  cases transition with
  | @place source skipped ranked rest queue _ _ =>
    by_cases own : kind = source
    · subst own
      have kept : (ranked :: rest).Sublist (progress.queues kind) :=
        queue ▸ List.sublist_append_right skipped (ranked :: rest)
      simpa [drawn, Progress.place, Queues.set] using kept
    · simp [drawn, Progress.place, Queues.set, own, Ne.symm own]
  | @giveUp source _ =>
    by_cases own : kind = source <;> simp [drawn, Progress.exhaust, Queues.set, own]

/-- What a sequence of steps draws from a stream, and then what it leaves of it, was in the stream
in this order. -/
theorem Steps.ordered (steps : Steps config progress picks next) (kind : Kind) :
    (drawn picks kind ++ next.queues kind).Sublist (progress.queues kind) := by
  induction steps with
  | refl => exact .refl _
  | step _ transition ih =>
    rw [drawn_append, List.append_assoc]
    exact ((transition.ordered kind).append_left _).trans ih

/-- A stream with nothing left stays so, and nothing is taken from it any more. -/
theorem Steps.spent (steps : Steps config progress picks next) {kind : Kind}
    (empty : progress.queues kind = []) :
    next.queues kind = [] ∧ ∀ pick ∈ picks, pick.source ≠ kind := by
  have nothing := steps.ordered kind
  rw [empty, List.sublist_nil, List.append_eq_nil_iff] at nothing
  refine ⟨nothing.2, ?_⟩
  rintro pick picked rfl
  have member := mem_drawn picked
  rw [nothing.1] at member
  cases member

end Progress

section Search

variable {config : MixerConfig}

/-- Asking one stream is one step, which places an item exactly when the search says so. -/
theorem takeFrom_step (config : MixerConfig) (progress : Progress) (kind : Kind) :
    (∃ ranked next, takeFrom config progress kind = .placed next ∧
      Progress.Step config progress [⟨kind, ranked⟩] next) ∨
    (takeFrom config progress kind = .nothing (progress.exhaust kind) ∧
      Progress.Step config progress [] (progress.exhaust kind)) := by
  have parts : (progress.queues kind).takeWhile (progress.passesOver config) ++
      (progress.queues kind).dropWhile (progress.passesOver config) = progress.queues kind :=
    List.takeWhile_append_dropWhile
  have passed : ∀ other ∈ (progress.queues kind).takeWhile (progress.passesOver config),
      progress.passesOver config other = true := fun _ => List.mem_takeWhile_imp
  unfold takeFrom
  cases remaining : (progress.queues kind).dropWhile (progress.passesOver config) with
  | nil =>
    rw [remaining, List.append_nil] at parts
    exact .inr ⟨rfl, .giveUp (parts ▸ passed)⟩
  | cons ranked rest =>
    have taken : progress.passesOver config ranked = false := by
      have head := List.head?_dropWhile_not (progress.passesOver config) (progress.queues kind)
      simpa [remaining] using head
    rw [remaining] at parts
    exact .inl ⟨ranked, _, rfl, .place parts.symm passed taken⟩

/-- A search that finds nothing is a sequence of steps without a pick. -/
theorem takeFromAny_fails (names : List String) :
    ∀ progress next : Progress, takeFromAny config progress names = .ok (.nothing next) →
      progress.Steps config [] next := by
  induction names with
  | nil =>
    intro progress next found
    simp only [takeFromAny, Except.ok.injEq, Found.nothing.injEq] at found
    exact found ▸ .refl
  | cons name others ih =>
    intro progress next found
    unfold takeFromAny at found
    cases known : Kind.ofName? name with
    | none => simp [known] at found
    | some kind =>
      rcases takeFrom_step config progress kind with ⟨_, _, equal, -⟩ | ⟨equal, transition⟩
      · simp [known, equal] at found
      · simp only [known, equal] at found
        exact transition.steps.trans (ih _ next found)

/-- A search that finds an item is a sequence of steps with one pick. The streams that it asks
before the item's own have nothing to give: they are given up, and the item is from none of
them. -/
theorem takeFromAny_finds (names : List String) :
    ∀ progress next : Progress, takeFromAny config progress names = .ok (.placed next) →
      ∃ pick asked others, names = asked ++ pick.source.name :: others ∧
        progress.Steps config [pick] next ∧
        ∀ kind : Kind, kind.name ∈ asked → next.queues kind = [] ∧ pick.source ≠ kind := by
  induction names with
  | nil =>
    intro progress next found
    simp [takeFromAny] at found
  | cons name others ih =>
    intro progress next found
    unfold takeFromAny at found
    cases known : Kind.ofName? name with
    | none => simp [known] at found
    | some kind =>
      have named : kind.name = name := Kind.ofName?_eq_some_iff.mp known
      rcases takeFrom_step config progress kind with
        ⟨ranked, placed, equal, transition⟩ | ⟨equal, transition⟩
      · simp only [known, equal, Except.ok.injEq, Found.placed.injEq] at found
        subst found
        refine ⟨⟨kind, ranked⟩, [], others, ?_, transition.steps, by simp⟩
        rw [named, List.nil_append]
      · simp only [known, equal] at found
        obtain ⟨pick, asked, later, order, steps, spent⟩ := ih (progress.exhaust kind) next found
        refine ⟨pick, name :: asked, later, by rw [order, List.cons_append],
          transition.steps.trans steps, fun other member => ?_⟩
        rcases List.mem_cons.mp member with same | before
        · -- The stream that was given up just now.
          have own : other = kind :=
            Option.some.inj ((Kind.ofName?_eq_some_iff.mpr same).symm.trans known)
          have gone : (progress.exhaust kind).queues other = [] := by
            simp [own, Progress.exhaust, Queues.set]
          obtain ⟨empty, sources⟩ := steps.spent gone
          exact ⟨empty, sources pick List.mem_cons_self⟩
        · exact spent other before

/-- A search through known streams always has an answer. -/
theorem takeFromAny_total (config : MixerConfig) {names : List String}
    (known : ∀ name ∈ names, (Kind.ofName? name).isSome) :
    ∀ progress, ∃ found, takeFromAny config progress names = .ok found := by
  induction names with
  | nil => exact fun progress => ⟨_, rfl⟩
  | cons name others ih =>
    intro progress
    rw [List.forall_mem_cons] at known
    obtain ⟨kind, named⟩ := Option.isSome_iff_exists.mp known.1
    simp only [takeFromAny, named]
    split
    · exact ⟨_, rfl⟩
    · exact ih known.2 _

end Search

end Mixer

end Storefront
