import Storefront.Proofs.Conduct
/-!
# What all feeds share

Feeds run over collaborators that keep to a conduct. Each of them requires some parameters first and
refuses a request without them; each ends by explaining what was selected, and the feed of these
entries is assembled from candidates on offer.
-/

namespace Storefront

open Call (Leaves Ends IsRefusal)

variable {σ : Type} {setup : FeedSetup σ} (conduct : Conduct setup)

/-- A text parameter that is given and not blank. -/
def IsFilled (text : Option String) : Prop := ∃ given, text = some given ∧ given ≠ ""

/-- A number parameter that is given and at least one. -/
def IsPositive (value : Option Int) : Prop := ∃ given, value = some given ∧ 1 ≤ given

/-- A feed assembled from candidates that the collaborators offer. -/
def Conduct.Serves (distinct : Prop) (spec : FilterSpec) (budget : Option Float) (limit : Int)
    (feed : Feed) : Prop :=
  ∃ candidates trust, Offers conduct.offered distinct candidates ∧
    conduct.gathered candidates trust ∧ feed.Assembled candidates trust spec budget limit ∧
    candidates.length ≤ feed.trace.candidates

/-- No vendor has more than two of the first ten places of a feed. -/
def Feed.HeadCapped (feed : Feed) : Prop :=
  ∀ vendor, ((feed.items.take 10).map (·.item.vendor)).count vendor ≤ 2

/-- The constraints of a user with a budget and a deadline. -/
def FilterSpec.ofUser (budget : Option Float) (deadlineDays : Option Int)
    (preferences : Option Preferences) : FilterSpec :=
  { plain with
    maxPrice := budget
    deadlineDays
    blockedVendors := ((preferences.map (·.blockedVendors)).getD []).eraseDups }

/-- The constraints of a user have no category. -/
theorem FilterSpec.ofUser_typed (budget : Option Float) (deadlineDays : Option Int)
    (preferences : Option Preferences) : (ofUser budget deadlineDays preferences).Typed := by
  intro value category
  cases category

section Requirements

/-- A text parameter is given, or the request is refused. -/
theorem FeedSetup.requireText_ends {safe : σ → Prop} {faults : Fault → Prop} (name : String)
    (text : Option String)
    (refused : ¬ IsFilled text → ∀ fault, IsRefusal fault → faults fault) :
    Ends safe (Call.ofExcept (FeedSetup.requireText name text))
      (fun given => text = some given ∧ given ≠ "") faults := by
  unfold FeedSetup.requireText
  cases text with
  | none =>
    exact .ofExcept (by simp) fun _ refusal => refused (by simp [IsFilled]) _
      ⟨_, by cases refusal; rfl⟩
  | some given =>
    by_cases blank : given = ""
    · subst blank
      exact .ofExcept (by simp) fun _ refusal => refused (by simp [IsFilled]) _
        ⟨_, by cases refusal; rfl⟩
    · have filled : given.isEmpty = false := by simpa using blank
      simp only [filled]
      exact .ofOk ⟨given, rfl, rfl, blank⟩

/-- A number parameter is given and at least one, or the request is refused. -/
theorem FeedSetup.requirePositive_ends {safe : σ → Prop} {faults : Fault → Prop} (name : String)
    (value : Option Int)
    (refused : ¬ IsPositive value → ∀ fault, IsRefusal fault → faults fault) :
    Ends safe (Call.ofExcept (FeedSetup.requirePositive name value))
      (fun given => value = some given ∧ 1 ≤ given) faults := by
  unfold FeedSetup.requirePositive
  cases value with
  | none =>
    exact .ofExcept (by simp) fun _ refusal => refused (by simp [IsPositive]) _
      ⟨_, by cases refusal; rfl⟩
  | some given =>
    by_cases low : given < 1
    · simp only [low, if_true]
      refine .ofExcept (by simp) fun _ refusal => refused ?_ _ ⟨_, by cases refusal; rfl⟩
      rintro ⟨_, ⟨⟩, positive⟩
      omega
    · simp only [low, if_false]
      exact .ofOk ⟨given, rfl, rfl, by omega⟩

/-- A required text that is answered is the one that was given. -/
theorem FeedSetup.eq_of_requireText {name : String} {text : Option String} {given : String}
    (required : requireText name text = .ok given) : text = some given := by
  unfold requireText at required
  split at required
  · split at required
    · cases required
    · cases required
      rfl
  · cases required

/-- A required number that is answered is the one that was given, and at least one. -/
theorem FeedSetup.eq_of_requirePositive {name : String} {value : Option Int} {given : Int}
    (required : requirePositive name value = .ok given) :
    value = some given ∧ 1 ≤ given := by
  unfold requirePositive at required
  split at required
  · split at required
    · cases required
    · next notLow =>
      cases required
      exact ⟨rfl, by omega⟩
  · cases required

end Requirements

section Shared

variable {faults : Fault → Prop} {stage : Stage} {candidates : List Item} {spec : FilterSpec}
  {budget : Option Float} {limit : Int}

/-- The rows of ranked candidates on offer are usable. -/
theorem Conduct.usable_ranked {distinct : Prop}
    (offers : Offers conduct.offered distinct candidates)
    (staged : stage.Staged candidates spec budget) :
    ∀ entry ∈ stage.ranked, entry.item.raw.Usable := fun _ member =>
  conduct.usable _ (offers.each _ (staged.mem_ranked member).1)

/-- Something is selected of ranked candidates; if kinds are mixed, no vendor has more than two of
its first ten places. -/
theorem Conduct.select_ends (staged : stage.Staged candidates spec budget) (limited : 0 ≤ limit) :
    Ends conduct.safe (Call.ofExcept (setup.select stage.ranked limit))
      (fun shown => FeedSetup.Selected stage.ranked limit shown ∧
        (setup.mixes = true →
          ∀ vendor, ((shown.take 10).map (·.item.vendor)).count vendor ≤ 2)) faults := by
  obtain ⟨shown, selects, selected, capped⟩ :=
    setup.select_ok limited fun entry member => (staged.scored member).1
  exact .ofOk ⟨shown, selects, selected, capped⟩

/-- What is selected of ranked candidates on offer is explained, and any feed of these entries that
accounts for the filters is assembled from the candidates. -/
theorem Conduct.explain_ends {distinct : Prop} {shown : List Ranked}
    (offers : Offers conduct.offered distinct candidates)
    (staged : stage.Staged candidates spec budget)
    (selected : FeedSetup.Selected stage.ranked limit shown) (history : List Event)
    (shared : Option Reason) :
    Ends conduct.safe (Call.ofExcept (FeedSetup.explain history shared shown))
      (fun entries => List.Forall₂ FeedSetup.Tells shown entries ∧
        ∀ feed : Feed, feed.items = entries →
          feed.trace.filtered = stage.result.kept.length →
          feed.trace.metrics = stage.result.metrics →
          feed.Assembled candidates stage.trust spec budget limit) faults := by
  have usable : ∀ entry ∈ shown, entry.item.raw.Usable := by
    intro entry member
    obtain ⟨other, found, same, -⟩ := selected.shows entry member
    rw [same]
    exact conduct.usable_ranked offers staged other found
  obtain ⟨entries, explained, tells, positions⟩ := FeedSetup.explain_ok history shared usable
  refine .ofOk ⟨entries, explained, tells, ?_⟩
  rintro feed rfl filtered metrics
  exact FeedSetup.assembled staged selected tells positions filtered metrics

/-- The best ranked candidates are explained, and any feed of these entries that accounts for the
filters is assembled from the candidates. -/
theorem Conduct.explainBest_ends {distinct : Prop}
    (offers : Offers conduct.offered distinct candidates)
    (staged : stage.Staged candidates spec budget) (limited : 0 ≤ limit) (history : List Event)
    (shared : Option Reason) :
    Ends conduct.safe
      (Call.ofExcept (FeedSetup.explain history shared (Sequence.cut limit stage.ranked)))
      (fun entries => ∀ feed : Feed, feed.items = entries →
        feed.trace.filtered = stage.result.kept.length →
        feed.trace.metrics = stage.result.metrics →
        feed.Assembled candidates stage.trust spec budget limit) faults := by
  have selected := FeedSetup.cut_selected limited fun entry member => (staged.scored member).1
  exact (conduct.explain_ends offers staged selected history shared).mono
    (fun _ ended => ended.2) fun _ fails => fails

/-- A feed that shows what the mixer selected has a capped head. -/
theorem Feed.headCapped_of_tells {shown : List Ranked} {feed : Feed}
    (tells : List.Forall₂ FeedSetup.Tells shown feed.items)
    (capped : ∀ vendor, ((shown.take 10).map (·.item.vendor)).count vendor ≤ 2) :
    feed.HeadCapped := by
  intro vendor
  rw [List.map_take, FeedSetup.map_of_tells (·.vendor) tells, ← List.map_take]
  exact capped vendor

end Shared

end Storefront
