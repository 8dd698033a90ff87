import Mathlib
import Storefront.Proofs.Exact.Scalars
import Storefront.Proofs.Feeds.Relations
/-!
# What heuristic scores are worth

Two feeds score their candidates by vendors and tags before anything is ranked. Around an item the
tags of that item are counted that are among the candidate's: a share of all its tags, whatever the
candidate repeats. For a look the tags of the candidate are counted that are among the look's, so
a tag that the candidate repeats is counted again, and the count may exceed the number of tags that
it is divided by.
-/

namespace Storefront

open Call (Leaves Ends)

namespace Companions

section Scores

variable {R : Type} [Scalar R]

/-- What a candidate is worth around a reference. -/
def affinityOf (reference candidate : Item) : R :=
  affinity (sharesVendor reference candidate) (sharedTags reference.tags candidate.tags)
    reference.tags.length

/-- What a candidate is worth for a look. -/
def harmonyOf (look : Look) (candidate : Item) : R :=
  harmony (look.vendors.contains candidate.vendor) (sharedTags candidate.tags look.tags)
    look.tags.length

/-- Only which tags a candidate has matters around a reference. -/
theorem affinityOf_congr {reference candidate : Item} {tags : List String}
    (same : ∀ tag, tag ∈ tags ↔ tag ∈ candidate.tags) :
    (affinityOf reference { candidate with tags } : R) = affinityOf reference candidate := by
  have contains : tags.contains = candidate.tags.contains := by
    funext tag
    rw [Bool.eq_iff_iff, List.contains_iff_mem, List.contains_iff_mem, same tag]
  simp only [affinityOf, sharesVendor, sharedTags, contains]

end Scores

section Counting

variable {tags others : List String}

/-- No more of some tags are shared than there are. -/
theorem sharedTags_le_length (tags others : List String) : sharedTags tags others ≤ tags.length :=
  List.length_filter_le _ _

/-- Without others nothing is shared. -/
theorem sharedTags_nil (tags : List String) : sharedTags tags [] = 0 := by simp [sharedTags]

/-- Tags of which no shared one is repeated share no more than there are others. -/
theorem sharedTags_le_of_nodup (distinct : (tags.filter others.contains).Nodup) :
    sharedTags tags others ≤ others.length := by
  apply List.Subperm.length_le
  apply distinct.subperm
  intro tag member
  exact List.contains_iff_mem.mp (List.mem_filter.mp member).2

/-- One tag more is one shared tag more if it is shared. -/
theorem sharedTags_of_perm {tag : String} {more : List String} (adds : more.Perm (tag :: tags)) :
    sharedTags more others = sharedTags tags others + if tag ∈ others then 1 else 0 := by
  unfold sharedTags
  rw [(adds.filter _).length_eq, List.filter_cons, List.contains_eq_mem]
  split <;> simp_all

end Counting

section Exact

/-- A score that lies between zero and one. -/
def Bounded (score : ℝ) : Prop := 0 ≤ score ∧ score ≤ 1

/-- Half for the vendor, and half for the share of the tags. -/
theorem affinity_exact (sameVendor : Bool) (overlap tagCount : Nat) :
    (affinity sameVendor overlap tagCount : ℝ) =
      (if sameVendor then 1 / 2 else 0) + 1 / 2 * (overlap / (max 1 tagCount : ℕ)) := by
  have divisor : (if tagCount = 0 then 1 else (tagCount : ℤ)) = (max 1 tagCount : ℕ) := by
    split <;> omega
  unfold affinity
  rw [divisor]
  simp only [Scalar.ofInt_exact, Scalar.zero_exact, Int.cast_natCast, mul_div_assoc]
  norm_num

/-- A base for the kind, more for the vendor, and more for the quotient of the counts. -/
theorem harmony_exact (knownVendor : Bool) (overlap tagCount : Nat) :
    (harmony knownVendor overlap tagCount : ℝ) =
      (if knownVendor then 7 / 10 else 3 / 10) + 3 / 10 * (overlap / tagCount) := by
  have base : (if knownVendor then (0.3 : ℝ) + 0.4 else 0.3) =
      if knownVendor then 7 / 10 else 3 / 10 := by norm_num
  have share : (0.3 : ℝ) = 3 / 10 := by norm_num
  unfold harmony
  dsimp only
  rw [base, share]
  split
  · next nothing => simp [nothing]
  · simp only [Scalar.ofInt_exact, Int.cast_natCast, mul_div_assoc]

/-- Around a reference every candidate is worth between zero and one. -/
theorem affinityOf_bounded (reference candidate : Item) :
    Bounded (affinityOf reference candidate) := by
  have share : (sharedTags reference.tags candidate.tags : ℝ) /
      (max 1 reference.tags.length : ℕ) ≤ 1 := by
    apply div_le_one_of_le₀ _ (Nat.cast_nonneg _)
    exact_mod_cast (sharedTags_le_length _ _).trans (le_max_right _ _)
  have share_nonneg : 0 ≤ (sharedTags reference.tags candidate.tags : ℝ) /
      (max 1 reference.tags.length : ℕ) := by positivity
  rw [affinityOf, affinity_exact]
  constructor
  · split <;> linarith
  · split <;> linarith

/-- The shared tags of a candidate, repetitions included, are so few beside the tags of a look that
a score has room for them: as many as these, or up to seven for three of these if no vendor is
shared. -/
def Look.HasRoomFor (look : Look) (candidate : Item) : Prop :=
  if look.vendors.contains candidate.vendor then
    sharedTags candidate.tags look.tags ≤ look.tags.length
  else 3 * sharedTags candidate.tags look.tags ≤ 7 * look.tags.length

/-- There is room for a candidate that repeats no shared tag. -/
theorem Look.hasRoomFor_of_nodup {look : Look} {candidate : Item}
    (distinct : (candidate.tags.filter look.tags.contains).Nodup) : look.HasRoomFor candidate := by
  have shared := sharedTags_le_of_nodup distinct
  unfold HasRoomFor
  split <;> omega

/-- For a look a candidate is worth between zero and one exactly if there is room for it. -/
theorem harmonyOf_bounded_iff (look : Look) (candidate : Item) :
    Bounded (harmonyOf look candidate) ↔ look.HasRoomFor candidate := by
  have share_nonneg : 0 ≤ (sharedTags candidate.tags look.tags : ℝ) / look.tags.length := by
    positivity
  unfold Look.HasRoomFor
  rw [harmonyOf, harmony_exact]
  rcases Nat.eq_zero_or_pos look.tags.length with none | some
  · have unshared : sharedTags candidate.tags look.tags = 0 := by
      rw [List.length_eq_zero_iff.mp none, sharedTags_nil]
    rw [none, unshared]
    unfold Bounded
    split <;> norm_num
  · have positive : (0 : ℝ) < look.tags.length := Nat.cast_pos.mpr some
    split
    · calc Bounded (7 / 10 + 3 / 10 * (sharedTags candidate.tags look.tags / look.tags.length))
          ↔ (sharedTags candidate.tags look.tags : ℝ) / look.tags.length ≤ 1 :=
            ⟨fun ⟨_, upper⟩ => by linarith, fun share => ⟨by linarith, by linarith⟩⟩
        _ ↔ sharedTags candidate.tags look.tags ≤ look.tags.length := by
            rw [div_le_one positive, Nat.cast_le]
    · calc Bounded (3 / 10 + 3 / 10 * (sharedTags candidate.tags look.tags / look.tags.length))
          ↔ (sharedTags candidate.tags look.tags : ℝ) / look.tags.length ≤ 7 / 3 :=
            ⟨fun ⟨_, upper⟩ => by linarith, fun share => ⟨by linarith, by linarith⟩⟩
        _ ↔ (3 * sharedTags candidate.tags look.tags : ℝ) ≤ 7 * look.tags.length := by
            rw [div_le_div_iff₀ positive three_pos, mul_comm]
        _ ↔ 3 * sharedTags candidate.tags look.tags ≤ 7 * look.tags.length := by norm_cast

/-- For a look one tag more leaves the worth of a candidate as it is exactly if the look does not
have it. -/
theorem harmonyOf_eq_iff {look : Look} {candidate : Item} {tag : String} {more : List String}
    (adds : more.Perm (tag :: candidate.tags)) :
    (harmonyOf look { candidate with tags := more } : ℝ) = harmonyOf look candidate ↔
      tag ∉ look.tags := by
  simp only [harmonyOf, harmony_exact, sharedTags_of_perm adds]
  by_cases shared : tag ∈ look.tags
  · have positive : (0 : ℝ) < look.tags.length :=
      Nat.cast_pos.mpr (List.length_pos_of_mem shared)
    have grows : (sharedTags candidate.tags look.tags : ℝ) / look.tags.length <
        ((sharedTags candidate.tags look.tags + 1 : ℕ) : ℝ) / look.tags.length :=
      div_lt_div_of_pos_right (Nat.cast_lt.mpr (Nat.lt_succ_self _)) positive
    simp only [shared, if_true, not_true_eq_false, iff_false]
    intro same
    linarith
  · simp [shared]

end Exact

section Feeds

variable {reference : Item} {id : String} {items : List Item} {entry : Float × Item}

/-- What is scored around a reference is an item of the list, with what it is worth. -/
theorem scored_of_mem_around (member : entry ∈ around reference id items) :
    entry.2 ∈ items ∧ entry.1 = affinityOf reference entry.2 := by
  refine ⟨(mem_around member).1, ?_⟩
  obtain ⟨candidate, -, scores⟩ := List.mem_filterMap.mp member
  split at scores
  · cases scores
  · obtain ⟨score, known, rfl⟩ := Option.map_eq_some_iff.mp scores
    unfold affinityTo at known
    dsimp only at known
    split at known
    · cases known
    · exact (Option.some.inj known).symm

/-- What is scored for a look is an item of the list, with what it is worth. -/
theorem scored_of_mem_completing {look : Look} (member : entry ∈ completing look items) :
    entry.2 ∈ items ∧ entry.1 = harmonyOf look entry.2 := by
  refine ⟨(mem_completing member).1, ?_⟩
  obtain ⟨candidate, -, rfl⟩ := List.mem_map.mp member
  rfl

end Feeds

end Companions

/-- The items of a feed are items of a list, with what they are worth as their scores. -/
def Feed.ScoredBy (worth : Item → Float) (items : List Item) (feed : Feed) : Prop :=
  ∀ entry ∈ feed.items, ∃ candidate ∈ items, entry.item = candidate.scored (worth candidate)

namespace Companions

variable {σ : Type} {setup : FeedSetup σ} {safe : σ → Prop} {catalog : Catalog}

/-- Around an item of the catalog items are shown with what they are worth around it. -/
theorem boughtTogether_scored (stocks : Stocks setup safe catalog) (itemId : Option String)
    (limit : Option Int) :
    Ends safe (boughtTogether setup itemId limit)
      (fun feed => ∀ reference, itemId.bind catalog.find? = some reference →
        feed.ScoredBy (affinityOf reference) catalog.values) fun _ => True := by
  refine (FeedSetup.requireText_ends "itemId" itemId fun _ _ _ => trivial).bind ?_
  rintro id ⟨rfl, -⟩
  refine (FeedSetup.requirePositive_ends "limit" limit fun _ _ _ => trivial).bind fun count _ => ?_
  refine (Ends.ofState (stocks.find id)).bind ?_
  rintro _ rfl
  rw [Option.bind_some]
  cases catalog.find? id with
  | none => exact .pure fun _ known => by cases known
  | some reference =>
    refine (Ends.ofState stocks.scan).bind ?_
    rintro _ rfl
    refine (shows_scored (stocks.gather _) FilterSpec.plain_typed
      (fun entry member => (mem_around member).1) fun stage entries shows => ?_).mono
      (fun _ shown => shown) fun _ _ => trivial
    rintro _ ⟨⟩ entry member
    obtain ⟨found, scored, same⟩ := shows entry member
    obtain ⟨held, worth⟩ := scored_of_mem_around scored
    exact ⟨found.2, held, worth ▸ same⟩

/-- For a look items are shown with what they are worth for it. -/
theorem completeLook_scored (stocks : Stocks setup safe catalog) (itemIds : List String)
    (userId : Option String) (limit : Option Int) :
    Ends safe (completeLook setup itemIds userId limit)
      (Feed.ScoredBy (harmonyOf (Look.ofIds (itemIds.filter (! ·.isEmpty)) catalog.values))
        catalog.values) fun _ => True := by
  refine (requireIds_ends itemIds fun _ _ _ => trivial).bind fun _ _ => ?_
  refine (FeedSetup.requirePositive_ends "limit" limit fun _ _ _ => trivial).bind fun count _ => ?_
  refine (Ends.ofState stocks.scan).bind ?_
  rintro _ rfl
  dsimp only
  split
  · exact .pure fun _ member => by cases member
  · refine (constraints_ends stocks.preferences userId).bind ?_
    rintro _ ⟨preferences, rfl, -⟩
    refine (shows_scored (stocks.gather _) (FilterSpec.ofUser_typed _ _ _)
      (fun entry member => (mem_completing member).1) fun stage entries shows => ?_).mono
      (fun _ shown => shown) fun _ _ => trivial
    intro entry member
    obtain ⟨found, scored, same⟩ := shows entry member
    obtain ⟨held, worth⟩ := scored_of_mem_completing scored
    exact ⟨found.2, held, worth ▸ same⟩

end Companions

namespace Memory

open Companions (Look Bounded affinityOf harmonyOf boughtTogether completeLook)

/-- The feeds around an item and for a look show items with what they are worth. In exact
arithmetic the worth around an item lies between zero and one, and it depends only on which tags a
candidate has. The worth for a look lies there exactly if there is room for the candidate, as there
is if no shared tag is repeated; and one tag more changes it exactly if the look has that tag. -/
theorem companions_bounded_iff (base : Memory) (embed : Embedding) (profile : Profile.Config)
    (mixes : Bool) (lookups : FanOut.Budget) :
    let setup := feedSetup embed profile mixes lookups
    (∀ itemId limit feed, ((boughtTogether setup itemId limit).outcome base).1 = .ok feed →
      ∀ reference, itemId.bind base.catalog.find? = some reference →
        feed.ScoredBy (affinityOf reference) base.catalog.values) ∧
    (∀ itemIds userId limit feed,
      ((completeLook setup itemIds userId limit).outcome base).1 = .ok feed →
        feed.ScoredBy (harmonyOf (Look.ofIds (itemIds.filter (! ·.isEmpty)) base.catalog.values))
          base.catalog.values) ∧
    (∀ reference candidate : Item,
      Bounded (affinityOf reference candidate) ∧
      ∀ tags, (∀ tag, tag ∈ tags ↔ tag ∈ candidate.tags) →
        (affinityOf reference { candidate with tags } : ℝ) = affinityOf reference candidate) ∧
    ∀ (look : Look) (candidate : Item),
      (Bounded (harmonyOf look candidate) ↔ look.HasRoomFor candidate) ∧
      ((candidate.tags.filter look.tags.contains).Nodup → look.HasRoomFor candidate) ∧
      ∀ tag more, more.Perm (tag :: candidate.tags) →
        ((harmonyOf look { candidate with tags := more } : ℝ) = harmonyOf look candidate ↔
          tag ∉ look.tags) := by
  intro setup
  have stocks := base.stocks embed profile mixes lookups
  have agrees := Agrees.refl base
  refine ⟨?_, ?_, ?_, ?_⟩
  · intro itemId limit feed answers
    exact ((Companions.boughtTogether_scored stocks itemId limit).answers agrees
      (fun _ _ => not_false) fun _ scored => scored).each feed answers
  · intro itemIds userId limit feed answers
    exact ((Companions.completeLook_scored stocks itemIds userId limit).answers agrees
      (fun _ _ => not_false) fun _ scored => scored).each feed answers
  · intro reference candidate
    exact ⟨Companions.affinityOf_bounded reference candidate,
      fun _ same => Companions.affinityOf_congr same⟩
  · intro look candidate
    exact ⟨Companions.harmonyOf_bounded_iff look candidate, Look.hasRoomFor_of_nodup,
      fun _ _ adds => Companions.harmonyOf_eq_iff adds⟩

/-- A gown with one tag. -/
def sampleGown : Item := sampleItem "gown" "loom" true (.garment none none)

/-- A belt with some tags. -/
def sampleBelt (tags : List String) : Item :=
  { sampleItem "belt" "tannery" true (.accessory none) with tags }

/-- Stores with the gown and a belt. -/
def sampleTagged (tags : List String) : Memory := ofParts [sampleGown, sampleBelt tags] [] []

/-- The belt has the tag of the gown once: there is room for it, a second time changes nothing
around the gown, and it changes what the belt is worth for the look of the gown. -/
theorem companions_bounded_iff_sample :
    (∃ feed, ((boughtTogether sampleSetup (some "gown") (some 2)).outcome
        (sampleTagged ["linen"])).1 = .ok feed ∧ feed.items.map (·.item.id) = ["belt"] ∧
      feed.ScoredBy (affinityOf sampleGown) [sampleGown, sampleBelt ["linen"]]) ∧
    (∃ feed, ((completeLook sampleSetup ["gown"] none (some 2)).outcome
        (sampleTagged ["linen"])).1 = .ok feed ∧ feed.items.map (·.item.id) = ["belt"] ∧
      feed.ScoredBy (harmonyOf ⟨["gown"], [sampleGown]⟩) [sampleGown, sampleBelt ["linen"]]) ∧
    (affinityOf sampleGown (sampleBelt ["linen", "linen"]) : ℝ) =
      affinityOf sampleGown (sampleBelt ["linen"]) ∧
    Bounded (harmonyOf ⟨["gown"], [sampleGown]⟩ (sampleBelt ["linen"])) ∧
    (harmonyOf ⟨["gown"], [sampleGown]⟩ (sampleBelt ["linen", "linen"]) : ℝ) ≠
      harmonyOf ⟨["gown"], [sampleGown]⟩ (sampleBelt ["linen"]) := by
  obtain ⟨around, completing, affinity, harmony⟩ := companions_bounded_iff (sampleTagged ["linen"])
    none sampleSetup.profile true sampleLookups
  obtain ⟨bought, boughtAnswers, boughtItems⟩ := Call.ok_of_toOption_map (show
    ((boughtTogether sampleSetup (some "gown") (some 2)).outcome
      (sampleTagged ["linen"])).1.toOption.map (·.items.map (·.item.id)) = some ["belt"] by
    decide +kernel)
  obtain ⟨completed, completedAnswers, completedItems⟩ := Call.ok_of_toOption_map (show
    ((completeLook sampleSetup ["gown"] none (some 2)).outcome
      (sampleTagged ["linen"])).1.toOption.map (·.items.map (·.item.id)) = some ["belt"] by
    decide +kernel)
  obtain ⟨bounded, room, changes⟩ := harmony ⟨["gown"], [sampleGown]⟩ (sampleBelt ["linen"])
  refine ⟨⟨bought, boughtAnswers, boughtItems, ?_⟩,
    ⟨completed, completedAnswers, completedItems, ?_⟩, ?_, ?_, ?_⟩
  · exact around (some "gown") (some 2) bought boughtAnswers sampleGown rfl
  · exact completing ["gown"] none (some 2) completed completedAnswers
  · exact (affinity sampleGown (sampleBelt ["linen"])).2 ["linen", "linen"] (by simp [sampleBelt])
  · exact bounded.mpr (room (by decide))
  · exact (changes "linen" ["linen", "linen"] (List.Perm.refl _)).not.mpr (by decide)

/-- A belt that repeats the tag of the gown four times is worth more than one for its look, and the
feed shows it with that score; with the tag once it is worth less than one. -/
theorem repeated_tag_exceeds_one :
    (harmonyOf ⟨["gown"], [sampleGown]⟩ (sampleBelt ["linen", "linen", "linen", "linen"]) : ℝ) =
      3 / 2 ∧
    (harmonyOf ⟨["gown"], [sampleGown]⟩ (sampleBelt ["linen"]) : ℝ) = 3 / 5 ∧
    ((completeLook sampleSetup ["gown"] none (some 2)).outcome
      (sampleTagged ["linen", "linen", "linen", "linen"])).1.toOption.map
        (·.items.map fun entry => (entry.item.id, entry.item.score)) =
      some [("belt", some 1.5)] := by
  have stranger : (⟨["gown"], [sampleGown]⟩ : Look).vendors.contains "tannery" = false := by decide
  have worth : ∀ tags count, Companions.sharedTags tags ["linen"] = count →
      (harmonyOf ⟨["gown"], [sampleGown]⟩ (sampleBelt tags) : ℝ) =
        3 / 10 + 3 / 10 * (count / (1 : ℕ)) := by
    rintro tags _ rfl
    refine (Companions.harmony_exact _ _ _).trans ?_
    rw [show (sampleBelt tags).vendor = "tannery" from rfl, stranger]
    rfl
  refine ⟨?_, ?_, by decide +kernel⟩
  · rw [worth _ 4 (by decide)]
    norm_num
  · rw [worth _ 1 (by decide)]
    norm_num

end Memory

end Storefront
