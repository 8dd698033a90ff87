import Storefront.Feed.Stage
import Storefront.Proofs.Calls
import Storefront.Proofs.Sorting
/-!
# What explanations say

The favourite tags of a user are the tags of the user's events in lower case, the most frequent ones
first and equally frequent ones as they were first logged. An explanation goes through five rules in
a set order. Every rule that holds gives its code and the text of this code, so texts and codes
belong together one by one; no rule looks at what another one says. The items of a page are
explained by favourites that are counted once, and each one as it would be by itself.
-/

namespace Storefront

namespace Explanation

section Favourites

variable {tags : List String} {limit : Int}

/-- The tags of some events in lower case, each as often as it was logged. -/
def loggedTags (history : List Event) : List String :=
  history.flatMap fun event => event.tags.map Text.lower

/-- One tag leads another one: it was logged more often, or as often but earlier at first. -/
def Leads (tags : List String) (tag other : String) : Prop :=
  tags.count other < tags.count tag ∨
    tags.count other = tags.count tag ∧ tags.idxOf tag < tags.idxOf other

/-- All different tags, each one before those that it leads. -/
def favourites (tags : List String) : List String :=
  Sequence.descending (Sequence.ranksBelow tags.count) (Sequence.firsts tags)

/-- The favourites are the different tags. -/
theorem favourites_perm (tags : List String) : (favourites tags).Perm (Sequence.firsts tags) :=
  Sequence.descending_perm _ _

/-- No tag is a favourite twice. -/
theorem favourites_nodup (tags : List String) : (favourites tags).Nodup :=
  (favourites_perm tags).nodup_iff.mpr (Sequence.firsts_nodup tags)

/-- Every tag is a favourite. -/
theorem mem_favourites {tag : String} : tag ∈ favourites tags ↔ tag ∈ tags :=
  (favourites_perm tags).mem_iff.trans Sequence.mem_firsts

/-- There are as many favourites as different tags. -/
theorem length_favourites (tags : List String) : (favourites tags).length = tags.toFinset.card :=
  (favourites_perm tags).length_eq.trans (Sequence.distinctCount_eq_card tags)

/-- Favourites lead those that come later. -/
theorem favourites_pairwise (tags : List String) : (favourites tags).Pairwise (Leads tags) := by
  have logged := Sequence.firsts_filter_idxOf (fun _ => true) tags
  rw [List.filter_true] at logged
  exact Sequence.descending_stable logged

/-- The top tags are the first favourites. -/
theorem topTags_eq (history : List Event) (limit : Int) :
    topTags history limit = (favourites (loggedTags history)).take limit.toNat := by
  have sorted := Sequence.map_descending (fun tag => (tag, (loggedTags history).count tag))
    (fun a b => decide (a.2 < b.2)) (Sequence.firsts (loggedTags history))
  have names : ∀ xs : List String,
      (xs.map fun tag => (tag, (loggedTags history).count tag)).map Prod.fst = xs := by
    intro xs
    rw [List.map_map]
    exact List.map_id' xs
  rw [favourites, ← names (Sequence.descending _ _)]
  exact congrArg (fun sorted => (sorted.map Prod.fst).take limit.toNat) sorted.symm

/-- The first favourites lead all tags that are not among them. -/
theorem leads_of_mem_take {count : Nat} {tag omitted : String}
    (first : tag ∈ (favourites tags).take count) (logged : omitted ∈ tags)
    (others : omitted ∉ (favourites tags).take count) : Leads tags tag omitted := by
  have order := favourites_pairwise tags
  have later : omitted ∈ (favourites tags).drop count := by
    have all := mem_favourites.mpr logged
    rw [← List.take_append_drop count (favourites tags)] at all
    exact (List.mem_append.mp all).resolve_left others
  rw [← List.take_append_drop count (favourites tags), List.pairwise_append] at order
  exact order.2.2 tag first omitted later

end Favourites

section Reasons

variable (rules : Rules) (tags : List String) (ranked : Ranked)

/-- The codes of the rules, in the order in which the rules are gone through. -/
def ruleCodes : List ReasonCode :=
  [.styleMatch, .aestheticMatch, .fastDelivery, .trustedVendor, .priceFit]

/-- The condition under which an item is shown for a reason. -/
def Holds : ReasonCode → Prop
  | .styleMatch => ∃ tag ∈ ranked.item.tags, Text.lower tag ∈ tags
  | .aestheticMatch => rules.highRelevance < ranked.scoring.similarity
  | .fastDelivery => ∃ days ∈ ranked.item.leadTime?, ∃ number ∈ days.amount?,
    number.atMost rules.fastDelivery = true
  | .trustedVendor => rules.topRated < ranked.scoring.vendorQuality
  | .priceFit => ranked.scoring.pricePenalty = false ∧ 0.0 < ranked.item.price
  | _ => False

instance : DecidablePred (Holds rules tags ranked)
  | .styleMatch => inferInstanceAs (Decidable (∃ tag ∈ _, _))
  | .aestheticMatch => inferInstanceAs (Decidable (_ < _))
  | .fastDelivery => inferInstanceAs (Decidable (∃ days ∈ _, _))
  | .trustedVendor => inferInstanceAs (Decidable (_ < _))
  | .priceFit => inferInstanceAs (Decidable (_ ∧ _))
  | .newArrival | .boughtTogether | .completeLook | .vendorQuality | .productRelevance =>
    inferInstanceAs (Decidable False)

/-- The tags of an item that are among some tags in lower case. -/
def matchingTags (item : Item) : List String :=
  item.tags.filter fun tag => tags.contains (Text.lower tag)

/-- The text that names the first tags in common. -/
def interest (matching : List String) : String :=
  "Matches your interest in " ++ ", ".intercalate (Sequence.cut rules.tagsInText matching)

/-- The text for a reason. -/
def wording (item : Item) : ReasonCode → String
  | .styleMatch => interest rules (matchingTags tags item)
  | .aestheticMatch => "Highly relevant to your style"
  | .fastDelivery => "Fast Delivery"
  | .trustedVendor => "Top Rated Vendor"
  | .priceFit => "Within your budget"
  | _ => ""

/-- The reason of a rule, if its condition holds. -/
def reasonFor (code : ReasonCode) : List Reason :=
  if Holds rules tags ranked code then [⟨wording rules tags ranked.item code, code⟩] else []

/-- Tags in common are a reason. -/
theorem styleReason_eq :
    styleReason rules tags ranked.item = reasonFor rules tags ranked .styleMatch := by
  have common : Holds rules tags ranked .styleMatch ↔ matchingTags tags ranked.item ≠ [] := by
    simp [Holds, matchingTags]
  unfold styleReason
  rw [← matchingTags]
  cases found : matchingTags tags ranked.item with
  | nil =>
    have absent : ¬ Holds rules tags ranked .styleMatch := fun holds => common.mp holds found
    rw [reasonFor, if_neg absent]
  | cons tag rest =>
    have holds : Holds rules tags ranked .styleMatch :=
      common.mpr (found ▸ List.cons_ne_nil tag rest)
    have worded : wording rules tags ranked.item .styleMatch = interest rules (tag :: rest) :=
      congrArg (interest rules) found
    rw [reasonFor, if_pos holds, worded]
    rfl

/-- A short lead time is a reason, if the lead time is absent or a number. -/
theorem deliveryReason_eq
    (numeric : ∀ days, ranked.item.leadTime? = some days → days.amount?.isSome) :
    deliveryReason rules ranked.item = .ok (reasonFor rules tags ranked .fastDelivery) := by
  unfold deliveryReason reasonFor
  cases reported : ranked.item.leadTime? with
  | none =>
    have absent : ¬ Holds rules tags ranked .fastDelivery := by simp [Holds, reported]
    rw [if_neg absent]
  | some days =>
    obtain ⟨number, counts⟩ := Option.isSome_iff_exists.mp (numeric days reported)
    have short : Holds rules tags ranked .fastDelivery ↔
        number.atMost rules.fastDelivery = true := by
      simp [Holds, reported, counts]
    simp only [Json.atMost, counts, short]
    rfl

/-- A price that counts as fitting is a reason, unless the item is free of charge. -/
theorem priceReason_eq :
    priceReason ranked.scoring ranked.item = reasonFor rules tags ranked .priceFit := by
  have fits : (!ranked.scoring.pricePenalty && decide (0.0 < ranked.item.price)) = true ↔
      Holds rules tags ranked .priceFit := by
    rw [Bool.and_eq_true, Bool.not_eq_true', decide_eq_true_iff]
    rfl
  simp only [priceReason, reasonFor, fits]
  rfl

/-- An item whose lead time is absent or a number is explained by every rule that holds. -/
theorem generate_eq (numeric : ∀ days, ranked.item.leadTime? = some days → days.amount?.isSome) :
    generate rules tags ranked = .ok ⟨ruleCodes.flatMap (reasonFor rules tags ranked)⟩ := by
  rw [generate, deliveryReason_eq rules tags ranked numeric, styleReason_eq,
    priceReason_eq rules tags]
  simp only [ruleCodes, List.flatMap_cons, List.flatMap_nil, List.append_nil, List.append_assoc]
  rfl

variable {rules tags ranked}

/-- The codes of all reasons are those whose conditions hold. -/
theorem codes_flatMap (codes : List ReasonCode) :
    Explanation.codes ⟨codes.flatMap (reasonFor rules tags ranked)⟩ =
      codes.filter (Holds rules tags ranked) := by
  induction codes with
  | nil => rfl
  | cons code rest ih =>
    rw [Explanation.codes] at ih
    rw [Explanation.codes, List.flatMap_cons, List.map_append, ih, reasonFor, List.filter_cons]
    by_cases holds : Holds rules tags ranked code <;> simp [holds]

/-- The texts of all reasons are the texts for their codes. -/
theorem texts_flatMap (codes : List ReasonCode) :
    Explanation.texts ⟨codes.flatMap (reasonFor rules tags ranked)⟩ =
      (Explanation.codes ⟨codes.flatMap (reasonFor rules tags ranked)⟩).map
        (wording rules tags ranked.item) := by
  have worded : ∀ reason ∈ codes.flatMap (reasonFor rules tags ranked),
      reason.text = wording rules tags ranked.item reason.code := by
    intro reason member
    obtain ⟨code, -, given⟩ := List.mem_flatMap.mp member
    unfold reasonFor at given
    split at given
    · cases List.mem_singleton.mp given
      rfl
    · cases given
  rw [Explanation.texts, Explanation.codes, List.map_map]
  exact List.map_congr_left worded

end Reasons

end Explanation

/-- The entries of a page are explained one by one, with a first reason that all of them share. -/
theorem FeedSetup.explains_of_explainFrom {tags : List String} {shared : Option Reason}
    {position : Nat} {shown : List Ranked} {entries : List FeedItem}
    (explained : FeedSetup.explainFrom tags shared position shown = .ok entries) :
    List.Forall₂ (fun ranked entry => ∃ own, Explanation.generate .standard tags ranked = .ok own ∧
      entry.explanation = shared.elim own own.prepend) shown entries := by
  induction shown generalizing position entries with
  | nil =>
    cases explained
    exact .nil
  | cons ranked rest ih =>
    obtain ⟨own, generated, following⟩ := Call.bind_eq_ok_iff.mp explained
    obtain ⟨others, all, same⟩ := Call.bind_eq_ok_iff.mp following
    cases same
    refine .cons ⟨own, generated, ?_⟩ (ih all)
    cases shared <;> rfl

namespace Explanation

/-- The top tags of a history are different tags of its events in lower case, as many as are asked
for or as there are, each leading the later ones and those that are left out, and asking for one
more only adds one at the end. An item whose lead time is absent or a number is explained by the
rules that hold, in the set order, each with the text for its code, whether the top tags are given
or counted anew; its tags are a reason exactly if one of them is a top tag. On a page each item is
explained as it is by itself, behind what all of them share. -/
theorem reasons_of_interests (rules : Rules) (history : List Event) :
    let tags := loggedTags history
    (∀ limit : Int, 0 ≤ limit →
      let top := topTags history limit
      top.Nodup ∧ top ⊆ tags ∧ top.length = min limit.toNat tags.toFinset.card ∧
      top.Pairwise (Leads tags) ∧
      (∀ tag ∈ top, ∀ omitted ∈ tags, omitted ∉ top → Leads tags tag omitted) ∧
      top <+: topTags history (limit + 1)) ∧
    (∀ ranked : Ranked, (∀ days, ranked.item.leadTime? = some days → days.amount?.isSome) →
      let top := topTags history rules.topTags
      ∃ explanation, generateFor rules history ranked = .ok explanation ∧
        generate rules top ranked = .ok explanation ∧
        explanation.codes = ruleCodes.filter (Holds rules top ranked) ∧
        explanation.texts = explanation.codes.map (wording rules top ranked.item) ∧
        (.styleMatch ∈ explanation.codes ↔ ∃ tag ∈ ranked.item.tags, Text.lower tag ∈ top)) ∧
    ∀ shared shown entries, FeedSetup.explain history shared shown = .ok entries →
      List.Forall₂ (fun ranked entry => ∃ own, generateFor .standard history ranked = .ok own ∧
        entry.explanation = shared.elim own own.prepend) shown entries := by
  intro tags
  refine ⟨?top, ?explains, fun _ _ _ explained => FeedSetup.explains_of_explainFrom explained⟩
  case top =>
    intro limit nonneg top
    have first : top = (favourites tags).take limit.toNat := topTags_eq history limit
    have taken := List.take_sublist limit.toNat (favourites tags)
    rw [topTags_eq history (limit + 1), first, ← length_favourites]
    refine ⟨(favourites_nodup tags).sublist taken, ?_, List.length_take,
      (favourites_pairwise tags).sublist taken, ?_, ?_⟩
    · exact fun tag member => mem_favourites.mp (taken.subset member)
    · exact fun tag member omitted logged others => leads_of_mem_take member logged others
    · exact List.take_prefix_take_left (Int.toNat_le_toNat (by omega))
  case explains =>
    intro ranked numeric top
    have generated := generate_eq rules top ranked numeric
    refine ⟨_, generated, generated, codes_flatMap ruleCodes, texts_flatMap ruleCodes, ?_⟩
    rw [codes_flatMap, List.mem_filter, decide_eq_true_iff]
    exact and_iff_right List.mem_cons_self

section Sample

/-- An event with tags. -/
def sampleTagged (tags : List String) : Event :=
  ⟨"ada", .viewItem, [("tags", Json.ofTexts tags)], none, none, ⟨0, some 0⟩⟩

/-- Events with three tags, one of them twice. -/
def sampleHistory : List Event := [sampleTagged ["Wool", "linen"], sampleTagged ["Silk", "LINEN"]]

/-- A shirt that is close to what was searched for, arrives soon and costs more than the budget. -/
def sampleRanked : Ranked where
  item := ⟨"shirt", "shirt", none, 20.0, "USD", "loom", none, ["Linen", "Silk"],
    [("eta_days", .int 3)], none, none, none, none, .garment none none⟩
  finalScore := 0.5
  scoring := ⟨0.9, 0.7, 0.25, 0.5, 0.0, true⟩
  stream := none

/-- Linen is the favourite, wool was seen before silk, and the shirt is explained by its linen, its
silk, its similarity and its lead time. -/
theorem reasons_of_interests_sample :
    (0 : Int) ≤ 2 ∧ topTags sampleHistory 2 = ["linen", "wool"] ∧
    ["linen", "wool"] <+: topTags sampleHistory 3 ∧
    (∀ days, sampleRanked.item.leadTime? = some days → days.amount?.isSome) ∧
    (∃ explanation, generateFor .standard sampleHistory sampleRanked = .ok explanation ∧
      explanation.codes = [.styleMatch, .aestheticMatch, .fastDelivery] ∧
      explanation.texts = ["Matches your interest in Linen, Silk", "Highly relevant to your style",
        "Fast Delivery"]) ∧
    ∃ entries, FeedSetup.explain sampleHistory none [sampleRanked] = .ok entries ∧
      List.Forall₂ (fun ranked entry => ∃ own,
        generateFor .standard sampleHistory ranked = .ok own ∧ entry.explanation = own)
        [sampleRanked] entries := by
  have positive : (0 : Int) ≤ 2 := by decide
  have numeric : ∀ days, sampleRanked.item.leadTime? = some days → days.amount?.isSome := by
    rintro _ ⟨⟩
    rfl
  have first : topTags sampleHistory 2 = ["linen", "wool"] := by decide +kernel
  obtain ⟨tops, explains, page⟩ := reasons_of_interests .standard sampleHistory
  obtain ⟨-, -, -, -, -, grows⟩ := tops 2 positive
  obtain ⟨explanation, generated, -, codes, texts, -⟩ := explains sampleRanked numeric
  have holding : ruleCodes.filter (Holds .standard (topTags sampleHistory Rules.standard.topTags)
      sampleRanked) = [.styleMatch, .aestheticMatch, .fastDelivery] := by decide +kernel
  rw [holding] at codes
  refine ⟨positive, first, first ▸ grows, numeric, ⟨explanation, generated, codes, ?texts⟩, ?page⟩
  case texts =>
    rw [texts, codes]
    decide +kernel
  case page =>
    obtain ⟨entries, explained⟩ : ∃ entries,
        FeedSetup.explain sampleHistory none [sampleRanked] = .ok entries :=
      Call.ok_of_isSome (by decide +kernel)
    exact ⟨entries, explained, page none _ entries explained⟩

end Sample

end Explanation

end Storefront
