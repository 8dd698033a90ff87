import Mathlib.Data.List.Nodup
import Storefront.Proofs.Mixing.Steps
/-!
# The account of a mixed feed

What ties the streams that the mixer started with, the picks it has made and its progress
together: nothing is placed that was not picked, ids are placed once, no vendor holds more of the
head than it may, and the picks from a stream, followed by what is left of it, keep the stream's
order. Every step keeps the account, so every sequence of steps does.
-/

namespace Storefront.Mixer

/-- The id of a picked item. -/
def Pick.id (pick : Pick) : String := pick.ranked.item.id

/-- The vendor of a picked item. -/
def Pick.vendor (pick : Pick) : String := pick.ranked.item.vendor

/-- The picks that fill the head of a feed. -/
def headOf (config : MixerConfig) (picks : List Pick) : List Pick :=
  picks.take config.headSize.toNat

/-- The account of the progress of a mixer that started with some streams. -/
structure Account (config : MixerConfig) (queues : Queues) (picks : List Pick)
    (progress : Progress) : Prop where
  placed : progress.placed = (picks.map Pick.shown).reverse
  headVendors : progress.headVendors = ((headOf config picks).map Pick.vendor).reverse
  distinct : (picks.map Pick.id).Nodup
  capped : ∀ vendor,
    (((headOf config picks).map Pick.vendor).count vendor : Int) ≤ config.maxPerVendorHead
  ordered : ∀ kind, (drawn picks kind ++ progress.queues kind).Sublist (queues kind)

variable {config : MixerConfig} {queues : Queues} {picks more : List Pick}
  {progress next : Progress}

/-- A pick belongs to the head while the head is not full. -/
theorem headOf_append (config : MixerConfig) (picks : List Pick) (pick : Pick) :
    headOf config (picks ++ [pick]) =
      headOf config picks ++ if (picks.length : Int) < config.headSize then [pick] else [] := by
  unfold headOf
  rw [List.take_append]
  congr 1
  split
  · exact List.take_of_length_le (by simp; omega)
  · exact List.take_eq_nil_iff.mpr (.inl (by omega))

/-- The empty account of a mixer that has not started. -/
theorem Account.start (capNonneg : 0 ≤ config.maxPerVendorHead) (queues : Queues) :
    Account config queues [] ⟨queues, [], []⟩ where
  placed := rfl
  headVendors := by simp [headOf]
  distinct := List.nodup_nil
  capped := by simpa [headOf] using capNonneg
  ordered kind := by simp [drawn]

/-- As many items are placed as were picked. -/
theorem Account.size_eq (account : Account config queues picks progress) :
    progress.size = picks.length := by
  simp [Progress.size, account.placed]

/-- The first items placed belong to the head. -/
theorem Account.inHead_iff (account : Account config queues picks progress) :
    progress.inHead config = true ↔ (picks.length : Int) < config.headSize := by
  simp [Progress.inHead, account.size_eq]

/-- An item is placed already if its id is among the ids of the picks. -/
theorem Account.hasPlaced_iff (account : Account config queues picks progress) (ranked : Ranked) :
    progress.hasPlaced ranked = true ↔ ranked.item.id ∈ picks.map Pick.id := by
  simp [Progress.hasPlaced, account.placed, Pick.shown, Pick.id]

/-- A vendor that is not capped has room in a head that is still being filled. -/
theorem Account.room (account : Account config queues picks progress) {ranked : Ranked}
    (free : progress.isCapped config ranked = false)
    (filling : (picks.length : Int) < config.headSize) :
    (((headOf config picks).map Pick.vendor).count ranked.item.vendor : Int) <
      config.maxPerVendorHead := by
  have inHead := account.inHead_iff.mpr filling
  simp only [Progress.isCapped, inHead, Bool.true_and, decide_eq_false_iff_not] at free
  simpa [account.headVendors] using free

section Placing

variable {kind : Kind} {ranked : Ranked}
  (account : Account config queues picks progress)
  (taken : progress.passesOver config ranked = false)
include account taken

/-- An item that is not passed over has an id that is not among those of the picks. -/
theorem Account.distinct_append :
    ((picks ++ [(⟨kind, ranked⟩ : Pick)]).map Pick.id).Nodup := by
  have fresh := (Bool.or_eq_false_iff.mp taken).1
  have absent : ranked.item.id ∉ picks.map Pick.id := by
    rw [← account.hasPlaced_iff, fresh]
    exact Bool.false_ne_true
  rw [List.map_append, List.nodup_append]
  refine ⟨account.distinct, List.nodup_singleton _, ?_⟩
  intro first member second same equal
  rw [List.map_singleton, List.mem_singleton] at same
  rw [equal, same] at member
  exact absent member

/-- An item that is not passed over leaves no vendor with more places of the head than it may
hold. -/
theorem Account.capped_append (vendor : String) :
    (((headOf config (picks ++ [⟨kind, ranked⟩])).map Pick.vendor).count vendor : Int) ≤
      config.maxPerVendorHead := by
  have free := (Bool.or_eq_false_iff.mp taken).2
  rw [headOf_append]
  by_cases filling : (picks.length : Int) < config.headSize
  · rw [if_pos filling, List.map_append, List.count_append]
    by_cases own : ranked.item.vendor = vendor
    · have room := account.room free filling
      simp only [List.map_singleton, Pick.vendor, own, List.count_singleton_self] at room ⊢
      push_cast
      omega
    · have other : ([(⟨kind, ranked⟩ : Pick)].map Pick.vendor).count vendor = 0 := by
        simp [Pick.vendor, own]
      simpa only [other, Nat.add_zero] using account.capped vendor
  · simpa [filling] using account.capped vendor

omit taken in
/-- The vendors of the head are those of the picks that fill it. -/
theorem Account.headVendors_place (rest : List Ranked) :
    (progress.place config kind ranked rest).headVendors =
      ((headOf config (picks ++ [⟨kind, ranked⟩])).map Pick.vendor).reverse := by
  rw [headOf_append]
  by_cases filling : (picks.length : Int) < config.headSize
  · simp [Progress.place, account.inHead_iff.mpr filling, filling, account.headVendors,
      Pick.vendor]
  · have full : progress.inHead config = false := by
      rw [← Bool.not_eq_true, account.inHead_iff]
      exact filling
    simp [Progress.place, full, filling, account.headVendors]

end Placing

/-- Every step keeps the account. -/
theorem Account.step (account : Account config queues picks progress)
    (transition : progress.Step config more next) :
    Account config queues (picks ++ more) next := by
  refine ⟨?placed, ?headVendors, ?distinct, ?capped, ?ordered⟩
  case placed =>
    rw [transition.placed, account.placed, List.map_append, List.reverse_append]
  case ordered =>
    intro kind
    rw [drawn_append, List.append_assoc]
    exact ((transition.ordered kind).append_left _).trans (account.ordered kind)
  -- Giving a stream up makes no pick, so the ids and the head stay as they are.
  case headVendors =>
    cases transition with
    | place => exact account.headVendors_place _
    | giveUp _ => simpa [Progress.exhaust] using account.headVendors
  case distinct =>
    cases transition with
    | place _ _ taken => exact account.distinct_append taken
    | giveUp _ => simpa using account.distinct
  case capped =>
    cases transition with
    | place _ _ taken => exact account.capped_append taken
    | giveUp _ => simpa using account.capped

/-- Every sequence of steps keeps the account. -/
theorem Account.steps (account : Account config queues picks progress)
    (steps : progress.Steps config more next) : Account config queues (picks ++ more) next := by
  induction steps with
  | refl => simpa using account
  | step _ transition ih => simpa only [List.append_assoc] using ih.step transition

end Storefront.Mixer
