import Mathlib.Data.Finset.Card
import Mathlib.Data.List.Forall2
import Mathlib.Data.List.Nodup
import Mathlib.Data.List.Perm.Subperm
import Storefront.Fault
import Storefront.Sequence
/-!
# Sorted, cut and distinct lists

Sorting rearranges a list, cutting leaves a front part of it that is no longer than the limit, and
keeping first occurrences leaves every key once and loses none. Lists that are related element by
element have related elements.
-/

namespace Storefront.Sequence

variable {α κ : Type}

section Sorting

/-- Inserting an element puts it somewhere. -/
theorem insertDescending_perm (below : α → α → Bool) (x : α) (xs : List α) :
    (insertDescending below x xs).Perm (x :: xs) := by
  induction xs with
  | nil => exact .refl _
  | cons y rest ih =>
    unfold insertDescending
    split
    · exact (ih.cons y).trans (.swap x y rest)
    · exact .refl _

/-- A sorted list has the elements of the list. -/
theorem descending_perm (below : α → α → Bool) (xs : List α) :
    (descending below xs).Perm xs := by
  induction xs with
  | nil => exact .refl _
  | cons x rest ih => exact (insertDescending_perm below x _).trans (ih.cons x)

/-- Inserting by a comparison that may fail puts the element somewhere if it succeeds. -/
theorem insertDescendingM_perm {below : α → α → Except Fault Bool} {x : α} :
    ∀ {xs sorted : List α}, insertDescendingM below x xs = .ok sorted → sorted.Perm (x :: xs) := by
  intro xs
  induction xs with
  | nil =>
    intro sorted inserted
    cases inserted
    exact .refl _
  | cons y rest ih =>
    intro sorted inserted
    unfold insertDescendingM at inserted
    rcases compared : below x y with fault | lower
    · rw [compared] at inserted
      cases inserted
    · rw [compared] at inserted
      cases lower with
      | false =>
        cases inserted
        exact .refl _
      | true =>
        rcases deeper : insertDescendingM below x rest with fault | others
        · simp only [deeper] at inserted
          cases inserted
        · simp only [deeper] at inserted
          cases inserted
          exact ((ih deeper).cons y).trans (.swap x y rest)

/-- Sorting by a comparison that may fail rearranges the list if it succeeds. -/
theorem descendingM_perm {below : α → α → Except Fault Bool} :
    ∀ {xs sorted : List α}, descendingM below xs = .ok sorted → sorted.Perm xs := by
  intro xs
  induction xs with
  | nil =>
    intro sorted ordered
    cases ordered
    exact .refl _
  | cons x rest ih =>
    intro sorted ordered
    unfold descendingM at ordered
    rcases deeper : descendingM below rest with fault | others
    · rw [deeper] at ordered
      cases ordered
    · rw [deeper] at ordered
      exact (insertDescendingM_perm ordered).trans ((ih deeper).cons x)

/-- Sorting from the least element up rearranges the list as well. -/
theorem ascendingM_perm {below : α → α → Except Fault Bool} {xs sorted : List α}
    (ordered : ascendingM below xs = .ok sorted) : sorted.Perm xs := by
  unfold ascendingM at ordered
  rcases deeper : descendingM below xs.reverse with fault | others
  · rw [deeper] at ordered
    cases ordered
  · rw [deeper] at ordered
    cases ordered
    exact (List.reverse_perm others).trans ((descendingM_perm deeper).trans (List.reverse_perm xs))

end Sorting

section Cutting

/-- A cut leaves elements in order. -/
theorem cut_sublist (limit : Int) (xs : List α) : (cut limit xs).Sublist xs := by
  cases limit <;> exact List.take_sublist _ _

/-- A cut at a limit that may be missing leaves elements in order. -/
theorem cutAt_sublist (limit : Option Int) (xs : List α) : (cutAt limit xs).Sublist xs := by
  cases limit with
  | none => exact .refl _
  | some limit => exact cut_sublist limit xs

/-- A cut at a limit that is not negative is a front part. -/
theorem cut_eq_take {limit : Int} (nonneg : 0 ≤ limit) (xs : List α) :
    cut limit xs = xs.take limit.toNat := by
  cases limit with
  | ofNat count => rfl
  | negSucc dropped => exact absurd nonneg (by omega)

/-- A cut at a limit that is not negative is no longer than the limit. -/
theorem length_cut_le {limit : Int} (nonneg : 0 ≤ limit) (xs : List α) :
    ((cut limit xs).length : Int) ≤ limit := by
  rw [cut_eq_take nonneg, List.length_take]
  omega

end Cutting

section Distinct

variable [BEq κ]

/-- What is kept is in the list, in order. -/
private theorem firstsAfter_sublist (key : α → κ) (xs : List α) :
    ∀ seen : List κ, (firstsAfter key seen xs).Sublist xs := by
  induction xs with
  | nil => exact fun _ => .slnil
  | cons x rest ih =>
    intro seen
    unfold firstsAfter
    split
    · exact (ih seen).cons x
    · exact (ih _).cons_cons x

/-- First occurrences are elements of the list, in order. -/
theorem firstsBy_sublist (key : α → κ) (xs : List α) : (firstsBy key xs).Sublist xs :=
  firstsAfter_sublist key xs []

variable [LawfulBEq κ]

/-- An element whose key has been seen is not kept. -/
private theorem firstsAfter_known {key : α → κ} {seen : List κ} {x : α} (known : key x ∈ seen)
    (rest : List α) : firstsAfter key seen (x :: rest) = firstsAfter key seen rest :=
  if_pos (List.contains_iff_mem.mpr known)

/-- An element whose key has not been seen is kept. -/
private theorem firstsAfter_fresh {key : α → κ} {seen : List κ} {x : α} (fresh : key x ∉ seen)
    (rest : List α) :
    firstsAfter key seen (x :: rest) = x :: firstsAfter key (key x :: seen) rest :=
  if_neg (mt List.contains_iff_mem.mp fresh)

/-- What is kept besides the keys seen has none of them, and no key twice. -/
private theorem firstsAfter_distinct (key : α → κ) (xs : List α) :
    ∀ seen : List κ, ((firstsAfter key seen xs).map key).Nodup ∧
      ∀ name ∈ (firstsAfter key seen xs).map key, name ∉ seen := by
  induction xs with
  | nil => exact fun seen => ⟨List.nodup_nil, by simp [firstsAfter]⟩
  | cons x rest ih =>
    intro seen
    by_cases known : key x ∈ seen
    · rw [firstsAfter_known known]
      exact ih seen
    · obtain ⟨distinct, fresh⟩ := ih (key x :: seen)
      rw [firstsAfter_fresh known]
      simp only [List.map_cons, List.nodup_cons, List.forall_mem_cons]
      refine ⟨⟨fun again => fresh _ again List.mem_cons_self, distinct⟩, known, ?_⟩
      exact fun name member seenBefore => fresh name member (List.mem_cons_of_mem _ seenBefore)

/-- A key of the list is kept unless it was seen before. -/
private theorem mem_firstsAfter (key : α → κ) (xs : List α) :
    ∀ seen : List κ, ∀ x ∈ xs, key x ∈ seen ∨ key x ∈ (firstsAfter key seen xs).map key := by
  induction xs with
  | nil => simp
  | cons first rest ih =>
    intro seen x member
    by_cases known : key first ∈ seen
    · rw [firstsAfter_known known]
      rcases List.mem_cons.mp member with rfl | later
      · exact .inl known
      · exact ih seen x later
    · rw [firstsAfter_fresh known]
      rcases List.mem_cons.mp member with rfl | later
      · exact .inr (List.mem_map.mpr ⟨x, List.mem_cons_self, rfl⟩)
      · rcases ih (key first :: seen) x later with seenNow | kept
        · rcases List.mem_cons.mp seenNow with same | before
          · exact .inr (List.mem_map.mpr ⟨first, List.mem_cons_self, same.symm⟩)
          · exact .inl before
        · exact .inr (List.mem_cons_of_mem _ kept)

/-- Of the first occurrences no two have one key. -/
theorem firstsBy_nodup (key : α → κ) (xs : List α) : ((firstsBy key xs).map key).Nodup :=
  (firstsAfter_distinct key xs []).1

/-- The first occurrences of elements are different. -/
theorem firsts_nodup (xs : List κ) : (firsts xs).Nodup := by
  have distinct := firstsBy_nodup id xs
  rwa [List.map_id] at distinct

/-- What is kept besides the keys seen is what is left of the other elements when the later ones of
each key are erased. -/
private theorem firstsAfter_eq_eraseDupsBy (key : α → κ) (xs : List α) :
    ∀ seen : List κ, firstsAfter key seen xs =
      (xs.filter fun x => !seen.contains (key x)).eraseDupsBy fun x y => key x == key y := by
  induction xs with
  | nil => exact fun _ => rfl
  | cons x rest ih =>
    intro seen
    by_cases known : key x ∈ seen
    · rw [firstsAfter_known known, List.filter_cons_of_neg (by simpa), ih seen]
    · rw [firstsAfter_fresh known, List.filter_cons_of_pos (by simpa), ih,
        List.eraseDupsBy_cons, List.filter_filter]
      congr 3
      funext y
      rw [List.contains_cons]
      cases key y == key x <;> simp

/-- Keeping first occurrences is erasing the later elements of each key. -/
theorem firstsBy_eq_eraseDupsBy (key : α → κ) (xs : List α) :
    firstsBy key xs = xs.eraseDupsBy fun x y => key x == key y := by
  rw [firstsBy, firstsAfter_eq_eraseDupsBy]
  congr 1
  exact List.filter_eq_self.mpr fun _ _ => rfl

/-- The first occurrences have the keys of the list. -/
theorem mem_map_firstsBy {key : α → κ} {xs : List α} {name : κ} :
    name ∈ (firstsBy key xs).map key ↔ name ∈ xs.map key := by
  constructor
  · exact fun kept => ((firstsBy_sublist key xs).map key).subset kept
  · intro member
    obtain ⟨x, held, rfl⟩ := List.mem_map.mp member
    rcases mem_firstsAfter key xs [] x held with seen | kept
    · cases seen
    · exact kept

/-- What is kept besides the keys seen is the first element of its key. -/
private theorem find?_of_mem_firstsAfter {key : α → κ} {x : α} {xs : List α} :
    ∀ seen : List κ, x ∈ firstsAfter key seen xs →
      xs.find? (fun y => key y == key x) = some x := by
  induction xs with
  | nil => exact fun _ kept => by cases kept
  | cons first rest ih =>
    intro seen kept
    have unseen : key x ∉ seen :=
      (firstsAfter_distinct key _ seen).2 _ (List.mem_map_of_mem kept)
    by_cases known : key first ∈ seen
    · have other : key first ≠ key x := fun same => unseen (same ▸ known)
      rw [firstsAfter_known known] at kept
      rw [List.find?_cons_of_neg (by simpa using other), ih seen kept]
    · rw [firstsAfter_fresh known] at kept
      rcases List.mem_cons.mp kept with rfl | later
      · exact List.find?_cons_of_pos (beq_self_eq_true _)
      · have fresh : key x ∉ key first :: seen :=
          (firstsAfter_distinct key _ _).2 _ (List.mem_map_of_mem later)
        have other : key first ≠ key x := fun same => fresh (same ▸ List.mem_cons_self)
        rw [List.find?_cons_of_neg (by simpa using other), ih _ later]

/-- A first occurrence is the first element of its key. -/
theorem find?_of_mem_firstsBy {key : α → κ} {xs : List α} {x : α} (kept : x ∈ firstsBy key xs) :
    xs.find? (fun y => key y == key x) = some x := find?_of_mem_firstsAfter [] kept

/-- What is kept of two lists: of the second one what the first one leaves. -/
private theorem firstsAfter_append (key : α → κ) (xs ys : List α) :
    ∀ seen : List κ, firstsAfter key seen (xs ++ ys) = firstsAfter key seen xs ++
      firstsAfter key (((firstsAfter key seen xs).map key).reverse ++ seen) ys := by
  induction xs with
  | nil => exact fun _ => rfl
  | cons x rest ih =>
    intro seen
    rw [List.cons_append]
    by_cases known : key x ∈ seen
    · rw [firstsAfter_known known, firstsAfter_known known, ih]
    · rw [firstsAfter_fresh known, firstsAfter_fresh known, ih]
      simp only [List.map_cons, List.reverse_cons, List.append_assoc, List.cons_append,
        List.nil_append]

/-- The first occurrences in two lists are those in the first one, and those in the second one
without the elements that have keys of the first. -/
theorem firstsBy_append (key : α → κ) (xs ys : List α) :
    firstsBy key (xs ++ ys) =
      firstsBy key xs ++ firstsBy key (ys.filter fun y => !(xs.map key).contains (key y)) := by
  rw [firstsBy, firstsAfter_append, ← firstsBy, List.append_nil, firstsAfter_eq_eraseDupsBy,
    firstsBy_eq_eraseDupsBy key (ys.filter _)]
  congr 3
  funext y
  have same : ((firstsBy key xs).map key).contains (key y) = (xs.map key).contains (key y) := by
    rw [Bool.eq_iff_iff, List.contains_iff_mem, List.contains_iff_mem, mem_map_firstsBy]
  rw [List.contains_reverse, same]

/-- The first element is kept, and behind it the first occurrences of the other keys. -/
theorem firstsBy_cons (key : α → κ) (x : α) (xs : List α) :
    firstsBy key (x :: xs) = x :: firstsBy key (xs.filter fun y => !(key y == key x)) := by
  have single : firstsBy key [x] = [x] := rfl
  have others : ∀ y, ([x].map key).contains (key y) = (key y == key x) := by simp
  rw [← List.singleton_append, firstsBy_append, single]
  simp only [others, List.singleton_append]

/-- Elements can be picked by their keys before the first occurrences are kept, or after that. -/
theorem filter_firstsBy (key : α → κ) (picks : κ → Bool) (xs : List α) :
    (firstsBy key xs).filter (fun x => picks (key x)) =
      firstsBy key (xs.filter fun x => picks (key x)) := by
  induction length : xs.length using Nat.strong_induction_on generalizing xs with
  | _ _ ih =>
    cases xs with
    | nil => rfl
    | cons x rest =>
      have shorter : (rest.filter fun y => !(key y == key x)).length < (x :: rest).length :=
        Nat.lt_succ_of_le (List.length_filter_le _ _)
      have others := ih _ (length ▸ shorter) _ rfl
      rw [firstsBy_cons]
      cases picked : picks (key x) with
      | true =>
        rw [List.filter_cons_of_pos (by simpa using picked),
          List.filter_cons_of_pos (by simpa using picked), firstsBy_cons, others, List.filter_comm]
      | false =>
        -- No other element of the key that is passed over is picked.
        have none : (rest.filter fun y => !(key y == key x)).filter (fun y => picks (key y)) =
            rest.filter fun y => picks (key y) := by
          rw [List.filter_filter]
          refine List.filter_congr fun y _ => ?_
          cases same : key y == key x with
          | false => simp
          | true => rw [eq_of_beq same, picked, Bool.false_and]
        rw [List.filter_cons_of_neg (by simp [picked]), List.filter_cons_of_neg (by simp [picked]),
          others, none]

/-- Elements with different keys are all first occurrences. -/
theorem firstsBy_of_nodup {key : α → κ} {xs : List α} (nodup : (xs.map key).Nodup) :
    firstsBy key xs = xs := by
  rw [firstsBy_eq_eraseDupsBy]
  induction xs with
  | nil => rfl
  | cons x rest ih =>
    rw [List.map_cons, List.nodup_cons] at nodup
    have others : (rest.filter fun y => (key y == key x) = false) = rest := by
      refine List.filter_eq_self.mpr fun y member => ?_
      have other : key y ≠ key x := fun same => nodup.1 (same ▸ List.mem_map_of_mem member)
      simpa using other
    rw [List.eraseDupsBy_cons, others, ih nodup.2]

/-- Of two lists of elements with different keys the first one is kept, and of the second one the
elements whose keys are not in the first. -/
theorem firstsBy_append_of_nodup {key : α → κ} {xs ys : List α} (first : (xs.map key).Nodup)
    (second : (ys.map key).Nodup) :
    firstsBy key (xs ++ ys) = xs ++ ys.filter fun y => !(xs.map key).contains (key y) := by
  rw [firstsBy_append, firstsBy_of_nodup first,
    firstsBy_of_nodup (second.sublist (List.filter_sublist.map key))]

/-- Keeping first occurrences loses no element. -/
theorem mem_firsts {x : κ} {xs : List κ} : x ∈ firsts xs ↔ x ∈ xs := by
  have kept : x ∈ (firstsBy id xs).map id ↔ x ∈ xs.map id := mem_map_firstsBy
  rwa [List.map_id, List.map_id] at kept

/-- Of the elements that are picked, those kept besides the elements seen have the order in which
they first occur in the whole list. -/
private theorem firstsAfter_idxOf (picks : κ → Bool) (xs : List κ) :
    ∀ seen : List κ, (firstsAfter id seen (xs.filter picks)).Pairwise
      fun x y => xs.idxOf x < xs.idxOf y := by
  induction xs with
  | nil => exact fun _ => .nil
  | cons x rest ih =>
    -- Behind an element that occurs no more, every other one is one place further on.
    have onward : ∀ seen, (∀ y ∈ firstsAfter id seen (rest.filter picks), y ≠ x) →
        (firstsAfter id seen (rest.filter picks)).Pairwise
          fun y z => (x :: rest).idxOf y < (x :: rest).idxOf z := by
      intro seen others
      refine (ih seen).imp_of_mem fun {y z} first second before => ?_
      rw [List.idxOf_cons_ne _ (others y first).symm, List.idxOf_cons_ne _ (others z second).symm]
      exact Nat.succ_lt_succ before
    have unseen : ∀ seen, ∀ y ∈ firstsAfter id seen (rest.filter picks), y ∉ seen := by
      intro seen y member
      exact (firstsAfter_distinct id (rest.filter picks) seen).2 y
        (List.mem_map.mpr ⟨y, member, rfl⟩)
    intro seen
    by_cases picked : picks x = true
    · rw [List.filter_cons_of_pos picked]
      by_cases known : x ∈ seen
      · rw [firstsAfter_known (show id x ∈ seen from known)]
        exact onward seen fun y member same => unseen seen y member (same ▸ known)
      · rw [firstsAfter_fresh (show id x ∉ seen from known)]
        have others : ∀ y ∈ firstsAfter id (id x :: seen) (rest.filter picks), y ≠ x :=
          fun y member same => unseen _ y member (same ▸ List.mem_cons_self)
        refine List.pairwise_cons.mpr ⟨fun y member => ?_, onward _ others⟩
        rw [List.idxOf_cons_self, List.idxOf_cons_ne _ (others y member).symm]
        exact Nat.succ_pos _
    · rw [List.filter_cons_of_neg picked]
      refine onward seen fun y member same => picked ?_
      exact same ▸ List.of_mem_filter ((firstsAfter_sublist id _ seen).subset member)

/-- First occurrences of the elements that are picked are in the order in which they first occur. -/
theorem firsts_filter_idxOf (picks : κ → Bool) (xs : List κ) :
    (firsts (xs.filter picks)).Pairwise fun x y => xs.idxOf x < xs.idxOf y :=
  firstsAfter_idxOf picks xs []

/-- Different elements are counted one by one. -/
theorem distinctCount_of_nodup {xs : List κ} (nodup : xs.Nodup) : distinctCount xs = xs.length := by
  rw [distinctCount, firsts, firstsBy_of_nodup (by rwa [List.map_id])]

/-- The different elements of a list are as many as those of its set. -/
theorem distinctCount_eq_card [DecidableEq κ] (xs : List κ) :
    distinctCount xs = xs.toFinset.card := by
  have same : xs.toFinset = (firsts xs).toFinset := by
    ext x
    rw [List.mem_toFinset, List.mem_toFinset, mem_firsts]
  rw [same, List.toFinset_card_of_nodup (firsts_nodup xs), distinctCount]

end Distinct

/-- A list with different keys, all of which are keys of another list, is no longer than it. -/
theorem length_le_of_keys {β : Type} {key : α → κ} {other : β → κ} {xs : List α} {ys : List β}
    (distinct : (xs.map key).Nodup) (known : xs.map key ⊆ ys.map other) :
    xs.length ≤ ys.length := by
  have shorter := (List.subperm_of_subset distinct known).length_le
  rwa [List.length_map, List.length_map] at shorter

/-- Of two lists that are related element by element, every element of the second is related to one
of the first. -/
theorem exists_of_forall₂ {β : Type} {related : α → β → Prop} {xs : List α} {ys : List β}
    (all : List.Forall₂ related xs ys) : ∀ y ∈ ys, ∃ x ∈ xs, related x y := by
  induction all with
  | nil => simp
  | cons holds _ ih =>
    rw [List.forall_mem_cons]
    refine ⟨⟨_, List.mem_cons_self, holds⟩, fun y member => ?_⟩
    obtain ⟨x, found, holds⟩ := ih y member
    exact ⟨x, List.mem_cons_of_mem _ found, holds⟩

/-- What is read alike from related elements is read alike from the lists. -/
theorem map_eq_of_forall₂ {β γ : Type} {related : α → β → Prop} {first : α → γ} {second : β → γ}
    {xs : List α} {ys : List β} (all : List.Forall₂ related xs ys)
    (alike : ∀ x y, related x y → first x = second y) : xs.map first = ys.map second := by
  induction all with
  | nil => rfl
  | cons holds _ ih => rw [List.map_cons, List.map_cons, alike _ _ holds, ih]

end Storefront.Sequence
