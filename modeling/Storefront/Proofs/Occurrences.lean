import Mathlib.Data.List.Induction
import Storefront.Proofs.Merging
import Storefront.Proofs.Stores
/-!
# First occurrences in merged batches

Batches of items are merged by ids. What is kept are the items at whose place in the batches, read
one after the other, an id occurs for the first time. This is what filling a table item by item
gives, batch after batch, if an id that is there already keeps its item. It follows that only the
order of all items counts and not where a batch ends, and that batches may be merged beforehand, on
either side, without a difference to the whole.
-/

namespace Storefront

namespace Sequence

variable {α κ : Type} [BEq κ]

/-- The elements at the places of a list in front of which their key does not occur. -/
def firstOccurrences (key : α → κ) (xs : List α) : List α :=
  (xs.zipIdx.filter fun entry =>
    !((xs.take entry.2).map key).contains (key entry.1)).map Prod.fst

/-- One more element is a first occurrence if its key does not occur before it. -/
theorem firstOccurrences_concat (key : α → κ) (xs : List α) (x : α) :
    firstOccurrences key (xs ++ [x]) =
      if (xs.map key).contains (key x) then firstOccurrences key xs
      else firstOccurrences key xs ++ [x] := by
  have before : (xs.zipIdx.filter fun entry =>
      !(((xs ++ [x]).take entry.2).map key).contains (key entry.1)) =
        xs.zipIdx.filter fun entry =>
          !((xs.take entry.2).map key).contains (key entry.1) := by
    refine List.filter_congr fun entry member => ?_
    have within : entry.2 ≤ xs.length := by
      have place := List.snd_lt_of_mem_zipIdx member
      omega
    rw [List.take_append_of_le_length within]
  rw [firstOccurrences, List.zipIdx_append, List.filter_append, before, List.map_append,
    ← firstOccurrences, Nat.zero_add, List.zipIdx_singleton, List.filter_singleton,
    List.take_left]
  cases (xs.map key).contains (key x) <;> simp

variable [LawfulBEq κ]

/-- One more element is kept behind the others if its key does not occur before it. -/
theorem firstsBy_concat (key : α → κ) (xs : List α) (x : α) :
    firstsBy key (xs ++ [x]) =
      if (xs.map key).contains (key x) then firstsBy key xs else firstsBy key xs ++ [x] := by
  rw [firstsBy_append, List.filter_singleton]
  cases (xs.map key).contains (key x) <;> simp [firstsBy, firstsAfter]

/-- What is kept are the first occurrences. -/
theorem firstsBy_eq_firstOccurrences (key : α → κ) (xs : List α) :
    firstsBy key xs = firstOccurrences key xs := by
  induction xs using List.reverseRecOn with
  | nil => rfl
  | append_singleton xs x ih => rw [firstsBy_concat, firstOccurrences_concat, ih]

/-- A front part may be replaced by its first occurrences. -/
theorem firstsBy_append_left (key : α → κ) (xs ys : List α) :
    firstsBy key (firstsBy key xs ++ ys) = firstsBy key (xs ++ ys) := by
  have same : ∀ y, ((firstsBy key xs).map key).contains (key y) =
      (xs.map key).contains (key y) := by
    intro y
    rw [Bool.eq_iff_iff, List.contains_iff_mem, List.contains_iff_mem, mem_map_firstsBy]
  rw [firstsBy_append, firstsBy_append, firstsBy_of_nodup (firstsBy_nodup key xs)]
  simp only [same]

/-- A back part may be replaced by its first occurrences. -/
theorem firstsBy_append_right (key : α → κ) (xs ys : List α) :
    firstsBy key (xs ++ firstsBy key ys) = firstsBy key (xs ++ ys) := by
  rw [firstsBy_append, firstsBy_append,
    filter_firstsBy key (fun name => !(xs.map key).contains name),
    firstsBy_of_nodup (firstsBy_nodup key _)]

end Sequence

namespace Table

variable {α : Type}

/-- A value with a new key is stored behind the others. -/
theorem entries_put_of_new {table : Table α} {key : String} (fresh : key ∉ table.keys)
    (value : α) : (table.put key value).entries = table.entries ++ [(key, value)] := by
  have absent : ∀ entries : List (String × α), key ∉ entries.map Prod.fst →
      putEntry key value entries = entries ++ [(key, value)] := by
    intro entries fresh
    induction entries with
    | nil => rfl
    | cons entry rest ih =>
      rw [List.map_cons, List.mem_cons, not_or] at fresh
      rw [putEntry, if_neg (Ne.symm fresh.1), ih fresh.2, List.cons_append]
  exact absent table.entries fresh

end Table

namespace Retrieval

/-- Merged items with one more under its id; an id that is there already keeps its item. -/
def collect (merged : Table Item) (item : Item) : Table Item :=
  if merged.keys.contains item.id then merged else merged.put item.id item

/-- The items that are collected from several batches, batch after batch. -/
def collected (batches : List (List Item)) : Table Item :=
  batches.foldl (fun merged batch => batch.foldl collect merged) .empty

/-- Collecting batch after batch is collecting all items one after the other. -/
theorem collected_eq_flatten (batches : List (List Item)) :
    collected batches = batches.flatten.foldl collect .empty :=
  List.foldl_flatten.symm

/-- The items collected one after the other are the first ones of their ids, each under its id, in
the order in which the ids came. -/
theorem entries_collect (items : List Item) :
    (items.foldl collect .empty).entries =
      (Sequence.firstsBy (·.id) items).map fun item => (item.id, item) := by
  induction items using List.reverseRecOn with
  | nil => rfl
  | append_singleton items item ih =>
    have keys : (items.foldl collect .empty).keys =
        (Sequence.firstsBy (·.id) items).map (·.id) := by
      rw [Table.keys, ih, List.map_map]
      rfl
    have known : (items.foldl collect .empty).keys.contains item.id =
        (items.map (·.id)).contains item.id := by
      rw [keys, Bool.eq_iff_iff, List.contains_iff_mem, List.contains_iff_mem,
        Sequence.mem_map_firstsBy]
    rw [List.foldl_concat, collect, known, Sequence.firstsBy_concat]
    split
    · exact ih
    · next fresh =>
      rw [Table.entries_put_of_new (by rwa [← List.contains_iff_mem, known]), ih, List.map_append]
      rfl

/-- Merging batches gives the items that are collected from them. -/
theorem dedupe_eq_collected (batches : List (List Item)) :
    dedupe batches = (collected batches).values := by
  rw [collected_eq_flatten, Table.values, entries_collect, List.map_map]
  exact (List.map_id _).symm

/-- Some of the batches may be merged before the others. -/
theorem dedupe_absorbs (before middle after : List (List Item)) :
    dedupe (before ++ dedupe middle :: after) = dedupe (before ++ middle ++ after) := by
  have joined : (before ++ dedupe middle :: after).flatten =
      before.flatten ++ Sequence.firstsBy (·.id) middle.flatten ++ after.flatten := by
    rw [List.flatten_append, List.flatten_cons, dedupe, List.append_assoc]
  rw [dedupe, joined, ← Sequence.firstsBy_append_left, Sequence.firstsBy_append_right,
    Sequence.firstsBy_append_left, dedupe, List.flatten_append, List.flatten_append]

/-- Merged batches are the first occurrences of ids in all their items, as an ordered table collects
them. They do not depend on where the batches end; merging them again changes nothing; and of two
batches either one may be merged by itself before. -/
theorem dedupe_keeps_first (batches : List (List Item)) :
    dedupe batches = Sequence.firstOccurrences (·.id) batches.flatten ∧
    dedupe batches = (collected batches).values ∧
    (∀ others : List (List Item), others.flatten = batches.flatten →
      dedupe others = dedupe batches) ∧
    dedupe [dedupe batches] = dedupe batches ∧
    ∀ first second : List Item,
      dedupe [dedupe [first], second] = dedupe [first, second] ∧
      dedupe [first, dedupe [second]] = dedupe [first, second] := by
  refine ⟨Sequence.firstsBy_eq_firstOccurrences _ _, dedupe_eq_collected batches, ?boundaries,
    ?again, fun first second =>
      ⟨dedupe_absorbs [] [first] [second], dedupe_absorbs [first] [second] []⟩⟩
  case boundaries =>
    intro others same
    rw [dedupe_eq_collected, dedupe_eq_collected, collected_eq_flatten, same, collected_eq_flatten]
  case again =>
    have absorbed := dedupe_absorbs [] batches []
    rwa [List.nil_append, List.append_nil] at absorbed

section Sample

/-- Two batches with a shirt in each of them. -/
def sampleBatches : List (List Item) :=
  [[sampleFind "shirt" (some 0.9), sampleFind "scarf" (some 0.7)], [sampleFind "shirt" none]]

/-- The items of the batches, with the scarf in the second one. -/
def sampleOthers : List (List Item) :=
  [[sampleFind "shirt" (some 0.9)], [sampleFind "scarf" (some 0.7), sampleFind "shirt" none]]

/-- In whichever batch the scarf is, the shirt keeps its first place and its first score. -/
theorem dedupe_keeps_first_sample :
    sampleOthers.flatten = sampleBatches.flatten ∧
    dedupe sampleOthers = dedupe sampleBatches ∧
    (dedupe sampleBatches).map (fun item => (item.id, item.score)) =
      [("shirt", some 0.9), ("scarf", some 0.7)] :=
  ⟨rfl, (dedupe_keeps_first sampleBatches).2.2.1 sampleOthers rfl, by decide +kernel⟩

end Sample

end Retrieval

end Storefront
