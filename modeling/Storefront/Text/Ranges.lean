/-!
# Classes of characters as ranges

A class is an ascending table of closed ranges of code points, and membership is found by halving
the table.
-/

namespace Storefront.Text

/-- Search an ascending table between two positions for the entry that holds `n`, where `span`
gives an entry's first and last code point. Every step at least halves the gap, so as many steps
as the table has entries are enough. -/
def findBetween {α : Type} (span : α → Nat × Nat) (table : Array α) (n : Nat) :
    Nat → Nat → Nat → Option α
  | 0, _, _ => none
  | steps + 1, low, high =>
    if low < high then
      let middle := (low + high) / 2
      match table[middle]? with
      | none => none
      | some entry =>
        if n < (span entry).1 then findBetween span table n steps low middle
        else if (span entry).2 < n then findBetween span table n steps (middle + 1) high
        else some entry
    else
      none

/-- The entry of an ascending table that holds a code point. -/
def find? {α : Type} (span : α → Nat × Nat) (table : Array α) (n : Nat) : Option α :=
  findBetween span table n table.size 0 table.size

/-- Whether a code point lies in one of the ranges. -/
def inRanges (ranges : Array (Nat × Nat)) (n : Nat) : Bool := (find? id ranges n).isSome

end Storefront.Text
