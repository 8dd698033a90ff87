/-!
# Order and cuts of lists

Stable sorting by a strict comparison, cutting a list at a limit that may be negative, and keeping
first occurrences. Sorting inserts each element into an already sorted list, so equal elements
keep the order in which they came.
-/

namespace Storefront.Sequence

variable {α : Type}

/-- Put an element in front of a list in descending order, behind the elements above it. -/
def insertDescending (below : α → α → Bool) (x : α) : List α → List α
  | [] => [x]
  | y :: rest => if below x y then y :: insertDescending below x rest else x :: y :: rest

/-- A list from its greatest element down; equal elements stay in order. -/
def descending (below : α → α → Bool) (xs : List α) : List α :=
  xs.foldr (insertDescending below) []

/-- A list from its least element up; equal elements stay in order. -/
def ascending (below : α → α → Bool) (xs : List α) : List α :=
  (descending below xs.reverse).reverse

/-- `insertDescending` for a comparison that may fail. -/
def insertDescendingM {m : Type → Type} [Monad m] (below : α → α → m Bool) (x : α) :
    List α → m (List α)
  | [] => pure [x]
  | y :: rest => do
    if ← below x y then
      let rest ← insertDescendingM below x rest
      pure (y :: rest)
    else
      pure (x :: y :: rest)

/-- `descending` for a comparison that may fail. -/
def descendingM {m : Type → Type} [Monad m] (below : α → α → m Bool) : List α → m (List α)
  | [] => pure []
  | x :: rest => do
    let sorted ← descendingM below rest
    insertDescendingM below x sorted

/-- `ascending` for a comparison that may fail. -/
def ascendingM {m : Type → Type} [Monad m] (below : α → α → m Bool) (xs : List α) : m (List α) := do
  let sorted ← descendingM below xs.reverse
  pure sorted.reverse

/-- The first elements up to a limit; a negative limit counts from the end instead. -/
def cut (limit : Int) (xs : List α) : List α :=
  match limit with
  | .ofNat count => xs.take count
  | .negSucc dropped => xs.take (xs.length - (dropped + 1))

/-- The first elements up to a limit, if there is one. -/
def cutAt (limit : Option Int) (xs : List α) : List α :=
  match limit with
  | none => xs
  | some limit => cut limit xs

/-- Keep the elements whose key has not been seen before them. -/
def firstsAfter {κ : Type} [BEq κ] (key : α → κ) (seen : List κ) : List α → List α
  | [] => []
  | x :: rest =>
    if seen.contains (key x) then firstsAfter key seen rest
    else x :: firstsAfter key (key x :: seen) rest

/-- The first occurrence of every key, in order. -/
def firstsBy {κ : Type} [BEq κ] (key : α → κ) (xs : List α) : List α := firstsAfter key [] xs

/-- The first occurrence of every element, in order. -/
def firsts [BEq α] (xs : List α) : List α := firstsBy id xs

/-- How many different elements a list has. -/
def distinctCount [BEq α] (xs : List α) : Nat := (firsts xs).length

end Storefront.Sequence
