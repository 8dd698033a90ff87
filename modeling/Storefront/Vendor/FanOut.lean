import Storefront.Collaborators
import Storefront.Feed.Filter
/-!
# Looking up vendors

The standing of every vendor in a list of candidates is looked up, a chunk of vendors at a time and
with one deadline for all. What fails, finds nothing or does not end is simply not in the result.
A lookup that does not end makes its chunk the last one. It also keeps one of the threads of the
pool, so that the lookups of a large chunk may have to wait for a thread until time is up.
-/

namespace Storefront.FanOut

variable {σ : Type}

/-- The different vendors of a list that have a name, in the order of first occurrence. -/
def distinctVendors (vendors : List String) : List String :=
  Sequence.firsts (vendors.filter (! ·.isEmpty))

/-- Cut a list into chunks of a size; `steps` bounds their number. -/
def chunksWithin {α : Type} (size : Nat) : Nat → List α → List (List α)
  | 0, _ => []
  | _, [] => []
  | steps + 1, xs => xs.take size :: chunksWithin size steps (xs.drop size)

/-- Cut a list into chunks of a size that is not zero. -/
def chunks {α : Type} (size : Nat) (xs : List α) : List (List α) := chunksWithin size xs.length xs

/-- How many threads the pool of lookups has, however many lookups a request may have in flight. -/
def poolSize : Nat := 16

/-- Look up the vendors of a chunk with some free threads, in order: the standings found, and
whether time runs out. A lookup that does not end keeps its thread; once none is left, nothing more
of the chunk is looked up. -/
def lookUpChunk (lookUp : String → StateM σ LookupOutcome) :
    Nat → List String → StateM σ (TrustMap × Bool)
  | _, [] => pure ([], false)
  | 0, _ :: _ => pure ([], true)
  | free + 1, vendor :: rest => do
    match ← lookUp vendor with
    | .found standing =>
      let (found, late) ← lookUpChunk lookUp (free + 1) rest
      pure ((vendor, standing) :: found, late)
    | .hanging =>
      let (found, _) ← lookUpChunk lookUp free rest
      pure (found, true)
    | _ => lookUpChunk lookUp (free + 1) rest

/-- Look up chunk after chunk, up to the first one that uses up the time. -/
def lookUpChunks (lookUp : String → StateM σ LookupOutcome) : List (List String) → StateM σ TrustMap
  | [] => pure []
  | chunk :: rest => do
    let (found, late) ← lookUpChunk lookUp poolSize chunk
    if late then pure found
    else
      let others ← lookUpChunks lookUp rest
      pure (found ++ others)

/-- How many lookups run at a time and whether there is any time for them. -/
structure Budget where
  maxWorkers : Int
  hasTime : Bool

/-- The size of a chunk. -/
def Budget.chunkSize (budget : Budget) : Nat := max 1 budget.maxWorkers.toNat

/-- Look up the standing of the vendors of a list. Without a service no vendor is known. -/
def gather (service : Option (String → StateM σ LookupOutcome)) (budget : Budget)
    (vendors : List String) : StateM σ TrustMap :=
  match service with
  | none => pure []
  | some lookUp =>
    if budget.hasTime then lookUpChunks lookUp (chunks budget.chunkSize (distinctVendors vendors))
    else pure []

end Storefront.FanOut
