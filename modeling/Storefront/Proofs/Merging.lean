import Storefront.Feed.Retrieval
import Storefront.Proofs.Calls
import Storefront.Proofs.Sequences
/-!
# How retrieval merges its two sources

A search and a catalog of any kind: either may answer with any list of items, also with one longer
than asked for or with an id several times, and either may fail. What was found comes first and wins
over the newest items. The catalog is asked only if what was found has too few different ids, and
then for twice as many items as are missing.

Nothing is said here about which items a search finds or a catalog lists.
-/

namespace Storefront

namespace Call

variable {σ α : Type}

/-- The answer of an outcome, or a fallback in place of its fault, and the state it leaves. -/
def settle (fallback : α) : Except Fault α × σ → α × σ
  | (.ok answer, after) => (answer, after)
  | (.error _, after) => (fallback, after)

/-- A call with a fallback settles its outcome. -/
theorem orElse_run_eq_settle (call : Call σ α) (fallback : α) (state : σ) :
    (call.orElse fallback).run state = settle fallback (call.outcome state) := by
  rw [orElse_run]
  rcases call.outcome state with ⟨fault | answer, after⟩ <;> rfl

end Call

namespace Retrieval

variable {σ : Type} {world : Collaborators σ} {request : Request} {state : σ}

/-- Whether two items have one id. -/
def sameId (first second : Item) : Bool := first.id == second.id

/-- What the search of a request answers, and the state it leaves. There is nothing without a
vector, without a search, or from a search that fails or runs out of time. -/
def searched (world : Collaborators σ) (request : Request) (state : σ) : List Item × σ :=
  match request.vector, world.search with
  | some vector, some search =>
    Call.settle [] ((search ⟨vector, request.index, request.limit, request.candidates,
      request.filters⟩).outcome state)
  | _, _ => ([], state)

/-- How many more different ids a request asks for than the search answers with. -/
def missing (world : Collaborators σ) (request : Request) (state : σ) : Int :=
  request.limit - (((searched world request state).1.map (·.id)).toFinset.card : Int)

/-- What the catalog answers to a request, and the state it leaves. It is asked for the newest items
if some are missing, for twice as many, and not at all otherwise. -/
def fetched (world : Collaborators σ) (request : Request) (state : σ) : List Item × σ :=
  if 0 < missing world request state then
    Call.settle [] ((world.listItems (.newest (some (2 * missing world request state)))).outcome
      (searched world request state).2)
  else ([], (searched world request state).2)

/-- The first item of every id in the search's answer, in order, and then those in the catalog's
answer whose ids the search's answer does not have. -/
def merged (world : Collaborators σ) (request : Request) (state : σ) : List Item :=
  (searched world request state).1.eraseDupsBy sameId ++
    ((fetched world request state).1.filter fun item =>
      !((searched world request state).1.map (·.id)).contains item.id).eraseDupsBy sameId

/-- The two answers are merged by dropping ids that have come before. -/
theorem dedupe_eq_merged (world : Collaborators σ) (request : Request) (state : σ) :
    dedupe [(searched world request state).1, (fetched world request state).1] =
      merged world request state := by
  rw [dedupe, List.flatten_cons, List.flatten_cons, List.flatten_nil, List.append_nil,
    Sequence.firstsBy_append, Sequence.firstsBy_eq_eraseDupsBy, Sequence.firstsBy_eq_eraseDupsBy]
  rfl

/-- A request first runs its search, which settles. -/
theorem personalized_run_eq (world : Collaborators σ) (request : Request) (state : σ) :
    (personalized world request).run state = searched world request state := by
  unfold personalized searched
  cases request.vector with
  | none => rfl
  | some vector =>
    cases world.search with
    | none => rfl
    | some search => exact Call.orElse_run_eq_settle _ _ state

/-- The newest items are fetched as said, if some are missing. -/
theorem newest_run_eq (lacks : 0 < missing world request state) :
    (newest world (2 * missing world request state)).run (searched world request state).2 =
      fetched world request state := by
  have positive : ¬ 2 * missing world request state ≤ 0 := by omega
  rw [newest, if_neg positive, fetched, if_pos lacks]
  exact Call.orElse_run_eq_settle _ _ _

/-- A request is answered with the front part of the merged answers. -/
theorem candidates_run_eq (world : Collaborators σ) (request : Request) (state : σ)
    (positive : 1 ≤ request.limit) :
    (candidates world request).run state =
      ((merged world request state).take request.limit.toNat,
        (fetched world request state).2) := by
  have distinct : (Sequence.distinctCount ((searched world request state).1.map (·.id)) : Int) =
      request.limit - missing world request state := by
    rw [Sequence.distinctCount_eq_card, missing]
    omega
  have asked : topUpLimit request.limit (searched world request state).1 =
      2 * missing world request state := by
    rw [topUpLimit, distinct]
    omega
  rw [candidates, StateT.run_bind, personalized_run_eq, ← dedupe_eq_merged,
    ← Sequence.cut_eq_take (by omega)]
  -- The search has run; what is left to run is the choice whether to ask the catalog.
  change StateT.run (if _ then _ else _) _ = _
  rw [distinct, asked]
  by_cases lacks : 0 < missing world request state
  · rw [if_pos (by omega), StateT.run_bind, newest_run_eq lacks]
    rfl
  · have nothing : fetched world request state = ([], (searched world request state).2) :=
      if_neg lacks
    rw [if_neg (by omega), nothing]
    rfl

/-- An item of the merged answers whose id the search's answer has is the first item there that has
the id. -/
theorem find?_of_mem_merged {item : Item} (member : item ∈ merged world request state)
    (found : item.id ∈ (searched world request state).1.map (·.id)) :
    (searched world request state).1.find? (sameId · item) = some item := by
  unfold merged sameId at member
  rw [← Sequence.firstsBy_eq_eraseDupsBy Item.id, ← Sequence.firstsBy_eq_eraseDupsBy Item.id]
    at member
  rcases List.mem_append.mp member with first | fresh
  · exact Sequence.find?_of_mem_firstsBy first
  · have unfound := (List.mem_filter.mp ((Sequence.firstsBy_sublist _ _).subset fresh)).2
    rw [List.contains_iff_mem.mpr found] at unfound
    cases unfound

/-- A request to any collaborators is answered with the front part of the merged answers: what the
search answered comes first, ids do not repeat, and an id of both answers keeps the item that the
search found, with its score. The state left tells that the catalog was asked exactly as said. -/
theorem candidates_merge (world : Collaborators σ) (request : Request) (state : σ)
    (positive : 1 ≤ request.limit) :
    (candidates world request).run state =
      ((merged world request state).take request.limit.toNat,
        (fetched world request state).2) ∧
    (((candidates world request).run state).1.map (·.id)).Nodup ∧
    (((candidates world request).run state).1.length : Int) ≤ request.limit ∧
    ∀ item ∈ ((candidates world request).run state).1,
      item.id ∈ (searched world request state).1.map (·.id) →
      (searched world request state).1.find? (sameId · item) = some item := by
  have answered := candidates_run_eq world request state positive
  rw [answered]
  refine ⟨rfl, ?_, ?_, fun item shown found => ?_⟩
  · rw [← dedupe_eq_merged]
    exact (Sequence.firstsBy_nodup _ _).sublist ((List.take_sublist _ _).map _)
  · have cut := List.length_take_le request.limit.toNat (merged world request state)
    show ((List.take _ _).length : Int) ≤ _
    omega
  · exact find?_of_mem_merged (List.mem_of_mem_take shown) found

section Sample

/-- A garment that a search may have found. -/
def sampleFind (id : String) (score : Option Float) : Item :=
  ⟨id, id, none, 20.0, "USD", "loom", none, [], [], none, none, none, score, .garment none none⟩

/-- A search that finds the shirt twice, next to a catalog that lists the scarf again and the belt
twice. The state keeps the limits that the catalog was asked with. -/
def sampleSources : Collaborators (List (Option Int)) where
  listItems query := .ofOutcome fun asked =>
    (.ok [sampleFind "scarf" none, sampleFind "belt" none, sampleFind "belt" (some 0.1),
      sampleFind "ring" none], asked ++ [query.limit])
  findItem _ := pure none
  addItem _ := pure ()
  updateItem _ _ := pure ()
  search := some fun _ => pure [sampleFind "shirt" (some 0.9), sampleFind "shirt" (some 0.8),
    sampleFind "scarf" (some 0.7)]
  logEvent _ := pure ()
  recentEvents _ _ _ := pure []
  preferences := none
  embed := none
  saveProfile _ := pure ()
  loadProfile _ := pure none
  vendor := none

/-- A request for four items near a style vector. -/
def sampleFour : Request := ⟨some [1.0, 0.0], 4, 1000, none, styleIndex⟩

/-- The sample search gives two different items, so the catalog is asked once, for four items. The
scarf keeps the score of the search. -/
theorem candidates_merge_sample :
    1 ≤ sampleFour.limit ∧
    ((candidates sampleSources sampleFour).run []).1.map (fun item => (item.id, item.score)) =
      [("shirt", some 0.9), ("scarf", some 0.7), ("belt", none), ("ring", none)] ∧
    ((candidates sampleSources sampleFour).run []).2 = [some 4] ∧
    (candidates sampleSources sampleFour).run [] =
      ((merged sampleSources sampleFour []).take 4, (fetched sampleSources sampleFour []).2) := by
  have positive : 1 ≤ sampleFour.limit := by decide
  exact ⟨positive, by decide +kernel, by decide +kernel,
    (candidates_merge sampleSources sampleFour [] positive).1⟩

end Sample

end Retrieval

end Storefront
