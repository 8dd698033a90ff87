import Storefront.Collaborators
import Storefront.Item.Canonical
import Storefront.Item.Writer
/-!
# Backfilling style vectors

Items without a style vector are embedded one after the other, and the vector is stored with a note
on how it was made. An item that cannot be embedded is counted and passed over; a store that
cannot take a vector stops the run.
-/

namespace Storefront.Backfill

variable {σ : Type}

/-- Which items are embedded, and by what. -/
structure Order where
  /-- Only items of the kind with this name; an empty name stands for all kinds. -/
  kind : Option String
  /-- At most so many items. -/
  limit : Option Int
  model : String
  now : Moment

/-- How a run ended. -/
structure Report where
  processed : Nat
  failed : Nat
  deriving DecidableEq, Repr

/-- The version of the vectors stored here. -/
def version : String := "v1"

/-- Whether an item is of the wanted kind. -/
def isWantedKind (kind : Option String) (item : Item) : Bool :=
  match kind with
  | none => true
  | some name => name.isEmpty || item.kind.name == name

/-- Whether an item waits for a style vector. -/
def isPending (kind : Option String) (item : Item) : Bool :=
  item.styleVector?.isNone && isWantedKind kind item

/-- Whether a run has done all it may do. -/
def isDone (limit : Option Int) (processed : Nat) : Bool :=
  match limit with
  | some limit => decide (limit ≤ processed)
  | none => false

/-- The items that a run would embed if nothing failed, after some number of items. -/
def pendingFrom (kind : Option String) (limit : Option Int) (processed : Nat) :
    List Item → List Item
  | [] => []
  | item :: rest =>
    if isDone limit processed then []
    else if isPending kind item then item :: pendingFrom kind limit (processed + 1) rest
    else pendingFrom kind limit processed rest

/-- The items that a run would embed if nothing failed. -/
def pending (kind : Option String) (limit : Option Int) (items : List Item) : List Item :=
  pendingFrom kind limit 0 items

/-- The note on a vector. -/
def noteOf (order : Order) (vector : List Float) : Json :=
  .obj [("model", .str order.model), ("dim", .int vector.length), ("version", .str version),
    ("embedded_at", .str order.now.toQueryText)]

/-- The changes that store a vector with an item; the item's other vector stays. -/
def changesFor (order : Order) (item : Item) (vector : List Float) : Row :=
  let kept := (item.embeddings.map Embeddings.toRow).getD []
  [("embeddings", .obj (kept.put "e_style" (Json.ofFloats vector))),
    ("embedding_metadata", noteOf order vector)]

/-- What stops a run when the service has no vector for a text. -/
def noVector : Fault := .unavailable "object of type 'NoneType' has no len()"

/-- Embed the pending items of a list, after some number of items. -/
def runFrom (embed : String → Call σ (Option (List Float))) (store : String → Row → Call σ Unit)
    (order : Order) (report : Report) : List Item → Call σ Report
  | [] => pure report
  | item :: rest =>
    if isDone order.limit report.processed then pure report
    else if !isPending order.kind item then runFrom embed store order report rest
    else do
      match ← Call.ofState (embed item.canonicalText).attempt with
      | none => runFrom embed store order { report with failed := report.failed + 1 } rest
      | some none => Call.ofExcept (.error noVector)
      | some (some vector) =>
        store item.id (changesFor order item vector)
        runFrom embed store order { report with processed := report.processed + 1 } rest

/-- Embed the pending items of the catalog. -/
def run (world : Collaborators σ) (embed : String → Call σ (Option (List Float)))
    (order : Order) : Call σ Report := do
  let items ← world.listItems .everything
  runFrom embed world.updateItem order ⟨0, 0⟩ items

/-- A report as a record. -/
def Report.toRow (report : Report) : Row :=
  [("processed", .int report.processed), ("failed", .int report.failed)]

/-- What a run would embed, a line for every item. -/
def previewLine (item : Item) : String :=
  item.id ++ " [" ++ item.kind.name ++ "]: " ++ item.canonicalText

end Storefront.Backfill
