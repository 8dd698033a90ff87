import Storefront.Command.Run
import Storefront.Proofs.Interleavings
/-!
# What a preview tells of a run

A preview prints the pending items of a catalog up to a limit, with their texts. A run over the same
catalog goes through its items in a loop of its own, and stores a vector after each text that it has
embedded. It goes on with the items that it had listed, so what it stores does not change which
items come next, not even where an item is kept under the id of another one. With a service that
always has a vector for a text, a run embeds the texts that the preview prints, in this order, and
stores each vector under the id that stands before the text.

Nothing is said here about what the stores hold after a run.
-/

namespace Storefront

namespace Backfill

variable {kind : Option String} {limit : Option Int} {order : Order}

/-- The pending items of a catalog, as many as a limit allows. -/
def due (kind : Option String) (limit : Option Int) (catalog : Catalog) : List Item :=
  let waiting := catalog.values.filter (isPending kind)
  match limit with
  | none => waiting
  | some bound => waiting.take bound.toNat

section Limits

/-- Without a limit all pending items are previewed. -/
theorem pendingFrom_unlimited (kind : Option String) (items : List Item) :
    ∀ processed, pendingFrom kind none processed items = items.filter (isPending kind) := by
  induction items with
  | nil => exact fun _ => rfl
  | cons item rest ih =>
    intro processed
    rw [pendingFrom, isDone, if_neg Bool.false_ne_true, ih, ih]
    cases pending : isPending kind item with
    | false => rw [if_neg Bool.false_ne_true, List.filter_cons_of_neg (by simp [pending])]
    | true => rw [if_pos rfl, List.filter_cons_of_pos pending]

/-- With a limit the first pending items are previewed, as many as are left of it. -/
theorem pendingFrom_limited (kind : Option String) (bound : Int) (items : List Item) :
    ∀ processed : Nat, pendingFrom kind (some bound) processed items =
      (items.filter (isPending kind)).take (bound - processed).toNat := by
  induction items with
  | nil => exact fun _ => List.take_nil.symm
  | cons item rest ih =>
    intro processed
    rw [pendingFrom, isDone]
    by_cases done : bound ≤ processed
    · have none : (bound - processed).toNat = 0 := by omega
      rw [if_pos (decide_eq_true done), none, List.take_zero]
    · rw [if_neg (by simpa using done), ih, ih]
      cases pending : isPending kind item with
      | false => rw [if_neg Bool.false_ne_true, List.filter_cons_of_neg (by simp [pending])]
      | true =>
        have left : (bound - processed).toNat = (bound - (processed + 1 : Nat)).toNat + 1 := by
          omega
        rw [if_pos rfl, List.filter_cons_of_pos pending, left, List.take_succ_cons]

/-- A preview is of the pending items that the limit allows, none if it is not above zero. -/
theorem pending_eq_due (kind : Option String) (limit : Option Int) (catalog : Catalog) :
    pending kind limit catalog.values = due kind limit catalog := by
  cases limit with
  | none => exact pendingFrom_unlimited kind _ 0
  | some bound =>
    have all : (bound - (0 : Nat)).toNat = bound.toNat := by omega
    rw [pending, pendingFrom_limited, all]
    rfl

end Limits

section Following

/-- What a run does outside of itself. -/
inductive Act where
  | embeds (text : String) (vector : List Float)
  | stores (id : String) (changes : Row)

variable {τ : Type}

/-- What a run did so far, with the state of the service that embeds texts and the stores. -/
structure Followed (τ : Type) where
  acts : List Act
  service : τ
  stores : Memory

/-- The collaborators over followed stores; what a run stores is noted. -/
def followed : Collaborators (Followed τ) :=
  { Memory.collaborators.within Followed.stores fun stores state => { state with stores } with
    updateItem := fun id changes => Call.ofOutcome fun state =>
      let (answer, stores) := (Memory.collaborators.updateItem id changes).outcome state.stores
      (answer, { state with acts := state.acts ++ [.stores id changes], stores }) }

/-- A service with a state of its own that always has a vector for a text. -/
abbrev Ready (τ : Type) := String → StateM τ (List Float)

/-- A service whose vectors are noted. -/
def Ready.followed (ready : Ready τ) (text : String) : Call (Followed τ) (Option (List Float)) :=
  Call.ofOutcome fun state =>
    let (vector, service) := (ready text).run state.service
    (.ok (some vector), { state with acts := state.acts ++ [.embeds text vector], service })

/-- Embedding an item with a vector: its text is embedded, and the vector is stored under its id. -/
def embedding (order : Order) (embedded : Item × List Float) : List Act :=
  [.embeds embedded.1.canonicalText embedded.2,
    .stores embedded.1.id (changesFor order embedded.1 embedded.2)]

/-- A text that is tried is embedded. -/
theorem attempt_followed {ready : Ready τ} {text : String} {state : Followed τ}
    {vector : List Float} {service : τ}
    (answers : (ready text).run state.service = (vector, service)) :
    (Call.ofState (ready.followed text).attempt).outcome state =
      (.ok (some (some vector)),
        ⟨state.acts ++ [.embeds text vector], service, state.stores⟩) := by
  rw [Call.outcome_attempt, Ready.followed, Call.outcome_ofOutcome, answers]

/-- A vector is stored whatever the stores hold. -/
theorem followed_store {stores : Memory} (readable : stores.catalog.IsReadable)
    (clock : order.now.IsWritable) (acts : List Act) (service : τ) (listed : Item)
    (vector : List Float) :
    (followed.updateItem listed.id (changesFor order listed vector)).outcome
        ⟨acts, service, stores⟩ =
      (.ok (), ⟨acts ++ [.stores listed.id (changesFor order listed vector)], service,
        stores.written [(Turn.own listed vector).write order]⟩) := by
  have succeeds := store_succeeds readable clock listed vector
  change (let (answer, stores) := (Memory.collaborators.updateItem listed.id
      (changesFor order listed vector)).outcome stores
    (answer, Followed.mk _ service stores)) = _
  rw [succeeds]

/-- A run that tries an item embeds it and goes on. -/
theorem runFrom_embeds (ready : Ready τ) (clock : order.now.IsWritable) {report : Report}
    {item : Item} (unfinished : isDone order.limit report.processed = false)
    (pending : isPending order.kind item = true) (rest : List Item) {state : Followed τ}
    (readable : state.stores.catalog.IsReadable) :
    ∃ vector next, next.acts = state.acts ++ embedding order (item, vector) ∧
      next.stores.catalog.IsReadable ∧
      (runFrom ready.followed followed.updateItem order report (item :: rest)).outcome state =
        (runFrom ready.followed followed.updateItem order
          { report with processed := report.processed + 1 } rest).outcome next := by
  rcases answers : (ready item.canonicalText).run state.service with ⟨vector, service⟩
  refine ⟨vector, ⟨state.acts ++ [.embeds item.canonicalText vector] ++
      [.stores item.id (changesFor order item vector)], service,
    state.stores.written [(Turn.own item vector).write order]⟩, List.append_assoc ..,
    Memory.written_readable readable _, ?_⟩
  rw [runFrom, unfinished, pending, if_neg Bool.false_ne_true, if_neg (by simp),
    Call.outcome_bind, attempt_followed answers]
  change ((followed.updateItem item.id (changesFor order item vector)) >>= _).outcome _ = _
  rw [Call.outcome_bind, followed_store readable clock]

/-- A run over some items embeds the ones that a preview of them shows. -/
theorem runFrom_followed (ready : Ready τ) (clock : order.now.IsWritable) (items : List Item) :
    ∀ (report : Report) (state : Followed τ), state.stores.catalog.IsReadable →
      ∃ vectors after,
        vectors.length = (pendingFrom order.kind order.limit report.processed items).length ∧
        (runFrom ready.followed followed.updateItem order report items).outcome state =
          (.ok { report with processed := report.processed +
            (pendingFrom order.kind order.limit report.processed items).length }, after) ∧
        after.acts = state.acts ++
          ((pendingFrom order.kind order.limit report.processed items).zip vectors).flatMap
            (embedding order) := by
  induction items with
  | nil => exact fun report state _ => ⟨[], state, rfl, rfl, (List.append_nil _).symm⟩
  | cons item rest ih =>
    intro report state readable
    rw [pendingFrom]
    cases finished : isDone order.limit report.processed with
    | true =>
      refine ⟨[], state, rfl, ?_, (List.append_nil _).symm⟩
      rw [runFrom, finished, if_pos rfl]
      rfl
    | false =>
      rw [if_neg Bool.false_ne_true]
      cases pending : isPending order.kind item with
      | false =>
        rw [if_neg Bool.false_ne_true, runFrom, finished, pending]
        exact ih report state readable
      | true =>
        obtain ⟨vector, next, acts, still, onward⟩ :=
          runFrom_embeds ready clock finished pending rest readable
        obtain ⟨vectors, after, length, runs, later⟩ :=
          ih { report with processed := report.processed + 1 } next still
        rw [if_pos rfl, onward]
        refine ⟨vector :: vectors, after, congrArg Nat.succ length, ?_, ?_⟩
        · rw [runs, List.length_cons, Nat.add_assoc, Nat.add_comm 1]
        · rw [later, acts, List.zip_cons_cons, List.flatMap_cons, List.append_assoc]

/-- A run goes through the items that the catalog has at its start. -/
theorem run_followed_eq (ready : Ready τ) (state : Followed τ) :
    (run followed ready.followed order).outcome state =
      (runFrom ready.followed followed.updateItem order ⟨0, 0⟩ state.stores.catalog.values).outcome
        state := by
  have lists : (followed.listItems .everything).outcome state =
      (.ok state.stores.catalog.values, state) :=
    congrArg (·, state) state.stores.catalog.listItems_everything
  rw [run, Call.outcome_bind, lists]

end Following

end Backfill

namespace Command.BackfillEmbeddings

open Backfill

/-- A preview of a catalog prints a line for every item that is due, and changes nothing. -/
theorem preview_outcome (memory : Memory) (kind : Option String) (limit : Option Int) :
    (preview Memory.collaborators kind limit).outcome memory =
      (.ok ⟨0, printedLines ((due kind limit memory.catalog).map previewLine)⟩, memory) := by
  have lists : (Memory.collaborators.listItems .everything).outcome memory =
      (.ok memory.catalog.values, memory) :=
    congrArg (·, memory) memory.catalog.listItems_everything
  rw [preview, Call.outcome_bind, lists, ← pending_eq_due]
  rfl

/-- Over any catalog in memory, and for any kind and any limit, a preview tells what a run with the
same kind and limit embeds if the service always has a vector. It prints the pending items that the
limit allows, each with its text; the run embeds these texts in this order, stores each vector under
the id of its item, and does nothing else. The preview is what a command line prints that asks for
it with this kind and this limit. -/
theorem preview_tells_run {memory : Memory}
    (parsed : ∀ item ∈ memory.catalog.values, ∃ row, Item.parse row = .ok item)
    (kind : Option String) (limit : Option Int) :
    (preview Memory.collaborators kind limit).outcome memory =
      (.ok ⟨0, printedLines ((due kind limit memory.catalog).map previewLine)⟩, memory) ∧
    (∀ (arguments : List String) (given : List (String × Given)),
      readCommandLine specs arguments = .ok given → isGiven given "dry-run" = true →
      choice? given "kind" = kind → number? given "limit" = limit →
      ∀ (embed : Option (String → Call Memory (List Float))) (model : String) (now : Moment),
        (run Memory.collaborators embed model now arguments).outcome memory =
          (.ok ⟨0, printedLines ((due kind limit memory.catalog).map previewLine)⟩, memory)) ∧
    ∀ (τ : Type) (ready : Ready τ) (service : τ) (model : String) (now : Moment), now.IsWritable →
      ∃ vectors after, vectors.length = (due kind limit memory.catalog).length ∧
        (Backfill.run followed ready.followed ⟨kind, limit, model, now⟩).outcome
            ⟨[], service, memory⟩ =
          (.ok ⟨(due kind limit memory.catalog).length, 0⟩, after) ∧
        after.acts = ((due kind limit memory.catalog).zip vectors).flatMap
          (embedding ⟨kind, limit, model, now⟩) := by
  have previews := preview_outcome memory kind limit
  refine ⟨previews, ?commands, ?runs⟩
  case commands =>
    rintro arguments given reads dry rfl rfl embed model now
    rw [run, reads]
    dsimp only
    rw [if_pos dry]
    exact previews
  case runs =>
    intro τ ready service model now clock
    have readable : memory.catalog.IsReadable := by
      intro key item found
      obtain ⟨row, reads⟩ := parsed item (Table.mem_values_of_find? found)
      exact Item.writable_of_parse reads
    obtain ⟨vectors, after, length, runs, acts⟩ := runFrom_followed ready
      (show (⟨kind, limit, model, now⟩ : Order).now.IsWritable from clock) memory.catalog.values
      ⟨0, 0⟩ ⟨[], service, memory⟩ readable
    have shown : pendingFrom kind limit 0 memory.catalog.values = due kind limit memory.catalog :=
      pending_eq_due kind limit memory.catalog
    simp only [shown, Nat.zero_add] at length runs acts
    exact ⟨vectors, after, length, by rw [run_followed_eq]; exact runs, acts⟩

section Sample

/-- The option that asks for a preview has no value attached. -/
theorem sampleOption_whole : "--dry-run".splitOn "=" = ["--dry-run"] := by
  have onward : ∀ place < 9, String.splitOnAux "--dry-run" "=" 0 ⟨place⟩ 0 [] =
      String.splitOnAux "--dry-run" "=" 0 ⟨place + 1⟩ 0 [] := by
    intro place within
    conv_lhs => rw [String.splitOnAux]
    interval_cases place <;> rfl
  have start : "--dry-run".splitOn "=" = String.splitOnAux "--dry-run" "=" 0 ⟨0⟩ 0 [] := rfl
  -- None of the nine characters is an equals sign.
  rw [start, onward 0 (by decide), onward 1 (by decide), onward 2 (by decide),
    onward 3 (by decide), onward 4 (by decide), onward 5 (by decide), onward 6 (by decide),
    onward 7 (by decide), onward 8 (by decide), String.splitOnAux]
  rfl

/-- A command line can ask for a preview of everything. -/
theorem sampleLine_reads :
    readCommandLine specs ["--dry-run"] = .ok [("dry-run", .flag)] := by
  have opens : "--dry-run".startsWith "-" = true := by decide +kernel
  have helpless : "--dry-run".startsWith "-h" = false := by decide +kernel
  have long : "--dry-run".startsWith "--" = true := by decide +kernel
  have name : ("--dry-run".drop 2).toString = "dry-run" := by decide +kernel
  have option : classify (helpSpec :: specs) "--dry-run" =
      .option (some ⟨"dry-run", .nothing⟩) none := by
    rw [classify, sampleOption_whole]
    simp only [opens, helpless, long, name]
    rfl
  have all : ["--dry-run"].takeWhile (· != "--") = ["--dry-run"] := by decide +kernel
  rw [readCommandLine]
  simp only [all, List.any_cons, List.any_nil, option, readOptions]
  rfl

/-- A service that has the same vector for every text, and counts the texts. -/
def sampleReady : Ready Nat := fun _ count => ([0.5, 0.25], count + 1)

/-- The belt and the scarf are previewed, and a run embeds them in this order. -/
theorem preview_tells_run_sample :
    (∀ item ∈ sampleStores.catalog.values, ∃ row, Item.parse row = .ok item) ∧
    sampleOrder.now.IsWritable ∧
    (run Memory.collaborators none "small" sampleClock ["--dry-run"]).outcome sampleStores =
      (.ok ⟨0, "belt [accessory]: belt\nscarf [accessory]: scarf\n"⟩, sampleStores) ∧
    ∃ vectors after, vectors.length = 2 ∧
      (Backfill.run followed sampleReady.followed sampleOrder).outcome ⟨[], 0, sampleStores⟩ =
        (.ok ⟨2, 0⟩, after) ∧
      after.acts = ([sampleWoven "belt" none, sampleWoven "scarf" none].zip vectors).flatMap
        (embedding sampleOrder) := by
  have shown : due none none sampleStores.catalog =
      [sampleWoven "belt" none, sampleWoven "scarf" none] := rfl
  have printed : printedLines ([sampleWoven "belt" none, sampleWoven "scarf" none].map
      previewLine) = "belt [accessory]: belt\nscarf [accessory]: scarf\n" := by decide +kernel
  obtain ⟨-, commands, runs⟩ := preview_tells_run sampleStores_parsed none none
  have prints := commands _ _ sampleLine_reads rfl rfl rfl none "small" sampleClock
  obtain ⟨vectors, after, length, ends, acts⟩ :=
    runs Nat sampleReady 0 "small" sampleClock sampleOrder_writable
  rw [shown] at length ends acts
  rw [shown, printed] at prints
  exact ⟨sampleStores_parsed, sampleOrder_writable, prints, vectors, after, length, ends, acts⟩

end Sample

end Command.BackfillEmbeddings

end Storefront
