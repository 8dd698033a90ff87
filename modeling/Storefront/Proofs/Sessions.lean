import Storefront.Proofs.Exact.Directions
import Storefront.Proofs.Histories
import Storefront.Proofs.KeptProfiles
/-!
# What is recalled of a session

The style of a session comes from the last events of the session, but these are looked for among the
last hundred events of the user only. So events of other sessions get in the way: the session is
recalled as far as its last events are among those hundred.
-/

namespace Storefront

/-- An event belongs to a session. -/
def Event.isOf (sessionId : String) (event : Event) : Bool :=
  event.sessionReference.text? == some sessionId

/-- A value equals a text exactly if it is that text. -/
theorem Json.same_str (value : Json) (text : String) :
    value.same (.str text) = (value.text? == some text) := by
  cases value with
  | str other => rfl
  | null | bool | int | float | arr | obj => simp [Json.same, Json.amount?, Json.text?]

namespace Sequence

variable {α : Type} {front xs : List α}

/-- A beginning of a list has the same first elements as the list exactly if it has enough of
them. -/
theorem take_eq_take_iff_of_prefix (begins : front <+: xs) (limit : Nat) :
    front.take limit = xs.take limit ↔ min limit xs.length ≤ front.length := by
  obtain ⟨rest, rfl⟩ := begins
  constructor
  · intro same
    have length := congrArg List.length same
    rw [List.length_take, List.length_take] at length
    omega
  · intro enough
    rw [List.length_append] at enough
    have none : rest.take (limit - front.length) = [] := by
      refine List.take_eq_nil_iff.mpr ?_
      rw [← List.length_eq_zero_iff]
      omega
    rw [List.take_append, none, List.append_nil]

end Sequence

namespace Profile

/-- The events of a session, the first of some events up to a limit. -/
theorem sessionEvents_eq (events : List Event) (sessionId : String) (limit : Nat) :
    sessionEvents events sessionId limit = (events.filter (·.isOf sessionId)).take limit := by
  have belongs : (fun event : Event => Json.same event.sessionReference (.str sessionId)) =
      (·.isOf sessionId) := funext fun event => Json.same_str _ _
  rw [sessionEvents, belongs]
  rfl

end Profile

namespace Memory

open Profile (sessionStyle ofEvents eventLimit)

/-- The style of a session is that of its newest events, up to the limit, among the hundred newest
events of the user. It is the style of the newest events of the session, up to the limit, if these
are the same. They are exactly if as many events of the session are among those hundred as the
session has and the limit admits, and so they are whenever the user has no more than a hundred
events. -/
theorem session_recalled_iff (memory : Memory) (config : Profile.Config)
    (userId sessionId : String) (limit : Nat) :
    ∃ recounted, EventLog.Recounts (EventLog.wanted memory.events userId none) recounted ∧
      let session := recounted.filter (·.isOf sessionId)
      let recalled := (recounted.take 100).filter (·.isOf sessionId)
      let answer := (sessionStyle collaborators config userId sessionId limit).outcome memory
      let pooled (events : List Event) :=
        (ofEvents collaborators config config.now events).outcome memory
      answer = pooled (recalled.take limit) ∧
      (min limit session.length ≤ recalled.length → answer = pooled (session.take limit)) ∧
      (recalled.take limit = session.take limit ↔ min limit session.length ≤ recalled.length) ∧
      (recounted.length ≤ 100 → recalled = session) := by
  obtain ⟨recounted, recounts, answers⟩ := EventLog.recounts memory.events userId none
  refine ⟨recounted, recounts, ?_⟩
  intro session recalled answer pooled
  have begins : recalled <+: session := (List.take_prefix 100 recounted).filter _
  have enough := Sequence.take_eq_take_iff_of_prefix begins limit
  have read : (Profile.recentEvents collaborators userId eventLimit).run memory =
      (recounted.take 100, memory) := by
    rw [← answers 100]
    rfl
  have style : answer = pooled (recalled.take limit) := by
    unfold answer
    rw [sessionStyle, Call.outcome_bind, Call.outcome_ofState, read]
    dsimp only
    rw [Profile.sessionEvents_eq]
  refine ⟨style, fun found => ?_, enough, fun few => ?_⟩
  · rw [style, enough.mpr found]
  · exact congrArg _ (List.take_of_length_le few)

section Sample

/-- An event of a session, some minutes before the present of the samples. -/
def sampleEventOf (type : EventType) (sessionId : String) (minutes : Int) : Event :=
  ⟨"ada", type, [("itemId", .str "gown"), ("sessionId", .str sessionId)], none, none,
    ⟨sampleConfig.now.instant - minutes * 60000000, some 0⟩⟩

/-- Stores with a gown that has a style, and with these events. -/
def sampleLogged (events : List Event) : Memory := { sampleKept with events }

/-- The only event of a session is recalled behind newer ones of another session. -/
theorem session_recalled_iff_sample :
    let purchase := sampleEventOf .purchase "s1" 30
    let memory := sampleLogged
      [purchase, sampleEventOf .viewItem "s2" 20, sampleEventOf .viewItem "s2" 10]
    (sessionStyle collaborators sampleConfig "ada" "s1" 1).outcome memory =
      (ofEvents collaborators sampleConfig sampleConfig.now [purchase]).outcome memory := by
  intro purchase memory
  obtain ⟨recounted, recounts, -, recalls, -, few⟩ :=
    session_recalled_iff memory sampleConfig "ada" "s1" 1
  have session : recounted.filter (·.isOf "s1") = [purchase] :=
    List.perm_singleton.mp (recounts.complete.filter (·.isOf "s1"))
  have length : recounted.length = 3 := recounts.complete.length_eq
  have recalled : (recounted.take 100).filter (·.isOf "s1") = [purchase] :=
    (few (by omega)).trans session
  have found : min 1 (recounted.filter (·.isOf "s1")).length ≤
      ((recounted.take 100).filter (·.isOf "s1")).length := by
    rw [session, recalled]
    decide
  refine (recalls found).trans ?_
  rw [session]
  rfl

/-- The samples' lookups find what is in the catalog. -/
theorem sampleLogged_finds (events : List Event) :
    Profile.Finds (sampleLogged events).Agrees collaborators (sampleLogged events).catalog.itemAt? :=
  fun id => .orElse ((sampleLogged events).findItem_ends id) fun _ none => False.elim none

/-- The only event of a session is forgotten once a hundred newer ones of another session follow,
though it has a direction. -/
theorem crowded_session_forgotten :
    let purchase := sampleEventOf .purchase "s1" 60
    let memory := sampleLogged (purchase :: List.replicate 100 (sampleEventOf .viewItem "s2" 0))
    let styleOf : Item → Option (List ℝ) := fun _ => some [1, 0]
    memory.events.filter (·.isOf "s1") = [purchase] ∧
    ((sessionStyle collaborators sampleConfig "ada" "s1" 30).outcome memory).1 = .ok none ∧
    ∃ vector, ((Profile.directionOf collaborators styleOf 2 sampleConfig.now [purchase]).outcome
      memory).1 = .ok (some vector) := by
  intro purchase memory styleOf
  refine ⟨rfl, ?forgotten, ?directed⟩
  case forgotten =>
    obtain ⟨answer, answers, none⟩ := Call.ok_of_toOption_map (show
      ((sessionStyle collaborators sampleConfig "ada" "s1" 30).outcome
        memory).1.toOption.map Option.isNone = some true by decide +kernel)
    rw [answers, Option.isNone_iff_eq_none.mp none]
  case directed =>
    have plain : ∀ event ∈ [purchase], event.IsPlain := by
      refine List.forall_mem_singleton.mpr ⟨fun value given => ⟨"gown", ?_⟩, rfl⟩
      exact (Json.eq_of_given? given).symm
    have weighty : (purchase.weight sampleConfig.now : ℝ) ≠ 0 := by
      rw [Event.weight_exact]
      refine mul_ne_zero ?_ (Real.exp_ne_zero _)
      change (5.0 : ℝ) ≠ 0
      norm_num
    have contributes : purchase.Contributes memory.catalog.itemAt? styleOf sampleConfig.now :=
      ⟨⟨"gown", _, [1, 0], rfl, rfl, rfl, List.cons_ne_nil _ _⟩, weighty⟩
    have shared := Pooling.shares_ne_nil_iff.mpr ⟨purchase, List.mem_singleton_self _, contributes⟩
    rw [Profile.outcome_of_plain (sampleLogged_finds _) plain 2 (Memory.Agrees.refl memory),
      Profile.direction_of_shares _ _ rfl plain, if_neg (mt List.isEmpty_iff.mp shared)]
    exact ⟨_, rfl⟩

end Sample

end Memory

end Storefront
