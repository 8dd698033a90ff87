import Storefront.Intent.Router
import Storefront.Proofs.Calls
import Storefront.Proofs.Floats.Wholes
/-!
# Routings of texts

Whatever the chat model does with a text, the text is routed: what is no answer, or names no intent,
or is unsure, is general browsing. A text is routed elsewhere exactly if the model answers with an
object that names the intent and whose confidence is a number that does not compare below the
threshold. That is a number of at least the threshold, or the undefined one, which compares with no
number. The constraints of an answer are kept on all of these paths. Over many texts the model is
asked about exactly those with a character that is not blank, in their order.
-/

namespace Storefront

namespace Text

/-- A text with a character that is not blank. -/
def isWritten (text : String) : Bool := text.toList.any (!isBlank ·)

/-- Nothing is left of a text without the characters of a class at its ends exactly if it has no
others. -/
theorem trimBy_eq_nil_iff {skipped : Char → Bool} {cs : List Char} :
    trimBy skipped cs = [] ↔ ∀ c ∈ cs, skipped c = true := by
  rw [trimBy, List.reverse_eq_nil_iff, List.dropWhile_eq_nil_iff]
  simp only [List.mem_reverse]
  constructor
  · intro rest c member
    rw [← List.takeWhile_append_dropWhile (p := skipped) (l := cs), List.mem_append] at member
    exact member.elim List.mem_takeWhile_imp (rest c)
  · exact fun all c member => all c ((List.dropWhile_sublist skipped).mem member)

/-- A text is blank once trimmed exactly if it is not written. -/
theorem isEmpty_trim (text : String) : (trim text).isEmpty = !isWritten text := by
  rw [Bool.eq_iff_iff, String.isEmpty_iff, trim, String.ofList_eq_empty_iff, trimBy_eq_nil_iff,
    isWritten]
  simp

end Text

namespace Intent

open Assistant (Reply)
open Call (ofState)

variable {σ : Type} {ask : String → Call σ Reply} {intent : Intent} {answer : Row}

/-- An intent is found by its name and by no other one. -/
theorem ofName?_eq_some_iff {name : String} : ofName? name = some intent ↔ intent.name = name := by
  constructor
  · intro found
    have same : (intent.name == name) = true := by simpa using List.find?_some found
    exact beq_iff_eq.mp same
  · rintro rfl
    cases intent <;> decide

section Answers

/-- A value is a number that is at least the threshold, and within the floats if it is whole. Truth
values are no numbers here. -/
def IsSure : Json → Prop
  | .int number => 1 ≤ number ∧ (Decimal.nearestFloat? number).isSome = true
  | .float number => confidenceThreshold ≤ number
  | _ => False

/-- A value is the undefined number. -/
def IsUndefined : Json → Prop
  | .float number => number.isNaN = true
  | _ => False

/-- A float is not below the threshold exactly if it is at least the threshold or undefined. -/
theorem not_lt_threshold_iff {number : Float} :
    ¬ number < confidenceThreshold ↔ confidenceThreshold ≤ number ∨ number.isNaN = true := by
  constructor
  · intro notBelow
    cases undefined : number.isNaN with
    | true => exact .inr rfl
    | false =>
      have notAbove : Scalar.lt number confidenceThreshold = false := decide_eq_false notBelow
      exact .inl (of_decide_eq_true (Floats.le_of_not_lt (by decide) undefined notAbove))
  · rintro (atLeast | undefined)
    · exact of_decide_eq_false (Floats.not_lt_of_le atLeast)
    · exact of_decide_eq_false (Floats.not_lt_of_undefined (.inl undefined))

/-- The float of a whole number is not below the threshold exactly if the number is at least one. -/
theorem not_lt_threshold_of_nearestFloat? {number : Int} {x : Float}
    (nearest : Decimal.nearestFloat? number = some x) :
    ¬ x < confidenceThreshold ↔ 1 ≤ number := by
  have bounds := Floats.bounds_of_nearestFloat? nearest
  split at bounds
  · next large =>
    refine iff_of_true (fun below => ?_) large
    have contrary : (1.0 : Float) < confidenceThreshold := Floats.lt_of_le_of_lt bounds below
    exact absurd contrary (by decide)
  · next small =>
    refine iff_of_false (fun notBelow => notBelow ?_) small
    exact Floats.lt_of_le_of_lt bounds (by decide)

/-- The confidence of an answer is read and not below the threshold exactly if it is a number that
is at least the threshold, or the undefined one. -/
theorem confidence_sure_iff :
    (∃ confidence, confidenceOf answer = .ok confidence ∧ ¬ confidence < confidenceThreshold) ↔
      ∃ value, answer.get? "confidence" = some value ∧ (IsSure value ∨ IsUndefined value) := by
  have assumed : assumedConfidence < confidenceThreshold := by decide
  unfold confidenceOf
  cases answer.get? "confidence" with
  | none => simp [assumed]
  | some value =>
    cases value with
    | int number =>
      cases nearest : Decimal.nearestFloat? number with
      | none => simp [Json.toFloat, nearest, IsSure, IsUndefined]
      | some x =>
        have sure := not_lt_threshold_of_nearestFloat? nearest
        simp [Json.toFloat, nearest, IsSure, IsUndefined, sure]
    | float number => simp [IsSure, IsUndefined, not_lt_threshold_iff]
    | _ => simp [IsSure, IsUndefined, assumed]

/-- An answer names an intent other than general browsing exactly if its name is written in it. -/
theorem intentOf_eq_iff (other : intent ≠ .homeFeed) :
    intentOf answer = intent ↔ answer.get? "intent" = some (.str intent.name) := by
  unfold intentOf
  split
  · next name written =>
    rw [written, Option.some_inj, Json.str.injEq, eq_comm (a := name), ← ofName?_eq_some_iff]
    cases ofName? name with
    | none => exact iff_of_false other.symm nofun
    | some known => exact Option.some_inj.symm
  · next unwritten => exact iff_of_false other.symm fun written => unwritten _ written

/-- An answer is routed to an intent other than general browsing exactly if it names the intent and
its confidence is a number that does not compare below the threshold. -/
theorem routingOf_intent_iff (other : intent ≠ .homeFeed) :
    (∃ routing, routingOf answer = .ok routing ∧ routing.intent = intent) ↔
      answer.get? "intent" = some (.str intent.name) ∧
        ∃ value, answer.get? "confidence" = some value ∧ (IsSure value ∨ IsUndefined value) := by
  rw [← intentOf_eq_iff other, ← confidence_sure_iff]
  constructor
  · rintro ⟨routing, routed, rfl⟩
    obtain ⟨confidence, reads, rfl⟩ := Call.map_eq_ok_iff.mp routed
    split at other
    · exact absurd rfl other
    · next sure =>
      rw [if_neg sure]
      exact ⟨rfl, confidence, reads, sure⟩
  · rintro ⟨names, confidence, reads, sure⟩
    refine ⟨_, Call.map_eq_ok_iff.mpr ⟨confidence, reads, rfl⟩, ?_⟩
    rw [if_neg sure]
    exact names

/-- An answer whose confidence is no whole number beyond the floats is routed. -/
theorem exists_routingOf
    (within : ∀ number, answer.get? "confidence" = some (.int number) →
      (Decimal.nearestFloat? number).isSome = true) :
    ∃ routing, routingOf answer = .ok routing ∧ routing.constraints = constraintsOf answer := by
  have reads : ∃ confidence, confidenceOf answer = .ok confidence := by
    unfold confidenceOf
    split
    · next number whole =>
      obtain ⟨x, nearest⟩ := Option.isSome_iff_exists.mp (within number whole)
      exact ⟨x, by rw [Json.toFloat, nearest]⟩
    · exact ⟨_, rfl⟩
    · exact ⟨_, rfl⟩
  obtain ⟨confidence, reads⟩ := reads
  refine ⟨_, Call.map_eq_ok_iff.mpr ⟨confidence, reads, rfl⟩, ?_⟩
  split <;> rfl

/-- The constraints of an answer are those of the object that it holds, or none. -/
theorem constraintsOf_cases :
    (∀ constraints, answer.get? "constraints" = some (.obj constraints) →
      constraintsOf answer = constraints) ∧
    ((∀ constraints, answer.get? "constraints" ≠ some (.obj constraints)) →
      constraintsOf answer = []) := by
  unfold constraintsOf
  split
  · next constraints held =>
    refine ⟨fun _ same => ?_, fun none => absurd held (none constraints)⟩
    rw [held] at same
    cases same
    rfl
  · next unheld => exact ⟨fun constraints held => absurd held (unheld constraints), fun _ => rfl⟩

end Answers

section Routes

variable {enabled : Bool} {text : Option String} {asked body : String} {routing : Routing}

/-- A text is written, or there is nothing to ask about. -/
theorem written_or_blank (text : Option String) :
    (∃ asked, text = some asked ∧ Text.isWritten asked = true) ∨
      ∀ asked, text = some asked → Text.isWritten asked = false := by
  cases text with
  | none => exact .inr nofun
  | some asked =>
    cases written : Text.isWritten asked with
    | true => exact .inl ⟨asked, rfl, written⟩
    | false => exact .inr fun _ same => Option.some.inj same ▸ written

/-- The routing of what comes of asking the model. -/
def routed : Except Fault Reply → Routing
  | .ok reply => ofReply reply
  | .error _ => .browsing 0.0 []

/-- A text is written and the model, asked about it, answers with an object. -/
def IsAnswered (enabled : Bool) (ask : String → Call σ Reply) (text : Option String) (state : σ)
    (answer : Row) : Prop :=
  enabled = true ∧ ∃ asked body, text = some asked ∧ Text.isWritten asked = true ∧
    ((ask asked).outcome state).1 = .ok (.content (some body)) ∧
    Json.parse? body = some (.obj answer)

/-- A written text is routed by what comes of asking the model about it. -/
theorem route_written (written : Text.isWritten asked = true) (state : σ) :
    (route true ask (some asked)).run state =
      (routed ((ask asked).outcome state).1, ((ask asked).outcome state).2) := by
  have kept : (some asked).filter (fun text => !(Text.trim text).isEmpty) = some asked :=
    Option.filter_eq_some_iff.mpr ⟨rfl, by rw [Text.isEmpty_trim, written]; rfl⟩
  rw [route, kept]
  change (((ask asked).attempt >>= _).run state) = _
  simp only [Call.attempt, Call.outcome, StateT.run_bind]
  rcases (ask asked).run.run state with ⟨fault | reply, after⟩ <;> rfl

/-- A text that is not written is routed without the model. -/
theorem route_unwritten (blank : ∀ asked, text = some asked → Text.isWritten asked = false)
    (state : σ) : (route enabled ask text).run state = (.browsing 1.0 [], state) := by
  have dropped : text.filter (fun text => !(Text.trim text).isEmpty) = none := by
    refine Option.filter_eq_none_iff.mpr fun asked given => ?_
    rw [Text.isEmpty_trim, blank asked given]
    decide
  rw [route, dropped]
  rfl

/-- A router that is not enabled routes every text to general browsing, without the model. -/
theorem route_disabled (text : Option String) (state : σ) :
    ∃ confidence, (route false ask text).run state = (.browsing confidence [], state) := by
  rw [route]
  split
  · exact ⟨_, rfl⟩
  · exact ⟨_, rfl⟩

/-- A reply that is an object is routed as an answer, if its confidence is read. -/
theorem ofReply_of_object (object : Json.parse? body = some (.obj answer)) :
    ofReply (.content (some body)) = (routingOf answer).toOption.getD (.browsing 0.0 []) := by
  have filled : body.isEmpty = false := by
    refine Bool.eq_false_iff.mpr fun empty => ?_
    rw [String.isEmpty_iff.mp empty] at object
    cases object
  rw [ofReply, filled, interpret, object]
  rfl

/-- Only an object whose confidence is read is routed to an intent other than general browsing. -/
theorem exists_answer_of_intent {outcome : Except Fault Reply}
    (other : (routed outcome).intent ≠ .homeFeed) :
    ∃ body answer, outcome = .ok (.content (some body)) ∧
      Json.parse? body = some (.obj answer) ∧ routingOf answer = .ok (routed outcome) := by
  cases outcome with
  | error fault => exact absurd rfl other
  | ok reply =>
    cases reply with
    | noChoices => exact absurd rfl other
    | content said =>
      cases said with
      | none => exact absurd rfl other
      | some body =>
        cases filled : body.isEmpty with
        | true =>
          rw [routed, ofReply, filled] at other
          exact absurd rfl other
        | false =>
          have interpreted : routed (.ok (.content (some body))) =
              (interpret body).getD (.browsing 0.0 []) := by
            rw [routed, ofReply, filled]
            rfl
          rw [interpreted] at other ⊢
          unfold interpret at other ⊢
          split at other
          · next answer object =>
            cases reads : routingOf answer with
            | error fault =>
              rw [reads] at other
              exact absurd rfl other
            | ok routing => exact ⟨body, answer, rfl, object, reads⟩
          · exact absurd rfl other

/-- A text is routed to an intent other than general browsing exactly if the model answers with an
object that names the intent and has a confidence that does not compare below the threshold. -/
theorem route_intent_iff (other : intent ≠ .homeFeed) (state : σ) :
    ((route enabled ask text).run state).1.intent = intent ↔
      ∃ answer, IsAnswered enabled ask text state answer ∧
        answer.get? "intent" = some (.str intent.name) ∧
        ∃ value, answer.get? "confidence" = some value ∧ (IsSure value ∨ IsUndefined value) := by
  constructor
  · rintro rfl
    cases enabled with
    | false =>
      obtain ⟨confidence, browses⟩ := route_disabled text state
      exact absurd (congrArg (·.1.intent) browses) other
    | true =>
      obtain ⟨asked, rfl, written⟩ | blank := written_or_blank text
      · rw [route_written written] at other ⊢
        obtain ⟨body, answer, replied, object, reads⟩ := exists_answer_of_intent other
        exact ⟨answer, ⟨rfl, asked, body, rfl, written, replied, object⟩,
          (routingOf_intent_iff other).mp ⟨_, reads, rfl⟩⟩
      · exact absurd (congrArg (·.1.intent) (route_unwritten blank state)) other
  · rintro ⟨answer, ⟨rfl, asked, body, rfl, written, replied, object⟩, sure⟩
    obtain ⟨routing, reads, names⟩ := (routingOf_intent_iff other).mpr sure
    rw [route_written written, replied, routed, ofReply_of_object object, reads]
    exact names

/-- The constraints of an answer whose confidence is no whole number beyond the floats are kept. -/
theorem route_constraints {state : σ} (answered : IsAnswered enabled ask text state answer)
    (within : ∀ number, answer.get? "confidence" = some (.int number) →
      (Decimal.nearestFloat? number).isSome = true) :
    ((route enabled ask text).run state).1.constraints = constraintsOf answer := by
  obtain ⟨rfl, asked, body, rfl, written, replied, object⟩ := answered
  obtain ⟨routing, reads, kept⟩ := exists_routingOf within
  rw [route_written written, replied, routed, ofReply_of_object object, reads]
  exact kept

end Routes

section Sequences

/-- A state with the texts that the model was asked about. -/
structure Watched (σ : Type) where
  asked : List String
  world : σ

/-- A model, with the texts that it is asked about watched. -/
def watched (ask : String → Call σ Reply) (text : String) : Call (Watched σ) Reply :=
  Call.ofOutcome fun state =>
    (((ask text).outcome state.world).1,
      ⟨state.asked ++ [text], ((ask text).outcome state.world).2⟩)

/-- The written texts among some. -/
def writtenTexts (texts : List (Option String)) : List String :=
  texts.reduceOption.filter Text.isWritten

/-- Watching changes nothing but what is noted, which is the text if it is written. -/
theorem route_watched (ask : String → Call σ Reply) (text : Option String) (state : Watched σ) :
    (route true (watched ask) text).run state =
      (((route true ask text).run state.world).1,
        ⟨state.asked ++ writtenTexts [text], ((route true ask text).run state.world).2⟩) := by
  obtain ⟨asked, rfl, written⟩ | blank := written_or_blank text
  · have noted : writtenTexts [some asked] = [asked] := by
      simp [writtenTexts, List.reduceOption, written]
    rw [route_written written, route_written written, noted]
    rfl
  · have noted : writtenTexts [text] = [] := by
      cases text with
      | none => rfl
      | some asked => simp [writtenTexts, List.reduceOption, blank asked rfl]
    rw [route_unwritten blank, route_unwritten blank, noted, List.append_nil]

/-- Over some texts the model is asked about the written ones, in order, and nothing else. -/
theorem routes_watched (ask : String → Call σ Reply) (texts : List (Option String))
    (state : Watched σ) :
    (texts.mapM (route true (watched ask))).run state =
      (((texts.mapM (route true ask)).run state.world).1,
        ⟨state.asked ++ writtenTexts texts,
          ((texts.mapM (route true ask)).run state.world).2⟩) := by
  induction texts generalizing state with
  | nil =>
    rw [List.mapM_nil, List.mapM_nil, writtenTexts, List.reduceOption_nil, List.filter_nil]
    change (_, state) = (_, Watched.mk (state.asked ++ []) state.world)
    rw [List.append_nil]
    rfl
  | cons text rest ih =>
    have parts : writtenTexts (text :: rest) = writtenTexts [text] ++ writtenTexts rest := by
      rw [writtenTexts, ← List.singleton_append, List.reduceOption_append, List.filter_append]
      rfl
    rw [List.mapM_cons, List.mapM_cons, StateT.run_bind, StateT.run_bind, route_watched, parts,
      ← List.append_assoc]
    change (StateT.run (rest.mapM (route true (watched ask)) >>= _) _) = _
    rw [StateT.run_bind, ih]
    rfl

end Sequences

/-- For every model, text and state, whether the router is enabled or not. A text is always routed,
and to an intent other than general browsing exactly if it is written and the model answers with an
object that names the intent and whose confidence is a number of at least the threshold or the
undefined number. If the confidence of an object is no whole number beyond the floats, the
constraints are those of the object that it holds, or none. Over texts in a row, one enabled router
asks the model about exactly the written ones, in order. -/
theorem routes_sure_answers (ask : String → Call σ Reply) :
    (∀ enabled text state, ∃ routing after,
      (ofState (route enabled ask text)).outcome state = (.ok routing, after) ∧
      (∀ intent, intent ≠ .homeFeed →
        (routing.intent = intent ↔
          ∃ answer, IsAnswered enabled ask text state answer ∧
            answer.get? "intent" = some (.str intent.name) ∧
            ∃ value, answer.get? "confidence" = some value ∧
              (IsSure value ∨ IsUndefined value))) ∧
      ∀ answer, IsAnswered enabled ask text state answer →
        (∀ number, answer.get? "confidence" = some (.int number) →
          (Decimal.nearestFloat? number).isSome = true) →
        (∀ constraints, answer.get? "constraints" = some (.obj constraints) →
          routing.constraints = constraints) ∧
        ((∀ constraints, answer.get? "constraints" ≠ some (.obj constraints)) →
          routing.constraints = [])) ∧
    ∀ (texts : List (Option String)) (state : σ),
      (texts.mapM (route true (watched ask))).run ⟨[], state⟩ =
        (((texts.mapM (route true ask)).run state).1,
          ⟨writtenTexts texts, ((texts.mapM (route true ask)).run state).2⟩) := by
  refine ⟨fun enabled text state => ?single,
    fun texts state => routes_watched ask texts ⟨[], state⟩⟩
  case single =>
    refine ⟨_, _, Call.outcome_ofState _ state, fun intent other => route_intent_iff other state,
      fun answer answered within => ?_⟩
    rw [route_constraints answered within]
    exact constraintsOf_cases

section Sample

/-- An answer that is sure of an intent and holds constraints. -/
def sampleAnswer : Row :=
  [("intent", .str "occasion"), ("constraints", .obj [("budget", .int 200)]),
    ("confidence", .int 1)]

/-- The answer as the model writes it. -/
def sampleBody : String :=
  "\x7b\"intent\": \"occasion\", \"constraints\": \x7b\"budget\": 200\x7d, \"confidence\": 1\x7d"

/-- A model that always says the same. -/
def sampleModel (body : String) (_ : String) : Call Unit Reply := pure (.content (some body))

/-- A sure answer is followed with its constraints, and only the texts that are written are asked
about. -/
theorem routes_sure_answers_sample :
    (∃ routing after,
      (ofState (route true (sampleModel sampleBody) (some "a wedding"))).outcome () =
        (.ok routing, after) ∧
      routing.intent = .occasion ∧ routing.constraints = [("budget", .int 200)]) ∧
    ((([some "a wedding", none, some " \t", some "a suit"].mapM
      (route true (watched (sampleModel sampleBody)))).run ⟨[], ()⟩).2.asked =
        ["a wedding", "a suit"]) := by
  obtain ⟨single, run⟩ := routes_sure_answers (sampleModel sampleBody)
  obtain ⟨routing, after, routes, intents, constraints⟩ := single true (some "a wedding") ()
  have object : Json.parse? sampleBody = some (.obj sampleAnswer) := by cbv
  have answered : IsAnswered true (sampleModel sampleBody) (some "a wedding") () sampleAnswer :=
    ⟨rfl, "a wedding", sampleBody, rfl, by decide, rfl, object⟩
  have within : (Decimal.nearestFloat? 1).isSome = true := by decide
  refine ⟨⟨routing, after, routes, ?intent, ?constraints⟩, ?asked⟩
  case intent =>
    exact (intents .occasion (by decide)).mpr
      ⟨sampleAnswer, answered, rfl, .int 1, rfl, .inl ⟨by decide, within⟩⟩
  case constraints =>
    refine (constraints sampleAnswer answered fun number held => ?_).1 _ rfl
    cases held
    exact within
  case asked =>
    rw [run]
    decide

/-- An answer whose confidence is the undefined number, as the model writes it. -/
def sampleUndefined : String := "\x7b\"intent\": \"similar\", \"confidence\": NaN\x7d"

/-- An answer whose confidence is undefined is followed, although its confidence is not at least the
threshold. -/
theorem undefined_confidence_followed :
    let routing := ((route true (sampleModel sampleUndefined) (some "a suit")).run ()).1
    routing.intent = .similar ∧ routing.confidence.isNaN = true ∧
      ¬ confidenceThreshold ≤ routing.confidence := by
  decide +kernel

end Sample

end Intent

end Storefront
