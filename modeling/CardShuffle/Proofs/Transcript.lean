import CardShuffle.Source.Scripted
import Mathlib.Data.List.Forall2

/-!
# What a run asks of its source

`Drawing.transcript` lists the requests a run makes, each with the answer it got.
As far as the source is concerned the transcript is the whole run: a source asked
for the same bounds in turn gives the same answers (`answerAll_transcript`) and
ends in the same state (`after_transcript`).

A source that keeps its promise answers every request below its bound.
`Drawing.Honoured` describes the answers that such a source can give to a
computation, without reference to any source. A script made of the answers gives
them back one by one (`answerAll_start`).
-/

namespace CardShuffle

universe u v

/-- A request and the answer to it. -/
structure Exchange where
  bound : Nat
  answer : Nat
  deriving Repr, DecidableEq

namespace Exchange

/-- The answer is in the range that was asked for. -/
def Kept (exchange : Exchange) : Prop := exchange.answer < exchange.bound

instance (exchange : Exchange) : Decidable exchange.Kept :=
  inferInstanceAs (Decidable (exchange.answer < exchange.bound))

/-- The exchanges in which the bounds of one list get the answers of another. -/
def pair (bounds answers : List Nat) : List Exchange :=
  bounds.zipWith Exchange.mk answers

@[simp]
theorem pair_cons (bound answer : Nat) (bounds answers : List Nat) :
    pair (bound :: bounds) (answer :: answers) = ⟨bound, answer⟩ :: pair bounds answers := rfl

/-- Exchanges are the pairs of their bounds and their answers. -/
theorem pair_map (exchanges : List Exchange) :
    pair (exchanges.map Exchange.bound) (exchanges.map Exchange.answer) = exchanges := by
  induction exchanges with
  | nil => rfl
  | cons exchange exchanges ih => rw [List.map_cons, List.map_cons, pair_cons, ih]

/-- Pairing keeps the bounds when there is an answer for each. -/
theorem map_bound_pair {bounds answers : List Nat} (lengths : answers.length = bounds.length) :
    (pair bounds answers).map Exchange.bound = bounds := by
  induction bounds generalizing answers with
  | nil => rfl
  | cons bound bounds ih =>
      cases answers with
      | nil => simp at lengths
      | cons answer answers =>
          simp only [pair_cons, List.map_cons, ih (Nat.succ.inj lengths)]

/-- Answers below their bounds make exchanges that are kept. -/
theorem kept_of_mem_pair {bounds answers : List Nat}
    (below : List.Forall₂ (· < ·) answers bounds) {exchange : Exchange}
    (member : exchange ∈ pair bounds answers) : exchange.Kept := by
  induction below with
  | nil => simp [pair] at member
  | cons first _ ih =>
      rcases List.mem_cons.mp member with rfl | later
      · exact first
      · exact ih later

/-- Reversing the bounds and the answers reverses the exchanges. -/
theorem pair_reverse {bounds answers : List Nat} (lengths : answers.length = bounds.length) :
    pair bounds.reverse answers.reverse = (pair bounds answers).reverse :=
  (List.reverse_zipWith lengths.symm).symm

end Exchange

namespace RandomSource

variable {σ : Type v} [RandomSource σ]

/-- The exchanges with a source that is asked for the bounds of a list in turn. -/
def answerAll : σ -> List Nat -> List Exchange
  | _, [] => []
  | state, bound :: bounds =>
      ⟨bound, (draw state bound).1⟩ :: answerAll (draw state bound).2 bounds

/-- The state of a source that was asked for the bounds of a list in turn. -/
def after : σ -> List Nat -> σ
  | state, [] => state
  | state, bound :: bounds => after (draw state bound).2 bounds

@[simp]
theorem map_bound_answerAll (state : σ) (bounds : List Nat) :
    (answerAll state bounds).map Exchange.bound = bounds := by
  induction bounds generalizing state with
  | nil => rfl
  | cons bound bounds ih => simp [answerAll, ih]

theorem length_answerAll (state : σ) (bounds : List Nat) :
    (answerAll state bounds).length = bounds.length := by
  rw [← List.length_map Exchange.bound, map_bound_answerAll]

/-- What is asked later cannot change the answers before it. -/
theorem answerAll_append (state : σ) (first second : List Nat) :
    answerAll state (first ++ second) =
      answerAll state first ++ answerAll (after state first) second := by
  induction first generalizing state with
  | nil => rfl
  | cons bound first ih => simp [answerAll, after, ih]

/-- The exchanges for the first bounds of a list are the first exchanges. -/
theorem answerAll_initial (state : σ) {first bounds : List Nat} (initial : first <+: bounds) :
    answerAll state first <+: answerAll state bounds := by
  obtain ⟨second, rfl⟩ := initial
  rw [answerAll_append]
  exact List.prefix_append _ _

end RandomSource

namespace Drawing

variable {α β : Type u} {σ : Type v} [RandomSource σ]

/-- The requests a run makes of a source, each with the answer it gets. -/
def transcript : Drawing α -> σ -> List Exchange
  | .done _, _ => []
  | .ask bound next, state =>
      let (answer, state) := RandomSource.draw state bound
      ⟨bound, answer⟩ :: (next answer).transcript state

@[simp]
theorem transcript_done (value : α) (state : σ) : (done value).transcript state = [] := rfl

@[simp]
theorem transcript_ask (bound : Nat) (next : Nat -> Drawing α) (state : σ) :
    (ask bound next).transcript state =
      ⟨bound, (RandomSource.draw state bound).1⟩ ::
        (next (RandomSource.draw state bound).1).transcript (RandomSource.draw state bound).2 :=
  rfl

/-- Mapping the value changes no request. -/
@[simp]
theorem transcript_map (transform : α -> β) (drawing : Drawing α) (state : σ) :
    (drawing.map transform).transcript state = drawing.transcript state := by
  induction drawing generalizing state with
  | done value => rfl
  | ask bound next ih => simp [map, ih]

/-- Two transformations of the value are one. -/
theorem map_map {γ : Type u} (second : β -> γ) (first : α -> β) (drawing : Drawing α) :
    (drawing.map first).map second = drawing.map (second ∘ first) := by
  induction drawing with
  | done value => rfl
  | ask bound next ih =>
      simp only [map, ask.injEq, true_and]
      exact funext ih

/-- The answers of a run are those the source gives to the bounds asked for. -/
theorem answerAll_transcript (drawing : Drawing α) (state : σ) :
    RandomSource.answerAll state ((drawing.transcript state).map Exchange.bound) =
      drawing.transcript state := by
  induction drawing generalizing state with
  | done value => rfl
  | ask bound next ih => simp [RandomSource.answerAll, ih]

/-- A run that asks for the first bounds of a list gets the first of the answers. -/
theorem transcript_initial {drawing : Drawing α} {state : σ} {bounds : List Nat}
    (asked : (drawing.transcript state).map Exchange.bound <+: bounds) :
    drawing.transcript state <+: RandomSource.answerAll state bounds := by
  rw [← answerAll_transcript]
  exact RandomSource.answerAll_initial state asked

/-- A run takes from its source the draws of its transcript and no others. -/
theorem after_transcript (drawing : Drawing α) (state : σ) :
    RandomSource.after state ((drawing.transcript state).map Exchange.bound) =
      (drawing.run state).2 := by
  induction drawing generalizing state with
  | done value => rfl
  | ask bound next ih => simp [RandomSource.after, ih]

/-- A list answers every request of a computation with a number below the bound
asked for, and holds nothing else. -/
inductive Honoured : Drawing α -> List Nat -> Prop where
  | done {value : α} : Honoured (.done value) []
  | ask {bound : Nat} {next : Nat -> Drawing α} {answer : Nat} {answers : List Nat}
      (below : answer < bound) (rest : Honoured (next answer) answers) :
      Honoured (.ask bound next) (answer :: answers)

/-- The answers of a source that kept its promise throughout a run. -/
theorem honoured_of_kept (drawing : Drawing α) (state : σ)
    (kept : ∀ exchange ∈ drawing.transcript state, exchange.Kept) :
    drawing.Honoured ((drawing.transcript state).map Exchange.answer) := by
  induction drawing generalizing state with
  | done value => exact .done
  | ask bound next ih =>
      rw [transcript_ask, List.forall_mem_cons] at kept
      exact .ask kept.1 (ih _ _ kept.2)

/-- Mapping the value changes nothing about the answers that can be given. -/
theorem honoured_map_iff (transform : α -> β) (drawing : Drawing α) (answers : List Nat) :
    (drawing.map transform).Honoured answers ↔ drawing.Honoured answers := by
  induction drawing generalizing answers with
  | done value => exact ⟨fun | .done => .done, fun | .done => .done⟩
  | ask bound next ih =>
      constructor
      · intro honoured
        cases honoured with
        | ask below rest => exact .ask below ((ih _ _).mp rest)
      · intro honoured
        cases honoured with
        | ask below rest => exact .ask below ((ih _ _).mpr rest)

end Drawing

namespace ScriptedSource

/-- A script answers from the place that has been reached in it. -/
theorem answerAll_eq_pair (source : ScriptedSource) (bounds : List Nat)
    (enough : source.consumed + bounds.length ≤ source.script.size) :
    RandomSource.answerAll source bounds =
      Exchange.pair bounds (source.script.toList.drop source.consumed) := by
  induction bounds generalizing source with
  | nil => rfl
  | cons bound bounds ih =>
      have inside : source.consumed < source.script.size := by
        simp only [List.length_cons] at enough
        omega
      have answer : answerAt source.script source.consumed = source.script[source.consumed] := by
        simp [answerAt, Nat.mod_eq_of_lt inside, inside]
      rw [List.drop_eq_getElem_cons (by simpa using inside), Exchange.pair_cons,
        RandomSource.answerAll, draw_answer, draw_state, answer, Array.getElem_toList,
        ih _ (by simp only [List.length_cons] at enough ⊢; omega)]

/-- A fresh script gives its numbers to as many requests, one to each. -/
theorem answerAll_start {answers bounds : List Nat} (lengths : answers.length = bounds.length) :
    RandomSource.answerAll (start answers.toArray) bounds = Exchange.pair bounds answers := by
  rw [answerAll_eq_pair _ _ (by simp [start, lengths])]
  simp [start]

end ScriptedSource

end CardShuffle
