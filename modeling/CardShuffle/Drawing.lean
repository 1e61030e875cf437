/-!
# Computations that draw

A `Drawing` is a computation that asks for random numbers one at a time. Each
request names its bound, and what follows is a function of the answer, so the
computation is the tree of everything it may do. It never looks at where the
answers come from: `Drawing.run` answers it from a `RandomSource`, and several
computations may be answered in turns from one shared source.

A source may break its promise and answer at or above the bound. Nothing here
repairs such an answer; the computation that asked has to check it.
-/

namespace CardShuffle

universe u v

/-- A stateful source of draws. `draw state bound` answers a request for a
number below `bound` and gives the state that answers the next request. -/
class RandomSource (σ : Type u) where
  draw : σ -> Nat -> Nat × σ

/-- A computation of `α` that asks for bounded random numbers. -/
inductive Drawing (α : Type u) where
  /-- Nothing more is asked. -/
  | done (value : α)
  /-- Ask for a number below `bound` and continue with the answer. -/
  | ask (bound : Nat) (next : Nat -> Drawing α)

namespace Drawing

variable {α : Type u} {β : Type u}

/-- Answer every request from one source, in the order the requests are made. -/
def run {σ : Type v} [RandomSource σ] : Drawing α -> σ -> α × σ
  | .done value, state => (value, state)
  | .ask bound next, state =>
      let (answer, state) := RandomSource.draw state bound
      (next answer).run state

/-- Apply a function to the value of a computation. -/
def map (transform : α -> β) : Drawing α -> Drawing β
  | .done value => .done (transform value)
  | .ask bound next => .ask bound fun answer => (next answer).map transform

@[simp]
theorem run_done {σ : Type v} [RandomSource σ] (value : α) (state : σ) :
    (done value).run state = (value, state) := rfl

@[simp]
theorem run_ask {σ : Type v} [RandomSource σ] (bound : Nat) (next : Nat -> Drawing α)
    (state : σ) :
    (ask bound next).run state =
      (next (RandomSource.draw state bound).1).run (RandomSource.draw state bound).2 := rfl

/-- Mapping the value changes no request and no state of the source. -/
@[simp]
theorem run_map {σ : Type v} [RandomSource σ] (transform : α -> β) (drawing : Drawing α)
    (state : σ) :
    (drawing.map transform).run state =
      (transform (drawing.run state).1, (drawing.run state).2) := by
  induction drawing generalizing state with
  | done value => rfl
  | ask bound next inductionHypothesis => exact inductionHypothesis _ _

end Drawing

end CardShuffle
