import CardShuffle.Drawing

/-!
# A scripted source

A script is replayed as it stands, bounds or no bounds, and starts again when it
runs out. The source remembers every bound it was asked for, so a test can see
what a shuffle asked.
-/

namespace CardShuffle

/-- A script with the number of draws taken from it and the bounds asked for. -/
structure ScriptedSource where
  script : Array Nat
  consumed : Nat := 0
  bounds : Array Nat := #[]
  deriving Repr, DecidableEq

namespace ScriptedSource

/-- A script of which nothing has been drawn. -/
def start (script : Array Nat) : ScriptedSource := { script }

/-- The answer to draw number `index`, counted from 0. An empty script answers 0. -/
def answerAt (script : Array Nat) (index : Nat) : Nat :=
  script.getD (index % script.size) 0

instance : RandomSource ScriptedSource where
  draw source bound :=
    (answerAt source.script source.consumed,
      { source with
        consumed := source.consumed + 1
        bounds := source.bounds.push bound })

/-- A draw answers from the script at the number of draws taken before it. -/
@[simp]
theorem draw_answer (source : ScriptedSource) (bound : Nat) :
    (RandomSource.draw source bound).1 = answerAt source.script source.consumed := rfl

/-- A draw adds one to the count and its bound to the bounds. -/
@[simp]
theorem draw_state (source : ScriptedSource) (bound : Nat) :
    (RandomSource.draw source bound).2 =
      { source with
        consumed := source.consumed + 1
        bounds := source.bounds.push bound } := rfl

end ScriptedSource

end CardShuffle
