import CardShuffle.Drawing

/-!
# A fixed source

Every draw is one value reduced to the range asked for, so a fixed source keeps
its promise and never changes.
-/

namespace CardShuffle

/-- A source that always answers with the same value. -/
structure FixedSource where
  value : Nat
  deriving Repr, DecidableEq

namespace FixedSource

/-- The source that answers 0 to every request. -/
def first : FixedSource := ⟨0⟩

/-- The value reduced below the bound, or 0 when nothing lies below it. -/
def answer (source : FixedSource) (bound : Nat) : Nat :=
  if bound = 0 then 0 else source.value % bound

instance : RandomSource FixedSource where
  draw source bound := (source.answer bound, source)

end FixedSource

end CardShuffle
