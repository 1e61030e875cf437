import CardShuffle.Source.Fixed
import CardShuffle.Source.Scripted
import CardShuffle.Source.Seeded

/-!
# Sources of any kind

A program that chooses its source while it runs keeps it as a `Source`. Every
kind answers through its own `RandomSource` instance.
-/

namespace CardShuffle

/-- A source of one of the kinds this library has. -/
inductive Source where
  | fixed (source : FixedSource)
  | scripted (source : ScriptedSource)
  | seeded (source : SeededSource)
  deriving Repr, DecidableEq

namespace Source

/-- Draw from whichever source it is. -/
def draw : Source -> Nat -> Nat × Source
  | fixed source, bound =>
      let (answer, source) := RandomSource.draw source bound
      (answer, fixed source)
  | scripted source, bound =>
      let (answer, source) := RandomSource.draw source bound
      (answer, scripted source)
  | seeded source, bound =>
      let (answer, source) := RandomSource.draw source bound
      (answer, seeded source)

instance : RandomSource Source where
  draw := draw

end Source

end CardShuffle
