import CardShuffle.Drawing
import CardShuffle.Source.Keystream
import CardShuffle.Word

/-!
# A seeded source

Draws come from a keystream. A word of the stream times the bound is a number
of 128 bits; its high half is the draw. Words whose product has a low half above
the acceptance zone are passed over, so that every value below the bound is
equally likely. A draw is below its bound whatever the stream holds.

Block numbers have 64 bits, so a keystream starts again after its last block. A draw
that has passed over all of it would go on for ever; this is where it is cut off.
-/

namespace CardShuffle

/-- A place in the keystream of a key: the number of the next block, and the
words of the current block that have not been given out. -/
structure SeededSource where
  key : Keystream.Key
  number : UInt64 := 0
  pending : List UInt64 := []
  deriving Repr, DecidableEq

namespace SeededSource

/-- The start of the keystream of a seed. -/
def ofSeed (seed : Nat) : SeededSource :=
  { key := .ofSeed (UInt64.ofNat seed) }

/-- The next word of the stream. -/
def next (source : SeededSource) : UInt64 × SeededSource :=
  match source.pending with
  | word :: pending => (word, { source with pending })
  | [] =>
      match (source.key.block source.number).words with
      | word :: pending => (word, { source with number := source.number + 1, pending })
      | [] => (0, source)

/-- The largest low half that is accepted: the bound shifted until its highest
bit is the highest bit of a word, less one. -/
def zone (bound : Nat) : Nat :=
  (bound <<< (63 - bound.log2)) - 1

/-- The number of words in all blocks of a keystream: eight for each block number. -/
def turn : Nat := 8 * UInt64.size

/-- How many words one draw may pass over: those that are pending and all blocks. -/
def patience (source : SeededSource) : Nat :=
  source.pending.length + turn

/-- Draw below a positive bound, and pass over as many words as the patience allows. The
word behind them is taken as it is. -/
def below (bound : Nat) : (patience : Nat) -> SeededSource -> Nat × SeededSource
  | 0, source =>
      let (word, source) := source.next
      (word.toNat * bound / Word.limit, source)
  | patience + 1, source =>
      let (word, source) := source.next
      let product := word.toNat * bound
      if product % Word.limit ≤ zone bound then
        (product / Word.limit, source)
      else
        below bound patience source

instance : RandomSource SeededSource where
  draw source bound :=
    if bound = 0 then (0, source) else below bound source.patience source

private theorem high_half_lt (word : UInt64) {bound : Nat} (positive : 0 < bound) :
    word.toNat * bound / Word.limit < bound := by
  rw [Nat.div_lt_iff_lt_mul (by decide : 0 < Word.limit), Nat.mul_comm bound]
  exact Nat.mul_lt_mul_of_pos_right word.toNat_lt positive

/-- A draw is below its bound, whatever the keystream holds. -/
theorem below_lt {bound : Nat} (positive : 0 < bound) (patience : Nat)
    (source : SeededSource) : (below bound patience source).1 < bound := by
  induction patience generalizing source with
  | zero => exact high_half_lt _ positive
  | succ patience inductionHypothesis =>
      unfold below
      dsimp only
      split
      · exact high_half_lt _ positive
      · exact inductionHypothesis _

end SeededSource

end CardShuffle
