import CardShuffle.Source.Seeded
import Mathlib.Logic.Function.Iterate
import Mathlib.Tactic.Common

/-!
# Draws of a seeded source are never cut off

A draw passes over the words of a keystream that are not accepted. Nothing is known of the
words, so its loop is bounded by the length of the keystream: as blocks are numbered with 64
bits, the words come again in the same order (`SeededSource.skip_turn_add`). When a word is
accepted at all, one is accepted before the bound of the loop is reached, and the draw takes
the first of these (`SeededSource.draw_eq_take`).
-/

namespace CardShuffle.SeededSource

/-- The source behind so many words. -/
def skip (count : Nat) (source : SeededSource) : SeededSource :=
  (fun source => source.next.2)^[count] source

/-- The next word is accepted. -/
def Accepts (bound : Nat) (source : SeededSource) : Prop :=
  source.next.1.toNat * bound % Word.limit ≤ zone bound

/-- The draw that takes the next word. -/
def take (bound : Nat) (source : SeededSource) : Nat × SeededSource :=
  (source.next.1.toNat * bound / Word.limit, source.next.2)

theorem skip_add (first second : Nat) (source : SeededSource) :
    skip (first + second) source = skip first (skip second source) :=
  Function.iterate_add_apply _ first second source

/-! ## The keystream comes round -/

/-- Behind the pending words the next block begins. -/
theorem skip_pending (source : SeededSource) :
    skip source.pending.length source = { source with pending := [] } := by
  obtain ⟨key, number, pending⟩ := source
  induction pending with
  | nil => rfl
  | cons word pending ih => exact ih

/-- Behind the eight words of a block the block with the next number begins. -/
theorem skip_block (key : Keystream.Key) (number : UInt64) :
    skip 8 ⟨key, number, []⟩ = ⟨key, number + 1, []⟩ := rfl

theorem skip_blocks (key : Keystream.Key) (number : UInt64) (count : Nat) :
    skip (8 * count) ⟨key, number, []⟩ = ⟨key, number + UInt64.ofNat count, []⟩ := by
  induction count with
  | zero => simp [skip]
  | succ count ih =>
      rw [Nat.mul_succ, Nat.add_comm, skip_add, ih, skip_block, UInt64.ofNat_add,
        ← UInt64.add_assoc]
      rfl

/-- From the start of a block on, the source is the same again after all blocks. -/
theorem skip_turn (key : Keystream.Key) (number : UInt64) :
    skip turn ⟨key, number, []⟩ = ⟨key, number, []⟩ := by
  have round : UInt64.ofNat UInt64.size = 0 := by decide
  rw [turn, skip_blocks, round, UInt64.add_zero]

/-- From behind the pending words on, a source is the same again after all blocks. -/
theorem skip_turn_add {source : SeededSource} {count : Nat}
    (behind : source.pending.length ≤ count) :
    skip (turn + count) source = skip count source := by
  obtain ⟨more, rfl⟩ := Nat.exists_eq_add_of_le' behind
  calc skip (turn + (more + source.pending.length)) source
      = skip (more + turn) (skip source.pending.length source) := by
        rw [← skip_add, Nat.add_left_comm, Nat.add_assoc]
    _ = skip more (skip source.pending.length source) := by
        rw [skip_add, skip_pending, skip_turn]
    _ = skip (more + source.pending.length) source := (skip_add more _ source).symm

/-! ## The first word that is accepted -/

/-- The loop ends at the first word that is accepted, as far as its patience reaches. -/
theorem below_eq_take {bound count patience : Nat} {source : SeededSource}
    (accepted : Accepts bound (skip count source))
    (passed : ∀ earlier < count, ¬ Accepts bound (skip earlier source))
    (enough : count ≤ patience) : below bound patience source = take bound (skip count source) := by
  induction count generalizing patience source with
  | zero =>
      cases patience with
      | zero => rfl
      | succ patience => exact if_pos accepted
  | succ count ih =>
      obtain ⟨patience, rfl⟩ := Nat.exists_eq_add_of_le' enough
      have first : ¬ Accepts bound source := passed 0 (Nat.succ_pos count)
      have later : ∀ earlier < count, ¬ Accepts bound (skip earlier source.next.2) :=
        fun earlier before => passed (earlier + 1) (Nat.succ_lt_succ before)
      calc below bound (patience + (count + 1)) source
          = below bound (patience + count) source.next.2 := if_neg first
        _ = take bound (skip count source.next.2) :=
            ih accepted later (Nat.le_add_left count patience)

/-- A draw takes the first word that is accepted, however many words stand before it. -/
theorem draw_eq_take {bound count : Nat} {source : SeededSource} (positive : 0 < bound)
    (accepted : Accepts bound (skip count source))
    (passed : ∀ earlier < count, ¬ Accepts bound (skip earlier source)) :
    RandomSource.draw source bound = take bound (skip count source) := by
  have enough : count ≤ source.patience := by
    by_contra late
    have round : source.pending.length + turn < count := Nat.lt_of_not_le late
    obtain ⟨earlier, rfl⟩ := Nat.exists_eq_add_of_le (show turn ≤ count by omega)
    -- The same word was there one turn before, and was passed over.
    rw [skip_turn_add (by omega)] at accepted
    exact passed earlier (Nat.lt_add_of_pos_left (by decide)) accepted
  have draw : RandomSource.draw source bound = below bound source.patience source :=
    if_neg (Nat.ne_of_gt positive)
  rw [draw]
  exact below_eq_take accepted passed enough

end CardShuffle.SeededSource
