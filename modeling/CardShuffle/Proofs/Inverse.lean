import CardShuffle.Proofs.Course

/-!
# The two forms undo each other

The swaps of the inside-out form on some draws are those of the in-place form on the
draws in reverse, made in the opposite order. On `0, 1, …, n - 1` a sequence of
swaps leaves the values of its permutation of positions
(`getElem?_swaps_range`), and the opposite order belongs to the inverse permutation.
So the two results are inverse to each other (`reversed_draws_invert`).
-/

namespace CardShuffle.Shuffle

universe u

variable {α : Type u}

/-- A shuffle in the inside-out form completes only with the sequence it built. -/
theorem writeBack_eq_ok_iff {items swapped : Array α} {draws : Nat}
    {built : Except OutOfRange (Array α × Nat)} :
    writeBack items built = ⟨swapped, .ok draws⟩ ↔ built = .ok (swapped, draws) := by
  cases built with
  | ok built => simp [writeBack, Prod.ext_iff]
  | error violation => simp [writeBack]

/-- Swaps of the numbers below a size leave the values of their permutation. -/
theorem getElem?_swaps_range {exchanges : List Exchange} {size : Nat}
    (fit : ∀ exchange ∈ exchanges, exchange.Fits size) {position : Nat}
    (inside : position < size) :
    (swaps exchanges (Array.range size))[position]? = some (rearrangement exchanges position) ∧
      rearrangement exchanges position < size := by
  have value : (swaps exchanges (Array.range size))[position]? =
      (Array.range size)[rearrangement exchanges position]? :=
    getElem?_swaps (by simpa using fit) position
  have present : position < (swaps exchanges (Array.range size)).size := by simpa using inside
  rw [Array.getElem?_range] at value
  by_cases below : rearrangement exchanges position < size
  · rw [if_pos below] at value
    exact ⟨value, below⟩
  · rw [if_neg below, Array.getElem?_eq_getElem present] at value
    cases value

/-- Swaps and the same swaps backwards make inverse orders of the numbers below a
size. -/
theorem swaps_range_inverse {exchanges : List Exchange} {size : Nat}
    (fit : ∀ exchange ∈ exchanges, exchange.Fits size) {position : Nat}
    (inside : position < size) :
    (swaps exchanges.reverse (Array.range size))[position]?.bind
      ((swaps exchanges (Array.range size))[·]?) = some position := by
  obtain ⟨back, backInside⟩ := getElem?_swaps_range (Exchange.fits_reverse fit) inside
  rw [back, Option.bind_some, (getElem?_swaps_range fit backInside).1, rearrangement_reverse,
    ← Equiv.Perm.mul_apply, mul_inv_cancel, Equiv.Perm.one_apply]

/-- Draws of which number `i` is at most `i` are below the rising bounds. -/
theorem below_schedule {size : Nat} {draws : List Nat} (count : draws.length = size - 1)
    (atMost : ∀ index (inside : index < draws.length), draws[index] ≤ index + 1) :
    List.Forall₂ (· < ·) draws (Variant.insideOut.schedule size) := by
  rw [List.forall₂_iff_get]
  refine ⟨by rw [Variant.length_schedule, count], ?_⟩
  intro index inside _
  have bound := atMost index inside
  simp only [List.get_eq_getElem, Variant.schedule, List.getElem_range']
  omega

/-- Let the draw number `i`, counted from one, be at most `i`, for one draw less than
there are items. The order that the inside-out form makes of `0, 1, …, n - 1` with
these draws, and the order that the in-place form makes with the same draws in
reverse, are inverse to each other. -/
theorem reversed_draws_invert {size : Nat} {draws : List Nat} (count : draws.length = size - 1)
    (atMost : ∀ index (inside : index < draws.length), draws[index] ≤ index + 1) :
    ∃ outward inward : Array Nat,
      ((insideOut (List.range size)).run (ScriptedSource.start draws.toArray)).1 =
          .ok (outward, size - 1) ∧
        ((inPlace (Array.range size)).run (ScriptedSource.start draws.reverse.toArray)).1 =
          ⟨inward, .ok (size - 1)⟩ ∧
        outward.size = size ∧ inward.size = size ∧
        ∀ position < size,
          inward[position]?.bind (outward[·]?) = some position ∧
            outward[position]?.bind (inward[·]?) = some position := by
  have below := below_schedule count atMost
  have belowBack : List.Forall₂ (· < ·) draws.reverse (Variant.durstenfeld.schedule size) :=
    List.forall₂_reverse_iff.mpr below
  let exchanges := Exchange.pair (Variant.insideOut.schedule size) draws
  have backwards : Exchange.pair (Variant.durstenfeld.schedule size) draws.reverse =
      exchanges.reverse := Exchange.pair_reverse below.length_eq
  have fit : ∀ exchange ∈ exchanges, exchange.Fits size := fits_pair below
  refine ⟨swaps exchanges (Array.range size), swaps exchanges.reverse (Array.range size),
    ?_, ?_, by simp, by simp, ?_⟩
  · have run := run_start .insideOut (Array.range size) (by simpa using below)
    rw [shuffle, Drawing.run_map, writeBack_eq_ok_iff] at run
    simpa using run
  · have run := run_start .durstenfeld (Array.range size) (by simpa using belowBack)
    simpa [shuffle, backwards] using run
  · intro position inside
    refine ⟨swaps_range_inverse fit inside, ?_⟩
    simpa using swaps_range_inverse (Exchange.fits_reverse fit) inside

/-- The two orders of four numbers from the draws 1, 0, 2. -/
theorem reversed_draws_invert_four :
    [1, 0, 2].length = 4 - 1 ∧
      (∀ index (inside : index < [1, 0, 2].length), [1, 0, 2][index] ≤ index + 1) ∧
      ∃ outward inward : Array Nat,
        ((insideOut (List.range 4)).run (ScriptedSource.start #[1, 0, 2])).1 = .ok (outward, 3) ∧
          ((inPlace (Array.range 4)).run (ScriptedSource.start #[2, 0, 1])).1 =
            ⟨inward, .ok 3⟩ ∧
          outward.size = 4 ∧ inward.size = 4 ∧
          ∀ position < 4,
            inward[position]?.bind (outward[·]?) = some position ∧
              outward[position]?.bind (inward[·]?) = some position :=
  have atMost : ∀ index (inside : index < [1, 0, 2].length), [1, 0, 2][index] ≤ index + 1 := by
    decide
  ⟨rfl, atMost, reversed_draws_invert rfl atMost⟩

end CardShuffle.Shuffle
