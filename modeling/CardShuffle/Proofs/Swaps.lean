import CardShuffle.Proofs.Transcript
import Mathlib.Algebra.BigOperators.Group.List.Basic
import Mathlib.Algebra.Group.End

/-!
# Sequences of swaps

An exchange with a source stands for a swap: the last position of the range that
was asked for changes places with the position that was answered. A sequence of
swaps that stay inside an array rearranges it by one permutation of positions
(`getElem?_swaps`), the product of the transpositions. Every swap undoes itself, so
the reversed sequence belongs to the inverse permutation (`rearrangement_reverse`)
and restores the array (`swaps_reverse`).
-/

namespace CardShuffle

universe u

variable {α : Type u}

namespace Exchange

/-- Let the last position of the range and the position answered change places. -/
def swap (exchange : Exchange) (items : Array α) : Array α :=
  items.swapIfInBounds (exchange.bound - 1) exchange.answer

/-- The permutation of positions that the swap makes. -/
def transposition (exchange : Exchange) : Equiv.Perm Nat :=
  Equiv.swap (exchange.bound - 1) exchange.answer

/-- The answer keeps its bound, and the range lies inside a number of positions. -/
structure Fits (exchange : Exchange) (size : Nat) : Prop where
  kept : exchange.Kept
  within : exchange.bound ≤ size

@[simp]
theorem size_swap (exchange : Exchange) (items : Array α) :
    (exchange.swap items).size = items.size :=
  Array.size_swapIfInBounds

/-- A swap keeps every item, wherever its positions are. -/
theorem perm_swap (exchange : Exchange) (items : Array α) : (exchange.swap items).Perm items := by
  unfold swap
  rw [Array.swapIfInBounds_def]
  split
  · split
    · exact Array.swap_perm _ _
    · exact .refl _
  · exact .refl _

/-- A swap inside the array is its transposition of positions. -/
theorem getElem?_swap {exchange : Exchange} {items : Array α} (fits : exchange.Fits items.size)
    (position : Nat) :
    (exchange.swap items)[position]? = items[exchange.transposition position]? := by
  have below : exchange.answer < exchange.bound := fits.kept
  have within := fits.within
  have lastInside : exchange.bound - 1 < items.size := by omega
  have answerInside : exchange.answer < items.size := by omega
  rw [swap, Array.swapIfInBounds_def, dif_pos lastInside, dif_pos answerInside,
    Array.getElem?_swap, transposition]
  by_cases atAnswer : exchange.answer = position
  · rw [if_pos atAnswer, ← atAnswer, Equiv.swap_apply_right, Array.getElem?_eq_getElem lastInside]
  · by_cases atLast : exchange.bound - 1 = position
    · rw [if_neg atAnswer, if_pos atLast, ← atLast, Equiv.swap_apply_left,
        Array.getElem?_eq_getElem answerInside]
    · rw [if_neg atAnswer, if_neg atLast,
        Equiv.swap_apply_of_ne_of_ne (Ne.symm atLast) (Ne.symm atAnswer)]

/-- The last position of the range gets what stood at the position answered. -/
theorem getElem?_swap_last {exchange : Exchange} {items : Array α}
    (fits : exchange.Fits items.size) :
    (exchange.swap items)[exchange.bound - 1]? = items[exchange.answer]? := by
  rw [getElem?_swap fits, transposition, Equiv.swap_apply_left]

/-- A swap leaves what stands beyond its range. -/
theorem getElem?_swap_of_le {exchange : Exchange} (kept : exchange.Kept) {position : Nat}
    (beyond : exchange.bound ≤ position) (items : Array α) :
    (exchange.swap items)[position]? = items[position]? := by
  have below : exchange.answer < exchange.bound := kept
  by_cases inside : position < items.size
  · rw [Array.getElem?_eq_getElem (by rwa [size_swap]), Array.getElem?_eq_getElem inside]
    congr 1
    exact Array.getElem_swapIfInBounds_of_ne_of_ne (by omega) (by omega) _
  · rw [Array.getElem?_eq_none (by rw [size_swap]; omega), Array.getElem?_eq_none (by omega)]

/-- The swaps of a list stay inside when the list is reversed. -/
theorem fits_reverse {exchanges : List Exchange} {size : Nat}
    (fit : ∀ exchange ∈ exchanges, exchange.Fits size) :
    ∀ exchange ∈ exchanges.reverse, exchange.Fits size :=
  fun exchange member => fit exchange (List.mem_reverse.mp member)

/-- A swap inside an initial part leaves the rest alone. -/
theorem swap_append {exchange : Exchange} {items : Array α} (fits : exchange.Fits items.size)
    (rest : Array α) : exchange.swap (items ++ rest) = exchange.swap items ++ rest := by
  have below : exchange.answer < exchange.bound := fits.kept
  have within := fits.within
  apply Array.ext
  · simp
  · intro position _ _
    simp only [swap, Array.getElem_append, Array.getElem_swapIfInBounds, Array.size_append,
      Array.size_swapIfInBounds]
    grind

end Exchange

namespace Shuffle

/-- Make the swaps of a list of exchanges, the first exchange first. -/
def swaps (exchanges : List Exchange) (items : Array α) : Array α :=
  exchanges.foldl (fun items exchange => exchange.swap items) items

/-- The permutation of positions that a list of exchanges makes. -/
def rearrangement (exchanges : List Exchange) : Equiv.Perm Nat :=
  (exchanges.map Exchange.transposition).prod

@[simp]
theorem swaps_nil (items : Array α) : swaps [] items = items := rfl

@[simp]
theorem swaps_cons (exchange : Exchange) (exchanges : List Exchange) (items : Array α) :
    swaps (exchange :: exchanges) items = swaps exchanges (exchange.swap items) := rfl

@[simp]
theorem size_swaps (exchanges : List Exchange) (items : Array α) :
    (swaps exchanges items).size = items.size := by
  induction exchanges generalizing items with
  | nil => rfl
  | cons exchange exchanges ih => rw [swaps_cons, ih, Exchange.size_swap]

/-- Swaps keep every item. -/
theorem perm_swaps (exchanges : List Exchange) (items : Array α) :
    (swaps exchanges items).Perm items := by
  induction exchanges generalizing items with
  | nil => exact .refl _
  | cons exchange exchanges ih => exact (ih _).trans (exchange.perm_swap items)

/-- Swaps inside an array rearrange its positions. The transposition of the last
swap is applied to a position first. -/
theorem getElem?_swaps {exchanges : List Exchange} {items : Array α}
    (fit : ∀ exchange ∈ exchanges, exchange.Fits items.size) (position : Nat) :
    (swaps exchanges items)[position]? = items[rearrangement exchanges position]? := by
  induction exchanges generalizing items with
  | nil => rfl
  | cons exchange exchanges ih =>
      obtain ⟨first, others⟩ := List.forall_mem_cons.mp fit
      rw [swaps_cons, ih (by simpa using others), Exchange.getElem?_swap first]
      rfl

/-- The reversed list of exchanges makes the inverse permutation. -/
theorem rearrangement_reverse (exchanges : List Exchange) :
    rearrangement exchanges.reverse = (rearrangement exchanges)⁻¹ := by
  have involutive : (fun permutation : Equiv.Perm Nat => permutation⁻¹) ∘
      Exchange.transposition = Exchange.transposition :=
    funext fun exchange => Equiv.swap_inv _ _
  rw [rearrangement, rearrangement, List.prod_inv_reverse, List.map_map, involutive,
    List.map_reverse]

/-- The same swaps backwards restore the array. -/
theorem swaps_reverse {exchanges : List Exchange} {items : Array α}
    (fit : ∀ exchange ∈ exchanges, exchange.Fits items.size) :
    swaps exchanges.reverse (swaps exchanges items) = items := by
  apply Array.ext_getElem?
  intro position
  have fitBack : ∀ exchange ∈ exchanges.reverse,
      exchange.Fits (swaps exchanges items).size := by
    rw [size_swaps]
    exact Exchange.fits_reverse fit
  rw [getElem?_swaps fitBack, getElem?_swaps fit, rearrangement_reverse,
    ← Equiv.Perm.mul_apply, mul_inv_cancel, Equiv.Perm.one_apply]

/-- Swaps backwards lead back. -/
theorem swaps_reverse_eq_iff {exchanges : List Exchange} {items target : Array α}
    (fit : ∀ exchange ∈ exchanges, exchange.Fits items.size) :
    swaps exchanges.reverse items = target ↔ swaps exchanges target = items := by
  constructor
  · rintro rfl
    have restored := swaps_reverse (Exchange.fits_reverse fit)
    rwa [List.reverse_reverse] at restored
  · rintro rfl
    rw [size_swaps] at fit
    exact swaps_reverse fit

/-- Swaps below a position leave what stands there. -/
theorem getElem?_swaps_of_le {exchanges : List Exchange} {limit position : Nat}
    (fit : ∀ exchange ∈ exchanges, exchange.Fits limit) (beyond : limit ≤ position)
    (items : Array α) : (swaps exchanges items)[position]? = items[position]? := by
  induction exchanges generalizing items with
  | nil => rfl
  | cons exchange exchanges ih =>
      obtain ⟨first, others⟩ := List.forall_mem_cons.mp fit
      rw [swaps_cons, ih others,
        Exchange.getElem?_swap_of_le first.kept (first.within.trans beyond)]

end Shuffle

end CardShuffle
