import CardShuffle.Histogram
import CardShuffle.Proofs.Ranks
import Mathlib.Algebra.BigOperators.Group.Finset.Basic
import Mathlib.Algebra.GroupWithZero.Nat

/-!
# Histograms are tallies

A tally of a list of orders counts at every rank how many of them have it. Recording
an order and merging histograms keep tallies: the histogram after recording is the
tally with the order added (`record?_tally`), and merging two tallies gives the tally
of both lists (`merge?_tally`). Both have a value as long as the number of orders is a
word, because no count is above that number. A tally does not depend on the sequence
of the orders (`tally_perm`), so neither does any histogram made by recording and
merging.
-/

namespace CardShuffle.Histogram

open scoped Nat

/-- How many orders of a list have a rank. -/
def occurrences (orders : List (List Nat)) (rank : Nat) : Nat :=
  (orders.map Ranking.rank).count rank

/-- The histogram of a list of orders. -/
def tally (items : Nat) (orders : List (List Nat)) : Histogram :=
  { items
    counts := ((List.range (Ranking.factorial items)).map (occurrences orders)).toArray
    trials := orders.length }

@[simp]
theorem occurrences_append (orders others : List (List Nat)) (rank : Nat) :
    occurrences (orders ++ others) rank = occurrences orders rank + occurrences others rank := by
  rw [occurrences, List.map_append, List.count_append]
  rfl

/-- No more orders have a rank than there are orders. -/
theorem occurrences_le (orders : List (List Nat)) (rank : Nat) :
    occurrences orders rank ≤ orders.length := by
  rw [← List.length_map (f := Ranking.rank)]
  exact List.count_le_length

/-- One order has its own rank and no other. -/
theorem occurrences_singleton (order : List Nat) (rank : Nat) :
    occurrences [order] rank = if Ranking.rank order = rank then 1 else 0 := by
  simp [occurrences, List.count_singleton]

@[simp]
theorem size_counts_tally (items : Nat) (orders : List (List Nat)) :
    (tally items orders).counts.size = items ! := by
  simp [tally, Ranking.factorial_eq]

/-- The count of a tally at a rank is the number of orders that have it. -/
theorem getElem?_counts_tally {items rank : Nat} (orders : List (List Nat))
    (inside : rank < items !) :
    (tally items orders).counts[rank]? = some (occurrences orders rank) := by
  rw [← Ranking.factorial_eq] at inside
  simp [tally, inside]

/-- Nothing recorded is the tally of no orders. -/
theorem tally_nil (items : Nat) : tally items [] = empty items := by
  have zeros : occurrences [] = fun _ => 0 := rfl
  rw [tally, zeros, empty, List.map_const', List.length_range, List.toArray_replicate]
  rfl

/-- A tally does not depend on the sequence of the orders. -/
theorem tally_perm (items : Nat) {orders others : List (List Nat)} (same : orders.Perm others) :
    tally items orders = tally items others := by
  have counts : occurrences orders = occurrences others :=
    funext fun rank => (same.map Ranking.rank).count_eq rank
  rw [tally, tally, counts, same.length_eq]

/-- One more at the rank of an order is the count with the order added. -/
theorem setIfInBounds_counts_tally (items : Nat) (orders : List (List Nat)) (order : List Nat) :
    (tally items orders).counts.setIfInBounds (Ranking.rank order)
        (occurrences orders (Ranking.rank order) + 1) =
      (tally items (orders ++ [order])).counts := by
  apply Array.ext_getElem?
  intro rank
  rw [Array.getElem?_setIfInBounds, size_counts_tally]
  by_cases inside : rank < (items !)
  · rw [getElem?_counts_tally orders inside, getElem?_counts_tally _ inside, occurrences_append,
      occurrences_singleton]
    by_cases here : Ranking.rank order = rank
    · subst here
      rw [if_pos rfl, if_pos inside, if_pos rfl]
    · rw [if_neg here, if_neg here, Nat.add_zero]
  · have nothing : ∀ orders, (tally items orders).counts[rank]? = none := by
      intro orders
      exact Array.getElem?_eq_none (by rw [size_counts_tally]; omega)
    rw [nothing, nothing]
    by_cases here : Ranking.rank order = rank
    · rw [if_pos here, if_neg (here ▸ inside)]
    · rw [if_neg here]

/-- Recording an order adds it to a tally, as long as the number of orders is a word. -/
theorem record?_tally {items : Nat} (orders : List (List Nat)) {order : List Nat}
    (few : items ≤ 20) (length : order.length = items) (room : orders.length + 1 < Word.limit) :
    (tally items orders).record? order = some (tally items (orders ++ [order])) := by
  have ranked : Ranking.rank? order = some (Ranking.rank order) :=
    Ranking.rank?_of_le (length ▸ few)
  have found := getElem?_counts_tally orders (length ▸ Ranking.rank_lt_factorial order)
  have bound := occurrences_le orders (Ranking.rank order)
  have count : Word.add? (occurrences orders (Ranking.rank order)) 1 =
      some (occurrences orders (Ranking.rank order) + 1) :=
    Word.add?_eq_some_iff.mpr ⟨by omega, rfl⟩
  have trials : Word.add? (tally items orders).trials 1 = some (orders.length + 1) :=
    Word.add?_eq_some_iff.mpr ⟨room, rfl⟩
  rw [record?, show order.length = (tally items orders).items from length, if_pos rfl, ranked]
  simp only [Option.bind_eq_bind, Option.bind_some, found, count, trials,
    setIfInBounds_counts_tally]
  simp [tally]

/-- Adding counts place by place has a value when every sum is a word. -/
theorem addCounts?_map (places : List Nat) {left right : Nat -> Nat}
    (room : ∀ place, left place + right place < Word.limit) :
    addCounts? (places.map left) (places.map right) =
      some (places.map fun place => left place + right place) := by
  induction places with
  | nil => rfl
  | cons place places ih =>
      have sum : Word.add? (left place) (right place) = some (left place + right place) :=
        Word.add?_eq_some_iff.mpr ⟨room place, rfl⟩
      simp only [List.map_cons, addCounts?, sum, ih, Option.bind_eq_bind, Option.bind_some]
      rfl

/-- Merging two tallies gives the tally of both lists, as long as the number of orders
is a word. -/
theorem merge?_tally {items : Nat} {orders others : List (List Nat)}
    (room : orders.length + others.length < Word.limit) :
    (tally items orders).merge? (tally items others) = some (tally items (orders ++ others)) := by
  have sums : ∀ rank, occurrences orders rank + occurrences others rank < Word.limit := by
    intro rank
    have left := occurrences_le orders rank
    have right := occurrences_le others rank
    omega
  have counts := addCounts?_map (List.range (Ranking.factorial items)) sums
  have trials : Word.add? orders.length others.length = some (orders.length + others.length) :=
    Word.add?_eq_some_iff.mpr ⟨room, rfl⟩
  simp only [merge?, tally, if_true, counts, trials, Option.bind_eq_bind, Option.bind_some,
    List.length_append]
  simp only [Option.pure_def, Option.some.injEq, Histogram.mk.injEq, true_and, and_true]
  congr 1
  exact List.map_congr_left fun rank _ => (occurrences_append orders others rank).symm

/-- When all entries of a list are below a bound, the numbers below it occur in the list
as often as it is long. -/
theorem sum_count_range {bound : Nat} {values : List Nat}
    (below : ∀ value ∈ values, value < bound) :
    ∑ number ∈ Finset.range bound, values.count number = values.length := by
  have inside : ∀ value ∈ (values : Multiset Nat), value ∈ Finset.range bound :=
    fun value member => Finset.mem_range.mpr (below value member)
  simpa using Multiset.sum_count_eq_card inside

/-- The counts of a tally add up to the number of orders. -/
theorem sum_counts_tally {items : Nat} {orders : List (List Nat)}
    (lengths : ∀ order ∈ orders, order.length = items) :
    (tally items orders).counts.toList.sum = orders.length := by
  have below : ∀ rank ∈ orders.map Ranking.rank, rank < Ranking.factorial items := by
    intro rank member
    obtain ⟨order, ordered, rfl⟩ := List.mem_map.mp member
    rw [Ranking.factorial_eq, ← lengths order ordered]
    exact Ranking.rank_lt_factorial order
  have sum := sum_count_range below
  rw [List.length_map] at sum
  exact sum

end CardShuffle.Histogram
