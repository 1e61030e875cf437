import CardShuffle.Proofs.Lexicographic
import CardShuffle.Proofs.Tally

/-!
# Recorded histograms

A `Recording` is a tree of empty histograms, orders that are recorded into a histogram
and merges of two histograms. Whatever the tree, the histogram is the tally of all its
orders from left to right, and there is one exactly when their number is a word
(`histogram?_eq`). When the orders are permutations, the count at the rank of one of
them is the number of times it was recorded (`occurrences_rank`).
-/

namespace CardShuffle.Histogram

/-! ## Where recording and merging end -/

variable {items : Nat} {orders others : List (List Nat)}

/-- An order is recorded into a tally as long as the number of orders is a word. -/
theorem record?_tally_eq (few : items ≤ 20) {order : List Nat} (length : order.length = items) :
    (tally items orders).record? order =
      if orders.length + 1 < Word.limit then some (tally items (orders ++ [order])) else none := by
  split_ifs with room
  · exact record?_tally orders few length room
  · have trials : Word.add? (tally items orders).trials 1 = none :=
      Word.add?_eq_none_iff.mpr (Nat.le_of_not_lt room)
    simp only [record?, trials, Option.bind_eq_bind, Option.bind_none, Option.bind_fun_none,
      ite_self]

/-- Two tallies are merged as long as the number of orders is a word. -/
theorem merge?_tally_eq :
    (tally items orders).merge? (tally items others) =
      if orders.length + others.length < Word.limit then some (tally items (orders ++ others))
      else none := by
  split_ifs with room
  · exact merge?_tally room
  · have trials : Word.add? (tally items orders).trials (tally items others).trials = none :=
      Word.add?_eq_none_iff.mpr (Nat.le_of_not_lt room)
    simp only [merge?, trials, Option.bind_eq_bind, Option.bind_none, Option.bind_fun_none,
      ite_self]

/-! ## Permutations -/

/-- Among permutations of the same numbers only equal ones share a count. -/
theorem occurrences_rank {numbers order : List Nat}
    (permutations : ∀ other ∈ orders, other.Perm numbers) (permutation : order.Perm numbers) :
    occurrences orders (Ranking.rank order) = orders.count order := by
  rw [occurrences, List.count, List.countP_map, List.count]
  apply List.countP_congr
  intro other member
  have same : other.Perm order := (permutations other member).trans permutation.symm
  simpa using Ranking.rank_inj same

end CardShuffle.Histogram

namespace CardShuffle

/-- How a histogram was made. -/
inductive Recording where
  | empty
  /-- An order is recorded. -/
  | record (before : Recording) (order : List Nat)
  /-- Another histogram is merged in. -/
  | merge (first second : Recording)

namespace Recording

/-- The orders that were recorded, from left to right. -/
def orders : Recording -> List (List Nat)
  | empty => []
  | record before order => before.orders ++ [order]
  | merge first second => first.orders ++ second.orders

/-- The histogram that is made so, of orders of a number of items. -/
def histogram? (items : Nat) : Recording -> Option Histogram
  | empty => some (.empty items)
  | record before order => do
      let histogram ← before.histogram? items
      histogram.record? order
  | merge first second => do
      let histogram ← first.histogram? items
      let other ← second.histogram? items
      histogram.merge? other

/-- However orders were recorded and merged, the histogram is their tally, and there is
one exactly when the number of orders is a word. -/
theorem histogram?_eq {items : Nat} (few : items ≤ 20) {recording : Recording}
    (lengths : ∀ order ∈ recording.orders, order.length = items) :
    recording.histogram? items =
      if recording.orders.length < Word.limit then some (.tally items recording.orders)
      else none := by
  induction recording with
  | empty => simp [histogram?, orders, Histogram.tally_nil, Word.limit]
  | record before order ih =>
      obtain ⟨lengthsBefore, lengthOrder⟩ := List.forall_mem_append.mp lengths
      have length : order.length = items := lengthOrder order (List.mem_singleton_self order)
      rw [histogram?, ih lengthsBefore, orders, List.length_append, List.length_singleton]
      by_cases room : before.orders.length < Word.limit
      · rw [if_pos room]
        exact Histogram.record?_tally_eq few length
      · rw [if_neg room, if_neg (by omega)]
        rfl
  | merge first second ihFirst ihSecond =>
      obtain ⟨lengthsFirst, lengthsSecond⟩ := List.forall_mem_append.mp lengths
      rw [histogram?, ihFirst lengthsFirst, ihSecond lengthsSecond, orders, List.length_append]
      by_cases roomFirst : first.orders.length < Word.limit
      · rw [if_pos roomFirst]
        by_cases roomSecond : second.orders.length < Word.limit
        · rw [if_pos roomSecond]
          exact Histogram.merge?_tally_eq
        · have full : ¬ first.orders.length + second.orders.length < Word.limit := by omega
          rw [if_neg roomSecond, if_neg full]
          rfl
      · have full : ¬ first.orders.length + second.orders.length < Word.limit := by omega
        rw [if_neg roomFirst, if_neg full]
        rfl

end Recording

end CardShuffle
