import CardShuffle.Proofs.Recordings

/-!
# Laws of histograms

Whatever is recorded and merged, a histogram of items that can be analysed is the tally of
the orders that led to it (`Recording.Makes.eq_tally`). So its counts add up to its trials,
and none of them is above the trials. Merging is concatenation of the orders
(`merge?_tally_eq`): it is commutative, since a tally does not depend on the sequence of the
orders, associative, and does nothing with an empty histogram. Neither recording nor merging
ends for another reason than that the trials would be no word (`Recording.histogram_laws`).
-/

namespace CardShuffle

open scoped Nat

namespace Histogram

/-- A histogram is had for the numbers of items that can be analysed, and it is empty. -/
theorem ofItems_eq_ok_iff {items : Nat} {histogram : Histogram} :
    ofItems items = .ok histogram ↔
      (1 ≤ items ∧ items ≤ maximumItems) ∧ histogram = empty items := by
  unfold ofItems checkItems
  split_ifs with refused
  · simp only [Except.map, reduceCtorEq, false_iff]
    omega
  · have accepted : 1 ≤ items ∧ items ≤ maximumItems := by omega
    simp [Except.map, accepted, eq_comm]

variable {items : Nat} {orders others : List (List Nat)}

/-- An empty histogram that is merged into a tally changes nothing. -/
theorem merge?_tally_empty (word : orders.length < Word.limit) :
    (tally items orders).merge? (empty items) = some (tally items orders) := by
  rw [← tally_nil, merge?_tally (by simpa using word), List.append_nil]

/-- The order of two tallies does not matter when they are merged. -/
theorem merge?_tally_comm :
    (tally items orders).merge? (tally items others) =
      (tally items others).merge? (tally items orders) := by
  rw [merge?_tally_eq, merge?_tally_eq, Nat.add_comm, tally_perm items List.perm_append_comm]

/-- Of three tallies, either two that stand side by side may be merged first. -/
theorem merge?_tally_assoc {more : List (List Nat)} :
    ((tally items orders).merge? (tally items others)).bind (·.merge? (tally items more)) =
      ((tally items others).merge? (tally items more)).bind (tally items orders).merge? := by
  -- Both sides have a value exactly when all orders together are a word.
  have first : ((tally items orders).merge? (tally items others)).bind
        (·.merge? (tally items more)) =
      if orders.length + others.length + more.length < Word.limit then
        some (tally items (orders ++ others ++ more)) else none := by
    rw [merge?_tally_eq]
    by_cases room : orders.length + others.length < Word.limit
    · rw [if_pos room, Option.bind_some, merge?_tally_eq, List.length_append]
    · rw [if_neg room, if_neg (by omega), Option.bind_none]
  have last : ((tally items others).merge? (tally items more)).bind (tally items orders).merge? =
      if orders.length + (others.length + more.length) < Word.limit then
        some (tally items (orders ++ (others ++ more))) else none := by
    rw [merge?_tally_eq]
    by_cases room : others.length + more.length < Word.limit
    · rw [if_pos room, Option.bind_some, merge?_tally_eq, List.length_append]
    · rw [if_neg room, if_neg (by omega), Option.bind_none]
  rw [first, last, List.append_assoc, Nat.add_assoc]

end Histogram

namespace Recording

/-- A number of items can be analysed, each order that was recorded has as many entries,
and the recording has led to a histogram. -/
structure Makes (items : Nat) (recording : Recording) (histogram : Histogram) : Prop where
  opened : Histogram.ofItems items = .ok (.empty items)
  lengths : ∀ order ∈ recording.orders, order.length = items
  made : recording.histogram? items = some histogram

namespace Makes

variable {items : Nat} {recording : Recording} {histogram : Histogram}

/-- There are few items. -/
theorem few (makes : recording.Makes items histogram) : items ≤ 8 :=
  (Histogram.ofItems_eq_ok_iff.mp makes.opened).1.2

/-- The histogram is the tally of the orders that were recorded, and their number is a
word. -/
theorem eq_tally (makes : recording.Makes items histogram) :
    recording.orders.length < Word.limit ∧ histogram = .tally items recording.orders := by
  have few := makes.few
  have made := makes.made
  rw [recording.histogram?_eq (by omega) makes.lengths, Option.ite_none_right_eq_some] at made
  exact ⟨made.1, (Option.some.inj made.2).symm⟩

/-- There is a count for each permutation. -/
theorem size_counts (makes : recording.Makes items histogram) :
    histogram.counts.size = items ! := by
  rw [makes.eq_tally.2, Histogram.size_counts_tally]

/-- The trials are the orders that were recorded. -/
theorem trials_eq (makes : recording.Makes items histogram) :
    histogram.trials = recording.orders.length := by
  rw [makes.eq_tally.2]
  rfl

/-- The counts add up to the trials. -/
theorem sum_counts (makes : recording.Makes items histogram) :
    histogram.counts.toList.sum = histogram.trials := by
  rw [makes.trials_eq, makes.eq_tally.2, Histogram.sum_counts_tally makes.lengths]

/-- The count at a rank is the number of orders recorded that have it. -/
theorem getElem?_counts (makes : recording.Makes items histogram) {rank : Nat}
    (inside : rank < items !) :
    histogram.counts[rank]? =
      some (recording.orders.countP fun order => Ranking.rank? order = some rank) := by
  have few := makes.few
  rw [makes.eq_tally.2, Histogram.getElem?_counts_tally _ inside, Histogram.occurrences,
    List.count, List.countP_map]
  congr 1
  apply List.countP_congr
  intro order member
  have length := makes.lengths order member
  have ranked : Ranking.rank? order = some (Ranking.rank order) :=
    Ranking.rank?_of_le (by omega)
  simp [ranked]

/-- No count is above the trials. -/
theorem count_le (makes : recording.Makes items histogram) (rank : Nat) :
    histogram.count rank ≤ histogram.trials := by
  rw [makes.trials_eq, Histogram.count, Array.getD_eq_getD_getElem?]
  by_cases inside : rank < (items !)
  · rw [makes.getElem?_counts inside]
    exact List.countP_le_length
  · rw [Array.getElem?_eq_none (by rw [makes.size_counts]; omega)]
    exact Nat.zero_le _

end Makes

/-- Let a histogram be made of a number of items that can be analysed by recording any
orders of as many entries and by merging. It has a count for each permutation, the count
at a rank is the number of orders recorded that have it, and the counts add up to the
trials, so that none is above them. Any order of as many entries has a rank with a count,
and it is recorded unless the trials are the largest word. Another such histogram is merged
in exactly when the trials together are a word, the result does not depend on which of the
two is merged into the other, and of three either two may be merged first. An empty
histogram on either side changes nothing. -/
theorem histogram_laws {items : Nat} {recording : Recording} {histogram : Histogram}
    (makes : recording.Makes items histogram) :
    histogram.counts.size = items ! ∧
      (∀ rank < items !, histogram.counts[rank]? =
        some (recording.orders.countP fun order => Ranking.rank? order = some rank)) ∧
      histogram.counts.toList.sum = histogram.trials ∧
      (∀ rank, histogram.count rank ≤ histogram.trials) ∧
      (∀ order : List Nat, order.length = items →
        (∃ rank < items !, Ranking.rank? order = some rank) ∧
        (histogram.record? order = none ↔ histogram.trials = Word.limit - 1)) ∧
      histogram.merge? (.empty items) = some histogram ∧
      (Histogram.empty items).merge? histogram = some histogram ∧
      ∀ (second : Recording) (other : Histogram), second.Makes items other →
        (histogram.merge? other = none ↔ Word.limit ≤ histogram.trials + other.trials) ∧
        histogram.merge? other = other.merge? histogram ∧
        ∀ (third : Recording) (last : Histogram), third.Makes items last →
          (histogram.merge? other).bind (·.merge? last) =
            (other.merge? last).bind histogram.merge? := by
  have few := makes.few
  obtain ⟨word, tally⟩ := makes.eq_tally
  have trials := makes.trials_eq
  refine ⟨makes.size_counts, fun rank => makes.getElem?_counts, makes.sum_counts, makes.count_le,
    ?_, ?_, ?_, ?_⟩
  · intro order length
    refine ⟨⟨Ranking.rank order, length ▸ Ranking.rank_lt_factorial order,
      Ranking.rank?_of_le (by omega)⟩, ?_⟩
    rw [trials, tally, Histogram.record?_tally_eq (by omega) length, ite_eq_right_iff]
    simp only [reduceCtorEq, imp_false]
    omega
  · rw [tally, Histogram.merge?_tally_empty word]
  · rw [tally, ← Histogram.tally_nil, Histogram.merge?_tally_comm, Histogram.tally_nil,
      Histogram.merge?_tally_empty word]
  · intro second other makesOther
    obtain ⟨-, tallyOther⟩ := makesOther.eq_tally
    refine ⟨?_, ?_, ?_⟩
    · rw [trials, makesOther.trials_eq, tally, tallyOther, Histogram.merge?_tally_eq]
      simp
    · rw [tally, tallyOther, Histogram.merge?_tally_comm]
    · intro third last makesLast
      obtain ⟨-, tallyLast⟩ := makesLast.eq_tally
      rw [tally, tallyOther, tallyLast, Histogram.merge?_tally_assoc]

/-- An order is recorded and a list of two equal entries, which has the rank of the sorted
order, and a histogram that has seen the sorted order is merged in. -/
theorem histogram_laws_two_items :
    let first : Recording := .record (.record .empty [1, 0]) [7, 7]
    let second : Recording := .merge (.record .empty [0, 1]) .empty
    let histogram : Histogram := ⟨2, #[1, 1], 2⟩
    let other : Histogram := ⟨2, #[1, 0], 1⟩
    first.Makes 2 histogram ∧ second.Makes 2 other ∧
      first.orders.countP (fun order => Ranking.rank? order = some 0) = 1 ∧
      histogram.record? [1, 0] ≠ none ∧ histogram.merge? other ≠ none ∧
      histogram.merge? other = other.merge? histogram ∧
      (histogram.merge? other).bind (·.merge? histogram) =
        (other.merge? histogram).bind histogram.merge? := by
  intro first second histogram other
  have makes : first.Makes 2 histogram := ⟨rfl, by decide, by decide⟩
  have makesOther : second.Makes 2 other := ⟨rfl, by decide, by decide⟩
  obtain ⟨-, counts, -, -, records, -, -, merges⟩ := histogram_laws makes
  obtain ⟨mergesUnless, commutes, associates⟩ := merges second other makesOther
  have counted : some 1 = some (first.orders.countP fun order => Ranking.rank? order = some 0) :=
    counts 0 (by decide)
  have recorded := (records [1, 0] rfl).2
  refine ⟨makes, makesOther, (Option.some.inj counted).symm, ?_, ?_, commutes,
    associates first histogram makes⟩
  · rw [ne_eq, recorded]
    decide
  · rw [ne_eq, mergesUnless]
    decide

end Recording

end CardShuffle
