import CardShuffle.Proofs.DeckFormats
import Mathlib.Data.List.Sort

/-!
# Comparing decks

Two decks are compared by sorting the ids of both, and a deck is called sorted when no id
is above its neighbour. The ids of a deck that can be obtained are the numbers below its
size, which have one ascending order. So the comparison comes down to the sizes of the
decks, and the one sorted deck of a size is the one that is made in order
(`comparisons_come_down_to_sizes`).
-/

namespace CardShuffle.Deck

/-- No number is above its neighbour exactly when the list is sorted. -/
theorem ascending_iff {ids : List Nat} : ascending ids = true ↔ ids.SortedLE := by
  rw [List.sortedLE_iff_isChain]
  induction ids with
  | nil => simp [ascending]
  | cons first rest ih =>
      cases rest with
      | nil => simp [ascending]
      | cons second rest =>
          rw [ascending, Bool.and_eq_true, decide_eq_true_iff, ih, List.isChain_cons_cons]

/-- The numbers below a size have one ascending order. -/
theorem eq_range_of_sorted {ids : List Nat} {size : Nat} (sorted : ids.SortedLE)
    (same : ids.Perm (List.range size)) : ids = List.range size :=
  same.eq_of_sortedLE sorted (List.sortedLE_iff_pairwise.mpr List.pairwise_le_range)

variable {deck other : Deck}

/-- The ids of a complete deck, sorted, are the numbers below its size. -/
theorem Complete.mergeSort_ids (complete : deck.Complete) :
    deck.ids.mergeSort = List.range deck.size :=
  eq_range_of_sorted List.sortedLE_mergeSort
    ((List.mergeSort_perm _ _).trans complete.ids_perm)

/-- Complete decks hold the same cards exactly when they have the same size. -/
theorem Complete.isPermutationOf_iff (complete : deck.Complete) (completeOther : other.Complete) :
    deck.isPermutationOf other = true ↔ deck.size = other.size := by
  rw [isPermutationOf, complete.mergeSort_ids, completeOther.mergeSort_ids, Bool.and_eq_true,
    beq_iff_eq, beq_iff_eq]
  constructor
  · exact And.left
  · intro sizes
    exact ⟨sizes, by rw [sizes]⟩

/-- Complete decks with the same ids are the same. -/
theorem Complete.ext_ids (complete : deck.Complete) (completeOther : other.Complete)
    (ids : deck.ids = other.ids) : deck = other := by
  have made := complete.ofIds_ids
  rw [ids, completeOther.ofIds_ids] at made
  exact (Except.ok.inj made).symm

/-- A complete deck is sorted exactly when it is the deck of its size made in order. -/
theorem Complete.isSorted_iff (complete : deck.Complete) :
    deck.isSorted = true ↔ deck = sorted deck.size := by
  have ids : (sorted deck.size).ids = List.range deck.size := ids_sorted complete.size_le
  rw [isSorted, ascending_iff]
  constructor
  · intro ascends
    have made : (sorted deck.size).Complete := complete_of_ids_perm (ids ▸ .refl _) complete.size_le
    apply complete.ext_ids made
    rw [ids, eq_range_of_sorted ascends complete.ids_perm]
  · intro equal
    rw [equal, ids]
    exact List.sortedLE_iff_pairwise.mpr List.pairwise_le_range

/-- Decks that were obtained in any way, and shuffled any number of times however the
shuffles ended, hold the same cards exactly when they have the same size. Such a deck is
sorted exactly when it is the deck that is made of its size, so two of one size that are
both sorted are equal. -/
theorem comparisons_come_down_to_sizes (obtained : deck.Obtainable)
    (obtainedOther : other.Obtainable) :
    (deck.isPermutationOf other = true ↔ deck.size = other.size) ∧
      (deck.isSorted = true ↔ ofSize deck.size = .ok deck) ∧
      (deck.size = other.size → deck.isSorted = true → other.isSorted = true →
        deck = other) := by
  have complete : deck.Complete := obtainable_iff.mp obtained
  have completeOther : other.Complete := obtainable_iff.mp obtainedOther
  refine ⟨complete.isPermutationOf_iff completeOther, ?_, ?_⟩
  · rw [complete.isSorted_iff, ofSize_eq_ok_iff]
    exact ⟨fun equal => ⟨complete.size_le, equal⟩, And.right⟩
  · intro sizes isSorted isSortedOther
    rw [complete.isSorted_iff] at isSorted
    rw [completeOther.isSorted_iff] at isSortedOther
    rw [isSorted, isSortedOther, sizes]

/-- A deck of three whose shuffle ended at its second draw, one that its shuffle left as it
was, and one that was made in order. -/
theorem comparisons_come_down_to_sizes_three_cards :
    let ended : Deck := ⟨#[⟨0⟩, ⟨2⟩, ⟨1⟩]⟩
    let kept : Deck := ⟨#[⟨0⟩, ⟨1⟩, ⟨2⟩]⟩
    let made : Deck := sorted 3
    ended.Obtainable ∧ kept.Obtainable ∧ made.Obtainable ∧
      ended.isPermutationOf kept = true ∧ ofSize ended.size ≠ .ok ended ∧
      kept.size = made.size ∧ kept.isSorted = true ∧ made.isSorted = true ∧ kept = made := by
  intro ended kept made
  let run (draws : Array Nat) (operations : List Operation) : Inventory fun _ => ScriptedSource :=
    (Inventory.opened (fun _ => .start draws) fun _ => {}).performAll operations
  let shuffled : List Operation := [.ofIds [0, 1, 2], .shuffleDeck ⟨{}, 0, 0⟩ 0 0]
  have decksEnded : (run #[1, 9] shuffled).decks = [ended] := rfl
  have decksKept : (run #[2, 1] shuffled).decks = [kept] := rfl
  have decksMade : (run #[] [.ofSize 3]).decks = [made] := rfl
  have endedObtained : ended.Obtainable :=
    ⟨_, inferInstance, _, _, _, decksEnded ▸ List.mem_singleton_self _⟩
  have keptObtained : kept.Obtainable :=
    ⟨_, inferInstance, _, _, _, decksKept ▸ List.mem_singleton_self _⟩
  have madeObtained : made.Obtainable :=
    ⟨_, inferInstance, _, _, _, decksMade ▸ List.mem_singleton_self _⟩
  have sizes : kept.size = made.size := by decide +kernel
  have keptSorted : kept.isSorted = true := by decide
  have madeSorted : made.isSorted = true := by decide +kernel
  obtain ⟨same, endedIff, -⟩ := comparisons_come_down_to_sizes endedObtained keptObtained
  obtain ⟨-, -, equal⟩ := comparisons_come_down_to_sizes keptObtained madeObtained
  exact ⟨endedObtained, keptObtained, madeObtained, same.mpr rfl,
    fun inOrder => absurd (endedIff.mpr inOrder) (by decide), sizes, keptSorted, madeSorted,
    equal sizes keptSorted madeSorted⟩

end CardShuffle.Deck
