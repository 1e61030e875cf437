import CardShuffle.Proofs.Ranks
import Mathlib.Algebra.BigOperators.Fin

/-!
# Where ranks leave the words

The factorial of 21 is the first that is no word. A rank weighs the first entry by the
factorial of the number of entries after it, so with 22 entries or more there is no rank,
even where every entry contributes nothing. With 21 entries the weights are words, and it
depends on the entries whether the rank is one. No product and no sum on the way is larger
than the exact rank, so the exact rank alone decides (`rank?_eq`).

The exact rank is defined along the list. `rank_eq_sum` spells it out as a sum over the
places of the list, and `rank_word_boundary` says in these terms which lists have a rank.
-/

namespace CardShuffle.Ranking

open scoped Nat

/-- From 21 on a factorial has no value. -/
theorem factorial?_eq (size : Nat) :
    factorial? size = if 21 ≤ size then none else some size ! := by
  split_ifs with many
  · have large : Word.limit ≤ size ! := calc
      Word.limit ≤ 21 ! := by decide
      _ ≤ size ! := Nat.factorial_le many
    rw [Option.eq_none_iff_forall_ne_some]
    intro value found
    exact absurd (factorial?_eq_some_iff.mp found).1 (Nat.not_lt.mpr large)
  · exact factorial?_of_le (by omega)

/-- A list has no rank when it has 22 entries or more, or when its exact rank is no word,
and otherwise it has the exact rank. -/
theorem rank?_eq (entries : List Nat) :
    rank? entries =
      if 22 ≤ entries.length ∨ Word.limit ≤ rank entries then none
      else some (rank entries) := by
  by_cases many : 22 ≤ entries.length
  · rw [if_pos (.inl many)]
    cases entries with
    | nil => simp at many
    | cons entry later =>
        -- The factorial that weighs the first entry has no value, whatever it would weigh.
        rw [rank?, factorial?_eq, if_pos (Nat.le_of_succ_le_succ many)]
        rfl
  · have few : entries.length ≤ 21 := by omega
    split_ifs with large
    · rw [Option.eq_none_iff_forall_ne_some]
      intro number found
      have word := ((rank?_eq_some_iff few).mp found).1
      omega
    · exact (rank?_eq_some_iff few).mpr ⟨by omega, rfl⟩

/-- How many entries after a place are smaller than the entry there. -/
def smallerAfter (entries : List Nat) (place : Fin entries.length) : Nat :=
  (entries.drop (place + 1)).countP (· < entries[place])

/-- The exact rank is a sum over the places of a list. Each contributes the number of
smaller entries after it, weighed by the factorial of the number of entries after it. -/
theorem rank_eq_sum (entries : List Nat) :
    rank entries = ∑ place, smallerAfter entries place * (entries.length - 1 - place)! := by
  induction entries with
  | nil => rfl
  | cons entry later ih =>
      have weight : ∀ place : Fin later.length,
          later.length - 1 - (place : Nat) = later.length - (place + 1) := by
        intro place
        omega
      calc rank (entry :: later)
          = later.countP (· < entry) * later.length ! +
              ∑ place, smallerAfter later place * (later.length - 1 - place)! := by
            rw [rank, ih]
        _ = later.countP (· < entry) * later.length ! +
              ∑ place, smallerAfter later place * (later.length - (place + 1))! := by
            simp only [weight]
        _ = ∑ place, smallerAfter (entry :: later) place *
              ((entry :: later).length - 1 - place)! :=
            (Fin.sum_univ_succ fun place : Fin (later.length + 1) =>
              smallerAfter (entry :: later) place * ((entry :: later).length - 1 - place)!).symm

/-- A factorial has no value exactly from 21 on. A list of any numbers has no rank exactly
when it has 22 entries or more, or when the exact sum over its places is no word; otherwise
its rank is this sum. Up to 20 entries every list has a rank, and it is below the factorial
of the number of entries. -/
theorem rank_word_boundary :
    (∀ size, factorial? size = if 21 ≤ size then none else some size !) ∧
      ∀ entries : List Nat,
        let sum := ∑ place, smallerAfter entries place * (entries.length - 1 - place)!
        (rank? entries =
            if 22 ≤ entries.length ∨ Word.limit ≤ sum then none else some sum) ∧
          (entries.length ≤ 20 → rank? entries = some sum ∧ sum < entries.length !) := by
  refine ⟨factorial?_eq, fun entries => ?_⟩
  rw [← rank_eq_sum]
  exact ⟨rank?_eq entries, fun few => ⟨rank?_of_le few, rank_lt_factorial entries⟩⟩

/-- A list that is no permutation. -/
theorem rank_word_boundary_equal_entries :
    [5, 5, 2].length ≤ 20 ∧ rank? [5, 5, 2] = some 3 ∧ 3 < 3 ! := by
  have few : [5, 5, 2].length ≤ 20 := by decide
  have sum : ∑ place, smallerAfter [5, 5, 2] place * ([5, 5, 2].length - 1 - place)! = 3 := rfl
  have bounded := (rank_word_boundary.2 [5, 5, 2]).2 few
  rw [sum] at bounded
  exact ⟨few, bounded⟩

/-- The last word is the rank of 21 entries, and the next order of them has none. -/
example :
    rank? [7, 12, 14, 4, 3, 20, 5, 9, 6, 11, 0, 18, 10, 16, 1, 2, 8, 17, 15, 19, 13] =
        some (Word.limit - 1) ∧
      rank? [7, 12, 14, 4, 3, 20, 5, 9, 6, 11, 0, 18, 10, 16, 1, 2, 8, 17, 19, 13, 15] =
        none := by
  decide

end CardShuffle.Ranking
