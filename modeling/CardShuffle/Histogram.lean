import CardShuffle.Ranking
import CardShuffle.Settings

/-!
# Histograms of permutations

A histogram counts how often each permutation of a number of items was seen.
Counts stand in the order of the permutations' ranks. Recording and merging keep
every count and the total within words, and have no value where one would leave
them.
-/

namespace CardShuffle

/-- How often each permutation of `items` items was recorded. -/
structure Histogram where
  items : Nat
  /-- The counts, at the ranks of the permutations. -/
  counts : Array Nat
  /-- How many permutations were recorded in all. -/
  trials : Nat
  deriving Repr, DecidableEq, Inhabited

namespace Histogram

/-- The histogram before anything is recorded. -/
def empty (items : Nat) : Histogram :=
  { items, counts := Array.replicate (Ranking.factorial items) 0, trials := 0 }

/-- The histogram of a number of items before anything is recorded, when sequences of
this length can be analysed. -/
def ofItems (items : Nat) : Except AnalysisFault Histogram :=
  (checkItems items).map fun _ => empty items

/-- Count one list of as many entries as there are items. -/
def record? (histogram : Histogram) (entries : List Nat) : Option Histogram :=
  if entries.length = histogram.items then do
    let rank ← Ranking.rank? entries
    let count ← histogram.counts[rank]?
    let count ← Word.add? count 1
    let trials ← Word.add? histogram.trials 1
    return { histogram with counts := histogram.counts.setIfInBounds rank count, trials }
  else
    none

/-- Add counts place by place, as far as both lists go. Places that only the
first list has keep their counts. -/
def addCounts? : List Nat -> List Nat -> Option (List Nat)
  | left :: lefts, right :: rights => do
      let sum ← Word.add? left right
      let sums ← addCounts? lefts rights
      return sum :: sums
  | lefts, _ => some lefts

/-- Add the counts of another histogram of the same number of items. -/
def merge? (histogram other : Histogram) : Option Histogram :=
  if histogram.items = other.items then do
    let counts ← addCounts? histogram.counts.toList other.counts.toList
    let trials ← Word.add? histogram.trials other.trials
    return { histogram with counts := counts.toArray, trials }
  else
    none

/-- The count at a rank, 0 at ranks that do not exist. -/
def count (histogram : Histogram) (rank : Nat) : Nat :=
  histogram.counts.getD rank 0

end Histogram

end CardShuffle
