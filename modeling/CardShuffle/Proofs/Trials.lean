import CardShuffle.Proofs.Chunks
import CardShuffle.Proofs.Seeds

/-!
# No trial is lost or run twice

With honest sources every shuffle of an analysis completes, so every chunk leaves as
many orders as its share. The shares add up to the trials, and the report counts the
orders of all chunks and nothing else: `trials_conserved` follows the trials from the
parameters through the chunks into the counts.
-/

namespace CardShuffle.Analysis

open scoped Nat

universe u

variable {σ : Type u} [RandomSource σ]

/-- No more chunks are run than there are words. -/
theorem Feasible.chunk_word {items trials chunks chunk : Nat}
    (feasible : Feasible items trials chunks) (below : chunk < min chunks trials) :
    chunk < Word.limit :=
  Nat.lt_trans below (Nat.lt_of_le_of_lt (Nat.min_le_right _ _) feasible.word)

/-- Let the sources of an analysis be honest. Its trials are shared out to as many
chunks as are asked for, but no more than there are trials. No two chunks have one
seed. Each chunk runs its share with the source of its seed and leaves as many orders:
at least one, and at most one more than any other chunk. Together these are the
trials. The report counts the orders of all chunks, so that its counts, one for each
permutation, add up to the trials. -/
theorem trials_conserved {κ : Type} [Measure κ] (variant : Variant) {items trials chunks : Nat}
    (feasible : Feasible items trials chunks) (seed : Nat) (makeSource : Nat -> σ)
    (honest : ∀ seed, RandomSource.Honest (makeSource seed)) :
    let count := min chunks trials
    let source := fun chunk => makeSource (chunkSeed seed chunk)
    (∀ chunk < count, ∀ other < count, chunkSeed seed chunk = chunkSeed seed other →
      chunk = other) ∧
    ∃ left : Nat -> List (List Nat),
      (∀ chunk < count,
        chunkTrials? trials count chunk = some (left chunk).length ∧
          orders variant items (left chunk).length (source chunk) = .ok (left chunk) ∧
          runChunk variant items trials count (source chunk) chunk =
            .ok (.tally items (left chunk)) ∧
          1 ≤ (left chunk).length ∧
          ∀ other < count, (left chunk).length ≤ (left other).length + 1) ∧
      ∑ chunk ∈ Finset.range count, (left chunk).length = trials ∧
      ∃ reported : Report κ,
        report variant items trials chunks seed makeSource = .ok reported ∧
          reported.trials = trials ∧ reported.counts.size = items ! ∧
          reported.counts.toList.sum = trials ∧
          reported.counts = (Histogram.tally items ((List.range count).flatMap left)).counts := by
  intro count source
  have some : 0 < count := feasible.chunkCount_pos
  have enough : count ≤ trials := Nat.min_le_right _ _
  -- All chunks are given their orders at once, so that the parts below speak of the same.
  choose left completed using fun chunk =>
    exists_orders variant items (share trials count chunk) (honest (chunkSeed seed chunk))
  have length : ∀ chunk, (left chunk).length = share trials count chunk :=
    fun chunk => (orders_spec (completed chunk)).1
  have total : ∑ chunk ∈ Finset.range count, (left chunk).length = trials := by
    simp only [length]
    exact sum_share some trials
  have reportedTrials : ((List.range count).flatMap left).length = trials := by
    rw [List.length_flatMap]
    exact total
  have everyLength : ∀ order ∈ (List.range count).flatMap left, order.length = items := by
    intro order member
    obtain ⟨chunk, -, member⟩ := List.mem_flatMap.mp member
    have same := (orders_spec (completed chunk)).2 order member
    rw [same.length_eq, List.length_range]
  refine ⟨?_, left, ?_, total, .ofHistogram (.tally items ((List.range count).flatMap left)),
    ?_, ?_, Histogram.size_counts_tally _ _, ?_, rfl⟩
  · intro chunk below other otherBelow equal
    exact (chunkSeed_inj (feasible.chunk_word below) (feasible.chunk_word otherBelow)).mp equal
  · intro chunk _
    refine ⟨?_, ?_, ?_, ?_, ?_⟩
    · rw [length, chunkTrials?_eq_some feasible.word]
    · rw [length]
      exact completed chunk
    · rw [runChunk_eq feasible.few feasible.word, completed]
      rfl
    · rw [length]
      exact share_pos some enough chunk
    · intro other _
      rw [length, length]
      exact share_le_succ trials count chunk other
  · exact report_of_completed feasible seed makeSource fun chunk _ => completed chunk
  · exact reportedTrials
  · rw [← reportedTrials]
    exact Histogram.sum_counts_tally everyLength

/-- Three shuffles of two items with seeded sources in up to sixteen chunks. -/
theorem trials_conserved_sixteen_chunks :
    Feasible 2 3 16 ∧
      (∀ seed, RandomSource.Honest (SeededSource.ofSeed seed)) ∧
      ∃ reported : Report Float,
        report .durstenfeld 2 3 16 5 SeededSource.ofSeed = .ok reported ∧
          reported.trials = 3 ∧ reported.counts.size = 2 ! ∧ reported.counts.toList.sum = 3 := by
  have feasible : Feasible 2 3 16 :=
    ⟨by decide, by decide, by decide, by decide, by decide⟩
  have honest : ∀ seed, RandomSource.Honest (SeededSource.ofSeed seed) :=
    fun seed => SeededSource.honest _
  obtain ⟨-, -, -, -, reported, answered, trials, size, sum, -⟩ :=
    trials_conserved (κ := Float) .durstenfeld feasible 5 SeededSource.ofSeed honest
  exact ⟨feasible, honest, reported, answered, trials, size, sum⟩

end CardShuffle.Analysis
