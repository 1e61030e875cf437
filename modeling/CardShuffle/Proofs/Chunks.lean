import CardShuffle.Analysis
import CardShuffle.Proofs.Honest
import CardShuffle.Proofs.Protocol
import CardShuffle.Proofs.Tally
import Mathlib.Algebra.Group.Action.Defs

/-!
# What the chunks of an analysis run

The trials are shared out to the chunks: all get their part of the quotient, and the
first ones one more each, until the remainder is used up (`sum_share`). The orders
that the shuffles of a chunk leave decide everything about it. Recording them one by
one gives their tally (`runChunk_eq`), and so an analysis is the tally of the orders
of all chunks, one chunk after another (`report_eq`). No exact number on the way
leaves the words, so nothing but a draw out of range ends an analysis.
-/

namespace CardShuffle.Analysis

universe u

/-! ## Sharing out the trials -/

/-- How many trials a chunk gets. -/
def share (trials count chunk : Nat) : Nat :=
  trials / count + if chunk < trials % count then 1 else 0

/-- No chunk gets more trials than there are. -/
theorem share_le (trials count chunk : Nat) : share trials count chunk ≤ trials := by
  have parts := Nat.div_add_mod trials count
  unfold share
  split
  next more =>
      rcases Nat.eq_zero_or_pos count with rfl | positive
      · simp only [Nat.div_zero, Nat.mod_zero] at more ⊢
        omega
      · have quotient := Nat.le_mul_of_pos_left (trials / count) positive
        omega
  next => simpa using Nat.div_le_self trials count

/-- The share of a chunk is a word when the number of trials is. -/
theorem chunkTrials?_eq_some {trials : Nat} (word : trials < Word.limit) (count chunk : Nat) :
    chunkTrials? trials count chunk = some (share trials count chunk) :=
  Word.add?_eq_some_iff.mpr ⟨Nat.lt_of_le_of_lt (share_le trials count chunk) word, rfl⟩

/-- With no more chunks than trials every chunk gets a trial. -/
theorem share_pos {trials count : Nat} (someChunk : 0 < count) (enough : count ≤ trials)
    (chunk : Nat) : 1 ≤ share trials count chunk :=
  Nat.le_add_right_of_le (Nat.div_pos enough someChunk)

/-- Two chunks differ by at most one trial. -/
theorem share_le_succ (trials count chunk other : Nat) :
    share trials count chunk ≤ share trials count other + 1 := by
  unfold share
  split <;> omega

/-- The numbers below a bound among the first ones. -/
theorem sum_lt_range (count bound : Nat) :
    ∑ number ∈ Finset.range count, (if number < bound then 1 else 0) = min count bound := by
  induction count with
  | zero => simp
  | succ count ih =>
      rw [Finset.sum_range_succ, ih]
      split <;> omega

/-- The shares add up to the trials. -/
theorem sum_share {count : Nat} (someChunk : 0 < count) (trials : Nat) :
    ∑ chunk ∈ Finset.range count, share trials count chunk = trials := by
  have remainder : trials % count ≤ count := Nat.le_of_lt (Nat.mod_lt _ someChunk)
  calc ∑ chunk ∈ Finset.range count, share trials count chunk
      = count * (trials / count) + min count (trials % count) := by
        simp only [share, Finset.sum_add_distrib, sum_lt_range, Finset.sum_const,
          Finset.card_range, smul_eq_mul]
    _ = trials := by rw [Nat.min_eq_right remainder, Nat.div_add_mod]

/-! ## The orders of a chunk -/

/-- The orders that a number of shuffles of `0, 1, …, items - 1` leave, one after
another with one source, or the first answer out of range. -/
def orders {σ : Type u} [RandomSource σ] (variant : Variant) (items : Nat) :
    (remaining : Nat) -> σ -> Except OutOfRange (List (List Nat))
  | 0, _ => .ok []
  | remaining + 1, source =>
      let (shuffled, source) := (Shuffle.shuffle variant (Array.range items)).run source
      match shuffled.outcome with
      | .error violation => .error violation
      | .ok _ => (orders variant items remaining source).map (shuffled.items.toList :: ·)

/-- An answer out of range as the error of an analysis. -/
def raise {α : Type} : Except OutOfRange α -> Except (Stop ShuffleError) α :=
  Except.mapError fun violation => .error (.drawOutOfRange violation)

@[simp]
theorem raise_ok {α : Type} (value : α) : raise (.ok value) = .ok value := rfl

variable {σ : Type u} [RandomSource σ] {variant : Variant} {items : Nat}

/-- As many shuffles leave as many orders, each of them an order of all items. -/
theorem orders_spec {remaining : Nat} {source : σ} {left : List (List Nat)}
    (completed : orders variant items remaining source = .ok left) :
    left.length = remaining ∧ ∀ order ∈ left, order.Perm (List.range items) := by
  induction remaining generalizing source left with
  | zero =>
      cases completed
      simp
  | succ remaining ih =>
      have same := Shuffle.perm_shuffle variant (Array.range items) source
      rw [orders] at completed
      dsimp only at completed
      cases ended : ((Shuffle.shuffle variant (Array.range items)).run source).1.outcome with
      | error violation =>
          rw [ended] at completed
          cases completed
      | ok draws =>
          rw [ended] at completed
          obtain ⟨later, others, rfl⟩ := exists_of_map_eq_ok completed
          obtain ⟨length, perms⟩ := ih others
          refine ⟨by rw [List.length_cons, length], List.forall_mem_cons.mpr ⟨?_, perms⟩⟩
          simpa using same.toList

/-- With an honest source all shuffles complete. -/
theorem exists_orders (variant : Variant) (items remaining : Nat) {source : σ}
    (honest : RandomSource.Honest source) :
    ∃ left, orders variant items remaining source = .ok left := by
  induction remaining generalizing source with
  | zero => exact ⟨[], rfl⟩
  | succ remaining ih =>
      obtain ⟨completed, stillHonest⟩ :=
        Shuffle.completes_of_honest variant (Array.range items) honest
      obtain ⟨later, others⟩ := ih stillHonest
      rw [orders]
      simp only [completed, others]
      exact ⟨_, rfl⟩

/-- Shuffling and recording adds the orders to a tally, as long as their number is a
word. -/
theorem repeatTrials_eq (few : items ≤ 20) {remaining : Nat} (source : σ)
    {before : List (List Nat)} (room : before.length + remaining < Word.limit) :
    repeatTrials variant items remaining source (.tally items before) =
      (raise (orders variant items remaining source)).map fun left =>
        .tally items (before ++ left) := by
  induction remaining generalizing source before with
  | zero => simp [repeatTrials, orders, Except.map]
  | succ remaining ih =>
      have same := Shuffle.perm_shuffle variant (Array.range items) source
      have length : ((Shuffle.shuffle variant (Array.range items)).run
          source).1.items.toList.length = items := by
        simpa using same.size_eq
      have recorded := Histogram.record?_tally before few length (by omega)
      rw [repeatTrials, orders]
      dsimp only
      cases ended : ((Shuffle.shuffle variant (Array.range items)).run source).1.outcome with
      | error violation => rfl
      | ok draws =>
          dsimp only
          rw [recorded]
          dsimp only
          rw [ih _ (by simp only [List.length_append, List.length_singleton]; omega)]
          cases orders variant items remaining
              ((Shuffle.shuffle variant (Array.range items)).run source).2 with
          | error violation => rfl
          | ok later => simp [Except.map]

/-- The histogram of a chunk is the tally of its orders. -/
theorem runChunk_eq (few : items ≤ 20) {trials : Nat} (word : trials < Word.limit)
    (count : Nat) (source : σ) (chunk : Nat) :
    runChunk variant items trials count source chunk =
      (raise (orders variant items (share trials count chunk) source)).map
        (Histogram.tally items) := by
  have room : ([] : List (List Nat)).length + share trials count chunk < Word.limit := by
    have bound := share_le trials count chunk
    simp only [List.length_nil]
    omega
  rw [runChunk, chunkTrials?_eq_some word, ← Histogram.tally_nil]
  exact repeatTrials_eq few source room

/-! ## The orders of an analysis -/

/-- The orders of the chunks of a list, one chunk after another, or the first answer
out of range. -/
def allOrders (variant : Variant) (items trials count : Nat) (makeSource : Nat -> σ) :
    (chunks : List Nat) -> Except OutOfRange (List (List Nat))
  | [] => .ok []
  | chunk :: chunks => do
      let first ← orders variant items (share trials count chunk) (makeSource chunk)
      let others ← allOrders variant items trials count makeSource chunks
      return first ++ others

/-- When every chunk of a list completes, their orders follow each other. -/
theorem allOrders_eq_ok {trials count : Nat} {makeSource : Nat -> σ} {chunks : List Nat}
    {left : Nat -> List (List Nat)}
    (completed : ∀ chunk ∈ chunks,
      orders variant items (share trials count chunk) (makeSource chunk) = .ok (left chunk)) :
    allOrders variant items trials count makeSource chunks = .ok (chunks.flatMap left) := by
  induction chunks with
  | nil => rfl
  | cons chunk chunks ih =>
      obtain ⟨first, others⟩ := List.forall_mem_cons.mp completed
      rw [allOrders, first, ih others]
      rfl

/-- Running and merging chunks adds their orders to a tally, as long as the number of
orders is a word. -/
theorem runChunks_eq (variant : Variant) (few : items ≤ 20) {trials : Nat} (word : trials < Word.limit)
    {count : Nat} (makeSource : Nat -> σ) (chunks : List Nat) {before : List (List Nat)}
    (room : before.length + (chunks.map (share trials count)).sum < Word.limit) :
    runChunks variant items trials count makeSource chunks (.tally items before) =
      (raise (allOrders variant items trials count makeSource chunks)).map fun left =>
        .tally items (before ++ left) := by
  induction chunks generalizing before with
  | nil => simp [runChunks, allOrders, Except.map]
  | cons chunk chunks ih =>
      rw [List.map_cons, List.sum_cons] at room
      rw [runChunks, runChunk_eq few word, allOrders]
      cases ran : orders variant items (share trials count chunk) (makeSource chunk) with
      | error violation => rfl
      | ok first =>
          have length := (orders_spec ran).1
          have roomAfter : (before ++ first).length + (chunks.map (share trials count)).sum <
              Word.limit := by
            rw [List.length_append]
            omega
          have merged : (Histogram.tally items before).merge? (.tally items first) =
              some (.tally items (before ++ first)) :=
            Histogram.merge?_tally (by omega)
          have next := ih roomAfter
          simp only [raise_ok, Except.map, bind, Except.bind, merged, Stop.require_some, next]
          cases allOrders variant items trials count makeSource chunks with
          | error violation => rfl
          | ok others => simp [pure, Except.pure]

/-- Parameters that an analysis accepts, with a number of trials that is a word. -/
structure Feasible (items trials chunks : Nat) : Prop where
  someItem : 1 ≤ items
  items_le : items ≤ maximumItems
  someTrial : 1 ≤ trials
  word : trials < Word.limit
  someChunk : 1 ≤ chunks

namespace Feasible

variable {trials chunks : Nat}

/-- Factorials and ranks of so few items are words. -/
theorem few (feasible : Feasible items trials chunks) : items ≤ 20 :=
  feasible.items_le.trans (by decide)

/-- An analysis accepts feasible parameters. -/
theorem check_eq (feasible : Feasible items trials chunks) : check items trials chunks = .ok () := by
  have itemsAccepted : ¬ (items = 0 ∨ maximumItems < items) := by
    have some := feasible.someItem
    have few := feasible.items_le
    omega
  have trialsAccepted : trials ≠ 0 := Nat.ne_of_gt feasible.someTrial
  have chunksAccepted : chunks ≠ 0 := Nat.ne_of_gt feasible.someChunk
  simp [check, checkItems, itemsAccepted, trialsAccepted, chunksAccepted, bind, Except.bind,
    pure, Except.pure]

/-- There is a chunk. -/
theorem chunkCount_pos (feasible : Feasible items trials chunks) : 0 < chunkCount trials chunks :=
  Nat.lt_min.mpr ⟨feasible.someChunk, feasible.someTrial⟩

end Feasible

/-- An analysis reports the tally of the orders of all chunks, one chunk after
another. -/
theorem report_eq {κ : Type} [Measure κ] {trials chunks : Nat}
    (feasible : Feasible items trials chunks) (seed : Nat) (makeSource : Nat -> σ) :
    (report variant items trials chunks seed makeSource : Except _ (Report κ)) =
      (raise (allOrders variant items trials (chunkCount trials chunks)
        (fun chunk => makeSource (chunkSeed seed chunk))
        (List.range (chunkCount trials chunks)))).map fun left =>
          Report.ofHistogram (.tally items left) := by
  have total : ((List.range (chunkCount trials chunks)).map
      (share trials (chunkCount trials chunks))).sum = trials :=
    sum_share feasible.chunkCount_pos trials
  have room : ([] : List (List Nat)).length + ((List.range (chunkCount trials chunks)).map
      (share trials (chunkCount trials chunks))).sum < Word.limit := by
    rw [total, List.length_nil, Nat.zero_add]
    exact feasible.word
  have run := runChunks_eq variant feasible.few feasible.word
    (fun chunk => makeSource (chunkSeed seed chunk)) (List.range (chunkCount trials chunks)) room
  rw [report, histogram, feasible.check_eq, ← Histogram.tally_nil]
  simp only [Except.mapError, Stop.lift, bind, Except.bind, run]
  cases allOrders variant items trials (chunkCount trials chunks)
      (fun chunk => makeSource (chunkSeed seed chunk))
      (List.range (chunkCount trials chunks)) with
  | error violation => rfl
  | ok left => rfl

/-- When all chunks complete, an analysis reports the tally of what they left. -/
theorem report_of_completed {κ : Type} [Measure κ] {trials chunks : Nat}
    (feasible : Feasible items trials chunks) (seed : Nat) (makeSource : Nat -> σ)
    {left : Nat -> List (List Nat)}
    (completed : ∀ chunk < chunkCount trials chunks,
      orders variant items (share trials (chunkCount trials chunks) chunk)
        (makeSource (chunkSeed seed chunk)) = .ok (left chunk)) :
    (report variant items trials chunks seed makeSource : Except _ (Report κ)) =
      .ok (.ofHistogram (.tally items ((List.range (chunkCount trials chunks)).flatMap left))) := by
  have inTurn : allOrders variant items trials (chunkCount trials chunks)
      (fun chunk => makeSource (chunkSeed seed chunk)) (List.range (chunkCount trials chunks)) =
        .ok ((List.range (chunkCount trials chunks)).flatMap left) :=
    allOrders_eq_ok fun chunk member => completed chunk (List.mem_range.mp member)
  rw [report_eq feasible, inTurn]
  rfl

/-- With honest sources an analysis reports a tally. -/
theorem exists_report {κ : Type} [Measure κ] (variant : Variant) {trials chunks : Nat}
    (feasible : Feasible items trials chunks) (seed : Nat) {makeSource : Nat -> σ}
    (honest : ∀ seed, RandomSource.Honest (makeSource seed)) :
    ∃ left, (report variant items trials chunks seed makeSource : Except _ (Report κ)) =
      .ok (.ofHistogram (.tally items left)) := by
  choose left completed using fun chunk =>
    exists_orders variant items (share trials (chunkCount trials chunks) chunk)
      (honest (chunkSeed seed chunk))
  exact ⟨_, report_of_completed feasible seed makeSource fun chunk _ => completed chunk⟩

end CardShuffle.Analysis
