import CardShuffle.Proofs.Unranking
import Mathlib.Data.List.Lex
import Mathlib.Data.List.Permutation

/-!
# Ranks are places in the lexicographic order

Where two orders of the same numbers first differ, the smaller entry has fewer smaller
ones after it, and one such entry outweighs all that follows (`rank_lt_rank`). So the
order with the smaller rank comes first, and no two orders share a rank. Unranking below
the factorial picks from a sorted pool, where the place of an entry is the number of
smaller ones, so it picks the order that has the rank (`rank_permutation`).
`permutations` lists the orders of the numbers below a size by their ranks: all of them,
in lexicographic order. So a rank is the number of permutations that come first
(`rank_lexicographic`).
-/

namespace CardShuffle.Ranking

open scoped Nat

/-! ## The order of ranks -/

/-- Orders of the same numbers have ranks that keep the lexicographic order. -/
theorem rank_lt_rank {entries others : List Nat} (same : entries.Perm others)
    (first : entries < others) : rank entries < rank others := by
  induction entries generalizing others with
  | nil =>
      rw [List.nil_perm.mp same] at first
      exact absurd first (lt_irrefl _)
  | cons entry later ih =>
      cases others with
      | nil => exact absurd same.length_eq (by simp)
      | cons other rest =>
          have length : later.length = rest.length := Nat.succ.inj same.length_eq
          rcases List.cons_lt_cons_iff.mp first with smaller | ⟨rfl, follows⟩
          · -- The smaller entry itself stands after the larger one.
            have counts : later.countP (· < other) + 1 = rest.countP (· < other) := by
              simpa [smaller] using same.countP_eq (· < other)
            have fewer : later.countP (· < entry) ≤ later.countP (· < other) := by
              apply List.countP_mono_left
              intro number _ below
              have below := of_decide_eq_true below
              exact decide_eq_true (below.trans smaller)
            calc rank (entry :: later)
                < later.countP (· < entry) * later.length ! + later.length ! :=
                  Nat.add_lt_add_left (rank_lt_factorial later) _
              _ = (later.countP (· < entry) + 1) * later.length ! := by rw [Nat.succ_mul]
              _ ≤ rest.countP (· < other) * rest.length ! := by
                  rw [← length]
                  exact Nat.mul_le_mul_right _ (by omega)
              _ ≤ rank (other :: rest) := Nat.le_add_right _ _
          · have sameLater : later.Perm rest := same.cons_inv
            rw [rank, rank, sameLater.countP_eq, length]
            exact Nat.add_lt_add_left (ih sameLater follows) _

/-- The order with the smaller rank is the one that comes first. -/
theorem rank_lt_iff {entries others : List Nat} (same : entries.Perm others) :
    rank entries < rank others ↔ entries < others := by
  refine ⟨fun below => ?_, rank_lt_rank same⟩
  rcases lt_trichotomy entries others with first | equal | last
  · exact first
  · rw [equal] at below
    exact absurd below (lt_irrefl _)
  · exact absurd below (rank_lt_rank same.symm last).asymm

/-- Different orders of the same numbers have different ranks. -/
theorem rank_inj {entries others : List Nat} (same : entries.Perm others) :
    rank entries = rank others ↔ entries = others := by
  refine ⟨fun equal => ?_, congrArg rank⟩
  rcases lt_trichotomy entries others with first | done | last
  · exact absurd equal (rank_lt_rank same first).ne
  · exact done
  · exact absurd equal (rank_lt_rank same.symm last).ne'

/-! ## Unranking -/

/-- In a sorted pool the place of an entry is the number of smaller ones. -/
theorem countP_lt_getElem {pool : List Nat} (sorted : pool.Pairwise (· < ·)) {index : Nat}
    (inside : index < pool.length) : (pool.eraseIdx index).countP (· < pool[index]) = index := by
  induction pool generalizing index with
  | nil => exact absurd inside (Nat.not_lt_zero _)
  | cons entry pool ih =>
      obtain ⟨least, sortedLater⟩ := List.pairwise_cons.mp sorted
      cases index with
      | zero =>
          rw [List.eraseIdx_zero, List.tail_cons, List.getElem_cons_zero, List.countP_eq_zero]
          intro number member below
          exact absurd (of_decide_eq_true below) (least number member).asymm
      | succ index =>
          have insideLater : index < pool.length := Nat.lt_of_succ_lt_succ inside
          have smaller : entry < pool[index] := least _ (List.getElem_mem insideLater)
          rw [List.eraseIdx_cons_succ, List.getElem_cons_succ, List.countP_cons,
            ih sortedLater insideLater, if_pos (decide_eq_true smaller)]

/-- What a number below the factorial picks from a sorted pool has this number as its rank. -/
theorem Decodes.rank_eq {number : Nat} {pool picked : List Nat}
    (decoded : Decodes number pool picked) (sorted : pool.Pairwise (· < ·))
    (below : number < pool.length !) : rank picked = number := by
  induction decoded with
  | done => exact (Nat.lt_one_iff.mp below).symm
  | @pick number weight entry pool later weighed nonzero found rest ih =>
      obtain ⟨inside, rfl⟩ := List.getElem?_eq_some_iff.mp found
      obtain ⟨-, rfl⟩ := factorial?_eq_some_iff.mp weighed
      have fewer : (pool.eraseIdx (number / (pool.length - 1)!)).length = pool.length - 1 :=
        List.length_eraseIdx_of_lt inside
      have remainder : rank later = number % (pool.length - 1)! := by
        apply ih (sorted.sublist (List.eraseIdx_sublist _ _))
        rw [fewer]
        exact Nat.mod_lt _ nonzero
      rw [rank, rest.perm.countP_eq, countP_lt_getElem sorted inside, rest.perm.length_eq, fewer,
        remainder, Nat.mul_comm, Nat.div_add_mod]

/-- The permutation of the numbers below a size that a rank is unranked to. -/
def permutation (size number : Nat) : List Nat := (unrank? size number).getD []

variable {size : Nat}

/-- Up to 21 items every rank is unranked. -/
theorem unrank?_eq (few : size ≤ 21) (number : Nat) :
    unrank? size number = some (permutation size number) := by
  obtain ⟨entries, found, -⟩ := exists_unrank? few number
  rw [permutation, found, Option.getD_some]

/-- What a rank is unranked to is what the clamped rank picks. -/
theorem decodes_permutation (few : size ≤ 21) (number : Nat) :
    Decodes (clamp size number) (List.range size) (permutation size number) := by
  obtain ⟨entries, found, decoded⟩ := exists_unrank? few number
  rw [permutation, found]
  exact decoded

/-- What a rank is unranked to is an order of the numbers below the size. -/
theorem permutation_perm (few : size ≤ 21) (number : Nat) :
    (permutation size number).Perm (List.range size) :=
  (decodes_permutation few number).perm

/-- A number below the factorial is the rank of what it is unranked to. -/
theorem rank_permutation (few : size ≤ 21) {number : Nat} (below : number < size !) :
    rank (permutation size number) = number := by
  have decoded := decodes_permutation few number
  rw [clamp_of_lt below] at decoded
  exact decoded.rank_eq List.pairwise_lt_range (by rwa [List.length_range])

/-- An order of the numbers below the size has as many entries. -/
theorem length_of_perm {entries : List Nat} (same : entries.Perm (List.range size)) :
    entries.length = size := by
  rw [same.length_eq, List.length_range]

/-- The rank of an order of the numbers below the size is below the factorial. -/
theorem rank_lt_of_perm {entries : List Nat} (same : entries.Perm (List.range size)) :
    rank entries < size ! :=
  length_of_perm same ▸ rank_lt_factorial entries

/-- The rank of an order of the numbers below the size is unranked to the order. -/
theorem permutation_rank (few : size ≤ 21) {entries : List Nat}
    (same : entries.Perm (List.range size)) : permutation size (rank entries) = entries :=
  (rank_inj ((permutation_perm few _).trans same.symm)).mp
    (rank_permutation few (rank_lt_of_perm same))

/-! ## All permutations -/

/-- The permutations of the numbers below a size, at their ranks. -/
def permutations (size : Nat) : List (List Nat) :=
  (List.range (factorial size)).map (permutation size)

theorem length_permutations (size : Nat) : (permutations size).length = size ! := by
  simp [permutations, factorial_eq]

/-- Every order of the numbers below the size is listed, and nothing else. -/
theorem mem_permutations_iff (few : size ≤ 21) {entries : List Nat} :
    entries ∈ permutations size ↔ entries.Perm (List.range size) := by
  simp only [permutations, List.mem_map, List.mem_range, factorial_eq]
  constructor
  · rintro ⟨number, -, rfl⟩
    exact permutation_perm few number
  · intro same
    exact ⟨rank entries, rank_lt_of_perm same, permutation_rank few same⟩

/-- The permutations are listed in lexicographic order. -/
theorem pairwise_permutations (few : size ≤ 21) : (permutations size).Pairwise (· < ·) := by
  rw [permutations, List.pairwise_map, factorial_eq]
  apply List.pairwise_lt_range.imp_of_mem
  intro first second member memberSecond before
  have same := (permutation_perm few first).trans (permutation_perm few second).symm
  rw [← rank_lt_iff same, rank_permutation few (List.mem_range.mp member),
    rank_permutation few (List.mem_range.mp memberSecond)]
  exact before

/-! ## Ranks as numbers of permutations -/

/-- Of the numbers below a size as many are below a bound as the bound says. -/
theorem countP_range_lt {bound : Nat} (inside : bound ≤ size) :
    (List.range size).countP (· < bound) = bound := by
  obtain ⟨more, rfl⟩ := Nat.exists_eq_add_of_le inside
  have below : (List.range bound).countP (· < bound) = bound := by
    rw [List.countP_eq_length.mpr (by simp), List.length_range]
  have above : ((List.range more).map (bound + ·)).countP (· < bound) = 0 := by
    rw [List.countP_eq_zero]
    simp
  rw [List.range_add, List.countP_append, below, above, Nat.add_zero]

/-- Any listing of the permutations is one by their ranks in another order. -/
theorem permutations_range_perm (few : size ≤ 21) :
    (List.range size).permutations.Perm (permutations size) := by
  have listed : (List.range size).permutations.Nodup := List.nodup_permutations _ List.nodup_range
  have byRank : (permutations size).Nodup := (pairwise_permutations few).imp ne_of_lt
  rw [List.perm_ext_iff_of_nodup listed byRank]
  intro order
  rw [List.mem_permutations, mem_permutations_iff few]

/-- As many permutations come before one of them as its rank says. -/
theorem countP_permutations_lt (few : size ≤ 21) {order : List Nat}
    (permutes : order.Perm (List.range size)) :
    (List.range size).permutations.countP (· < order) = rank order := by
  have before : ∀ number ∈ List.range (size !),
      decide (permutation size number < order) = decide (number < rank order) := by
    intro number member
    have same := (permutation_perm few number).trans permutes.symm
    rw [decide_eq_decide, ← rank_lt_iff same, rank_permutation few (List.mem_range.mp member)]
  calc (List.range size).permutations.countP (· < order)
      = (permutations size).countP (· < order) := (permutations_range_perm few).countP_eq _
    _ = (List.range (size !)).countP fun number => decide (permutation size number < order) := by
        rw [permutations, factorial_eq, List.countP_map]
        rfl
    _ = (List.range (size !)).countP (· < rank order) :=
        List.countP_congr fun number member => by rw [before number member]
    _ = rank order := countP_range_lt (rank_lt_of_perm permutes).le

/-- Permutations of the numbers below a size, which is at most 20, have ranks. Of two of
them the one with the smaller rank comes first in lexicographic order, and the rank of a
permutation is the number of those that come before it. -/
theorem rank_lexicographic (few : size ≤ 20) {order other : List Nat}
    (permutes : order.Perm (List.range size)) (permutesOther : other.Perm (List.range size)) :
    ∃ number numberOther, rank? order = some number ∧ rank? other = some numberOther ∧
      (number < numberOther ↔ order < other) ∧
      (List.range size).permutations.countP (· < order) = number := by
  have fewEntries : order.length ≤ 20 := (length_of_perm permutes).trans_le few
  have fewOther : other.length ≤ 20 := (length_of_perm permutesOther).trans_le few
  exact ⟨rank order, rank other, rank?_of_le fewEntries, rank?_of_le fewOther,
    rank_lt_iff (permutes.trans permutesOther.symm), countP_permutations_lt (by omega) permutes⟩

/-- Two of the permutations of three items: two come before the first. -/
theorem rank_lexicographic_three :
    3 ≤ 20 ∧ [1, 0, 2].Perm (List.range 3) ∧ [1, 2, 0].Perm (List.range 3) ∧
      rank? [1, 0, 2] = some 2 ∧ rank? [1, 2, 0] = some 3 ∧ [1, 0, 2] < [1, 2, 0] ∧
      (List.range 3).permutations.countP (· < [1, 0, 2]) = 2 := by
  have permutes : [1, 0, 2].Perm (List.range 3) := by decide
  have permutesOther : [1, 2, 0].Perm (List.range 3) := by decide
  have ranked : rank? [1, 0, 2] = some 2 := by decide
  have rankedOther : rank? [1, 2, 0] = some 3 := by decide
  obtain ⟨number, numberOther, found, foundOther, order, count⟩ :=
    rank_lexicographic (by decide : 3 ≤ 20) permutes permutesOther
  obtain rfl : 2 = number := Option.some.inj (ranked.symm.trans found)
  obtain rfl : 3 = numberOther := Option.some.inj (rankedOther.symm.trans foundOther)
  exact ⟨by decide, permutes, permutesOther, ranked, rankedOther, order.mp (by decide), count⟩

end CardShuffle.Ranking
