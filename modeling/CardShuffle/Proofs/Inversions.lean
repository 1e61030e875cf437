import CardShuffle.Proofs.Lexicographic
import Mathlib.Data.Set.Function

/-!
# Ranks and inversions

Two places of a list are inverted when the entry at the earlier place is the larger
one. A rank counts for each place the later ones that are inverted with it, and the
counts can be read off the rank, being digits below the factorials. They tell which
places these are (`rank_eq_iff`): if two lists with the same counts inverted different
places with one place, two of those places would have to be inverted in one list alone.

A permutation of `0, 1, …, n - 1` is told by its inversions, and so the rank of any list
of `n` entries is unranked to the permutation that inverts the same places. Entries that
are equal are not inverted, so the permutation has the smaller number at the earlier one.
-/

namespace CardShuffle.Ranking

open scoped Nat

/-- The entry at the first of two places is larger than the one at the second. -/
def Inverted (entries : List Nat) (first second : Nat) : Prop :=
  ∃ upper ∈ entries[first]?, ∃ lower ∈ entries[second]?, lower < upper

/-- Two lists invert the same places. -/
def SameInversions (entries others : List Nat) : Prop :=
  ∀ first second, first < second → (Inverted entries first second ↔ Inverted others first second)

/-! ## Two lists side by side

Lists of one length are compared as a list of pairs. -/

/-- Two places are inverted in both lists or in neither. -/
def Agree (earlier later : Nat × Nat) : Prop :=
  later.1 < earlier.1 ↔ later.2 < earlier.2

/-- Where all places agree, what is smaller in one list is not larger in the other. -/
theorem not_crossing {pairs : List (Nat × Nat)} (agree : pairs.Pairwise Agree)
    {pair other : Nat × Nat} (member : pair ∈ pairs) (memberOther : other ∈ pairs) :
    ¬ (pair.1 < other.1 ∧ other.2 < pair.2) := by
  -- Either of the two may stand first.
  have forward : pairs.Pairwise fun pair other => ¬ (pair.1 < other.1 ∧ other.2 < pair.2) := by
    apply agree.imp
    intro earlier later agree
    unfold Agree at agree
    omega
  have backward : pairs.Pairwise fun other pair => ¬ (pair.1 < other.1 ∧ other.2 < pair.2) := by
    apply agree.imp
    intro earlier later agree
    unfold Agree at agree
    omega
  exact List.Pairwise.forall_of_forall_of_flip (by omega) forward backward member memberOther

/-- Of two properties that equally many entries have, neither has one more than the other. -/
theorem exists_mem_of_countP_eq {α : Type} {list : List α} {first second : α → Bool}
    (counts : list.countP first = list.countP second) {entry : α} (member : entry ∈ list)
    (holds : first entry = true) (fails : ¬ second entry = true) :
    ∃ other ∈ list, second other = true ∧ ¬ first other = true := by
  by_contra none
  push Not at none
  have inside : (list.filter second).countP first = list.countP second := by
    rw [List.countP_eq_length.mpr, List.countP_eq_length_filter]
    intro other kept
    obtain ⟨memberOther, holdsOther⟩ := List.mem_filter.mp kept
    exact none other memberOther holdsOther
  have outside : 0 < (list.filter fun entry => !second entry).countP first :=
    List.countP_pos_iff.mpr ⟨entry, List.mem_filter.mpr ⟨member, by simpa using fails⟩, holds⟩
  have parts := List.countP_eq_countP_filter_add list first second
  omega

/-- Where all places agree, one more place agrees with each of them if it is inverted with
equally many in both lists. -/
theorem countP_eq_iff {pairs : List (Nat × Nat)} (agree : pairs.Pairwise Agree)
    (pair : Nat × Nat) :
    pairs.countP (fun later => later.1 < pair.1) = pairs.countP (fun later => later.2 < pair.2) ↔
      ∀ later ∈ pairs, Agree pair later := by
  constructor
  · intro counts later member
    constructor
    · intro below
      by_contra above
      obtain ⟨other, memberOther, belowOther, aboveOther⟩ :=
        exists_mem_of_countP_eq counts member (by simpa using below) (by simpa using above)
      simp only [decide_eq_true_eq] at belowOther aboveOther
      exact not_crossing agree member memberOther (by omega)
    · intro below
      by_contra above
      obtain ⟨other, memberOther, belowOther, aboveOther⟩ :=
        exists_mem_of_countP_eq counts.symm member (by simpa using below) (by simpa using above)
      simp only [decide_eq_true_eq] at belowOther aboveOther
      exact not_crossing agree memberOther member (by omega)
  · intro agreeAll
    apply List.countP_congr
    intro later member
    simpa [Agree] using agreeAll later member

/-- A number is written in one way as a multiple of a weight and a rest below it. -/
theorem mul_add_inj {weight digit rest digitOther restOther : Nat} (below : rest < weight)
    (belowOther : restOther < weight) :
    digit * weight + rest = digitOther * weight + restOther ↔
      digit = digitOther ∧ rest = restOther := by
  refine ⟨fun equal => ?_, fun ⟨digits, rests⟩ => by rw [digits, rests]⟩
  have positive : 0 < weight := by omega
  have digits := congrArg (· / weight) equal
  have rests := congrArg (· % weight) equal
  simp only [Nat.mul_comm _ weight, Nat.mul_add_div positive, Nat.mul_add_mod,
    Nat.div_eq_of_lt below, Nat.div_eq_of_lt belowOther, Nat.mod_eq_of_lt below,
    Nat.mod_eq_of_lt belowOther, Nat.add_zero] at digits rests
  exact ⟨digits, rests⟩

/-- Lists side by side have the same rank exactly when all places agree. -/
theorem rank_map_eq_iff {pairs : List (Nat × Nat)} :
    rank (pairs.map Prod.fst) = rank (pairs.map Prod.snd) ↔ pairs.Pairwise Agree := by
  induction pairs with
  | nil => simp
  | cons pair pairs ih =>
      have below : rank (pairs.map Prod.fst) < pairs.length ! := by
        simpa using rank_lt_factorial (pairs.map Prod.fst)
      have belowOther : rank (pairs.map Prod.snd) < pairs.length ! := by
        simpa using rank_lt_factorial (pairs.map Prod.snd)
      rw [List.map_cons, List.map_cons, rank, rank, List.length_map, List.length_map,
        mul_add_inj below belowOther, ih, List.pairwise_cons, List.countP_map, List.countP_map]
      exact and_congr_left fun agree => countP_eq_iff agree pair

/-- Lists of one length invert the same places exactly when all places agree. -/
theorem pairwise_zip_iff {entries others : List Nat} (length : entries.length = others.length) :
    (entries.zip others).Pairwise Agree ↔ SameInversions entries others := by
  have size : (entries.zip others).length = entries.length := by simp [length]
  rw [List.pairwise_iff_getElem]
  constructor
  · intro agree first second before
    by_cases inside : second < entries.length
    · have agrees := agree first second (by omega) (by omega) before
      have within : second < others.length := length ▸ inside
      simpa [Agree, Inverted, inside, within, before.trans inside, before.trans within]
        using agrees
    · have outside : ¬ second < others.length := length ▸ inside
      simp [Inverted, inside, outside]
  · intro same first second _ insideSecond before
    have inside : second < entries.length := by omega
    have within : second < others.length := length ▸ inside
    simpa [Agree, Inverted, inside, within, before.trans inside, before.trans within]
      using same first second before

/-- Lists of one length have the same rank exactly when they invert the same places. -/
theorem rank_eq_iff {entries others : List Nat} (length : entries.length = others.length) :
    rank entries = rank others ↔ SameInversions entries others := by
  rw [← pairwise_zip_iff length, ← rank_map_eq_iff, List.map_fst_zip (by omega),
    List.map_snd_zip (by omega)]

/-! ## Ranking and unranking -/

/-- The permutation at the rank of a list is the one that inverts the same places. -/
theorem eq_permutation_rank_iff {size : Nat} (few : size ≤ 21) {entries order : List Nat}
    (length : entries.length = size) :
    order = permutation size (rank entries) ↔
      order.Perm (List.range size) ∧ SameInversions order entries := by
  have same := permutation_perm few (rank entries)
  have found : rank (permutation size (rank entries)) = rank entries :=
    rank_permutation few (length ▸ rank_lt_factorial entries)
  constructor
  · rintro rfl
    exact ⟨same, (rank_eq_iff ((length_of_perm same).trans length.symm)).mp found⟩
  · rintro ⟨permutes, inversions⟩
    have lengths : order.length = entries.length := (length_of_perm permutes).trans length.symm
    apply (rank_inj (permutes.trans same.symm)).mp
    rw [found, (rank_eq_iff lengths).mpr inversions]

/-- Ranking takes the permutations of the numbers below a size to the numbers below the
factorial, each to one of its own. -/
theorem bijOn_rank? {size : Nat} (few : size ≤ 20) :
    Set.BijOn rank? {order | order.Perm (List.range size)}
      (some '' {number | number < size !}) := by
  have ranked : ∀ {order : List Nat}, order.Perm (List.range size) →
      rank? order = some (rank order) := by
    intro order permutes
    exact rank?_of_le ((length_of_perm permutes).trans_le few)
  refine ⟨?_, ?_, ?_⟩
  · intro order permutes
    exact ⟨rank order, rank_lt_of_perm permutes, (ranked permutes).symm⟩
  · intro order permutes other permutesOther equal
    rw [ranked permutes, ranked permutesOther] at equal
    exact (rank_inj (permutes.trans permutesOther.symm)).mp (Option.some.inj equal)
  · rintro _ ⟨number, below, rfl⟩
    have permutes := permutation_perm (by omega : size ≤ 21) number
    refine ⟨permutation size number, permutes, ?_⟩
    rw [ranked permutes, rank_permutation (by omega) below]

/-- Up to 20 items, a number below the factorial is the rank of what it is unranked to.
The rank of any list of as many entries is unranked to a list, which is the permutation of
the numbers below the size that inverts the same places as the list. A permutation is
found again by its rank, and ranking is a bijection from the permutations to the numbers
below the factorial. -/
theorem rank_unrank_inverse {size : Nat} (few : size ≤ 20) :
    (∀ number < size !, ∃ order,
        unrank? size number = some order ∧ rank? order = some number) ∧
      (∀ entries : List Nat, entries.length = size → ∃ number order,
        rank? entries = some number ∧ unrank? size number = some order ∧
          ∀ other, other = order ↔
            other.Perm (List.range size) ∧ SameInversions other entries) ∧
      (∀ entries : List Nat, entries.Perm (List.range size) → ∃ number,
        rank? entries = some number ∧ unrank? size number = some entries) ∧
      Set.BijOn rank? {order | order.Perm (List.range size)}
        (some '' {number | number < size !}) := by
  have fewer : size ≤ 21 := by omega
  refine ⟨?_, ?_, ?_, bijOn_rank? few⟩
  · intro number below
    have length : (permutation size number).length = size :=
      length_of_perm (permutation_perm fewer number)
    refine ⟨permutation size number, unrank?_eq fewer number, ?_⟩
    rw [rank?_of_le (by omega), rank_permutation fewer below]
  · intro entries length
    exact ⟨rank entries, permutation size (rank entries), rank?_of_le (by omega),
      unrank?_eq fewer _, fun other => eq_permutation_rank_iff fewer length⟩
  · intro entries permutes
    have length : entries.length = size := length_of_perm permutes
    refine ⟨rank entries, rank?_of_le (by omega), ?_⟩
    rw [unrank?_eq fewer, permutation_rank fewer permutes]

/-- A list with two equal entries: the earlier one gets the smaller number. -/
theorem rank_unrank_inverse_equal_entries :
    3 ≤ 20 ∧ [7, 7, 4].length = 3 ∧ rank? [7, 7, 4] = some 3 ∧ unrank? 3 3 = some [1, 2, 0] ∧
      SameInversions [1, 2, 0] [7, 7, 4] := by
  have ranked : rank? [7, 7, 4] = some 3 := by decide
  have unranked : unrank? 3 3 = some [1, 2, 0] := by decide
  obtain ⟨number, order, found, foundOrder, same⟩ :=
    (rank_unrank_inverse (by decide : 3 ≤ 20)).2.1 [7, 7, 4] rfl
  obtain rfl : 3 = number := Option.some.inj (ranked.symm.trans found)
  obtain rfl : [1, 2, 0] = order := Option.some.inj (unranked.symm.trans foundOrder)
  exact ⟨by decide, rfl, ranked, unranked, ((same [1, 2, 0]).mp rfl).2⟩

end CardShuffle.Ranking
