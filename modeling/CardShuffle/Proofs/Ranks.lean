import CardShuffle.Ranking
import Mathlib.Data.Nat.Factorial.Basic

/-!
# Ranks within words

Word arithmetic loses a value only when the exact one is no word. Factorials are words
up to 20, so ranking a list of at most 20 entries has a value: the exact rank
`Ranking.rank`, which is below the factorial of the length whatever the entries are
(`rank_lt_factorial`).
-/

namespace CardShuffle.Ranking

open scoped Nat

/-! ## Factorials -/

/-- The factorial is the usual one. -/
theorem factorial_eq (size : Nat) : factorial size = size ! := by
  induction size with
  | zero => rfl
  | succ size ih => rw [factorial, ih, Nat.factorial_succ]

/-- A product with successive positive factors has a value exactly when the whole
product is a word, since the partial products do not fall. -/
theorem riseFrom?_eq_some_iff {product factor remaining value : Nat} (positive : 0 < factor)
    (word : product < Word.limit) :
    riseFrom? product factor remaining = some value ↔
      product * factor.ascFactorial remaining < Word.limit ∧
        product * factor.ascFactorial remaining = value := by
  induction remaining generalizing product factor with
  | zero => simp [riseFrom?, word]
  | succ remaining ih =>
      have next : product * factor * (factor + 1).ascFactorial remaining =
          product * factor.ascFactorial (remaining + 1) := by
        rw [Nat.mul_assoc, Nat.succ_ascFactorial, Nat.ascFactorial_succ]
      have later : 0 < (factor + 1).ascFactorial remaining := Nat.ascFactorial_pos _ _
      rw [riseFrom?]
      cases step : Word.mul? product factor with
      | none =>
          have large := Word.mul?_eq_none_iff.mp step
          have grown : product * factor ≤ product * factor.ascFactorial (remaining + 1) := by
            rw [← next]
            exact Nat.le_mul_of_pos_right _ later
          simp only [reduceCtorEq, false_iff, not_and]
          omega
      | some partialProduct =>
          obtain ⟨small, rfl⟩ := Word.mul?_eq_some_iff.mp step
          rw [ih (Nat.succ_pos _) small, next]

/-- A factorial has a value exactly when it is a word. -/
theorem factorial?_eq_some_iff {size value : Nat} :
    factorial? size = some value ↔ size ! < Word.limit ∧ size ! = value := by
  rw [factorial?, riseFrom?_eq_some_iff Nat.one_pos (by decide), Nat.one_ascFactorial, Nat.one_mul]

/-- Factorials are words up to 20. -/
theorem factorial_lt_limit {size : Nat} (few : size ≤ 20) : size ! < Word.limit :=
  Nat.lt_of_le_of_lt (Nat.factorial_le few) (by decide)

/-- Up to 20 the factorial has its value. -/
theorem factorial?_of_le {size : Nat} (few : size ≤ 20) : factorial? size = some size ! :=
  factorial?_eq_some_iff.mpr ⟨factorial_lt_limit few, rfl⟩

/-! ## Ranks -/

/-- The exact rank of a list among the lists of its length. -/
def rank : List Nat -> Nat
  | [] => 0
  | entry :: later => later.countP (· < entry) * later.length ! + rank later

/-- A rank is below the factorial of the number of entries, whatever the entries are. -/
theorem rank_lt_factorial (entries : List Nat) : rank entries < entries.length ! := by
  induction entries with
  | nil => exact Nat.one_pos
  | cons entry later ih =>
      have smaller : later.countP (· < entry) ≤ later.length := List.countP_le_length
      calc rank (entry :: later)
          < later.countP (· < entry) * later.length ! + later.length ! :=
            Nat.add_lt_add_left ih _
        _ ≤ later.length * later.length ! + later.length ! :=
            Nat.add_le_add_right (Nat.mul_le_mul_right _ smaller) _
        _ = (entry :: later).length ! := by
            rw [List.length_cons, Nat.factorial_succ, Nat.succ_mul]

/-- Up to 20 entries the exact rank is a word. -/
theorem rank_lt_limit {entries : List Nat} (few : entries.length ≤ 20) :
    rank entries < Word.limit :=
  Nat.lt_trans (rank_lt_factorial entries) (factorial_lt_limit few)

/-- Up to 21 entries a rank has a value exactly when the exact one is a word. -/
theorem rank?_eq_some_iff {entries : List Nat} (few : entries.length ≤ 21) {value : Nat} :
    rank? entries = some value ↔ rank entries < Word.limit ∧ rank entries = value := by
  induction entries generalizing value with
  | nil => simp [rank?, rank, Word.limit]
  | cons entry later ih =>
      have fewLater : later.length ≤ 20 := Nat.le_of_succ_le_succ few
      have weight : factorial? later.length = some later.length ! := factorial?_of_le fewLater
      -- Only the contribution of the first entry and the last sum can leave the words.
      have rest : rank? later = some (rank later) :=
        (ih (by omega)).mpr ⟨rank_lt_limit fewLater, rfl⟩
      rw [rank?, weight, rank]
      cases product : Word.mul? (later.countP (· < entry)) later.length ! with
      | none =>
          have large := Word.mul?_eq_none_iff.mp product
          simp only [Option.bind_eq_bind, Option.bind_some, product, Option.bind_none,
            reduceCtorEq, false_iff, not_and]
          omega
      | some contribution =>
          obtain ⟨_, rfl⟩ := Word.mul?_eq_some_iff.mp product
          simp only [Option.bind_eq_bind, Option.bind_some, product, rest]
          exact Word.add?_eq_some_iff

/-- Up to 20 entries every list has its exact rank. -/
theorem rank?_of_le {entries : List Nat} (few : entries.length ≤ 20) :
    rank? entries = some (rank entries) :=
  (rank?_eq_some_iff (by omega)).mpr ⟨rank_lt_limit few, rfl⟩

end CardShuffle.Ranking
