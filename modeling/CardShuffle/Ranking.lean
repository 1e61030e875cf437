import CardShuffle.Word

/-!
# Ranking permutations

A permutation of `0, 1, …, n - 1` has a rank below `n!`: its place in the
lexicographic order, written in the factorial number system. `Ranking.rank?`
counts, for each entry, the later entries that are smaller; `Ranking.unrank?`
picks the entries one by one from a shrinking pool. Both stay within words and
have no value where a factorial, a product or a sum leaves them.
-/

namespace CardShuffle.Ranking

/-- The exact factorial. -/
def factorial : Nat -> Nat
  | 0 => 1
  | size + 1 => (size + 1) * factorial size

/-- Multiply `product` by `factor`, `factor + 1`, … for a number of factors. -/
def riseFrom? (product factor : Nat) : (remaining : Nat) -> Option Nat
  | 0 => some product
  | remaining + 1 =>
      match Word.mul? product factor with
      | none => none
      | some product => riseFrom? product (factor + 1) remaining

/-- The factorial, as long as it is a word. -/
def factorial? (size : Nat) : Option Nat :=
  riseFrom? 1 1 size

/-- The rank of a list among the lists of its length: each entry contributes
the number of smaller entries after it, weighed by the factorial of their
number. Entries may be any numbers and may repeat. -/
def rank? : List Nat -> Option Nat
  | [] => some 0
  | entry :: later => do
      let weight ← factorial? later.length
      let contribution ← Word.mul? (later.countP (· < entry)) weight
      let rest ← rank? later
      Word.add? contribution rest

/-- Pick a number of entries from a pool: each by the quotient of the rank by
the factorial of the number still to follow, the rest by the remainder. A
quotient past the end of the pool stands for its last entry. -/
def pick? : (remaining : Nat) -> (rank : Nat) -> (pool : List Nat) -> Option (List Nat)
  | 0, _, _ => some []
  | remaining + 1, rank, pool => do
      let weight ← factorial? remaining
      let index := min (rank / weight) (pool.length - 1)
      let entry ← pool[index]?
      let later ← pick? remaining (rank % weight) (pool.eraseIdx index)
      return entry :: later

/-- The permutation of `0, 1, …, size - 1` with a rank. The largest factorial is
formed before anything is picked, so a size that is too large has no value
however large it is. -/
def unrank? (size rank : Nat) : Option (List Nat) := do
  let _ ← factorial? (size - 1)
  pick? size rank (List.range size)

end CardShuffle.Ranking
