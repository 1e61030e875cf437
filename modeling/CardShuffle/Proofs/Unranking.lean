import CardShuffle.Proofs.RankLimits
import Mathlib.Data.List.Perm.Basic

/-!
# Every number is unranked

Unranking reads the digits of a number in the factorial system, and each digit is a place
in a pool that shrinks by one (`Decodes`). A number below the factorial is read to the end:
its digit is a place in the pool, and the remainder is below the next factorial
(`exists_decodes`). So only the leading digit of a number can be larger than there are
places, and unranking then takes the last place. In other words it reads
`clamp size number`, which is below the factorial, in place of the number
(`unrank?_clamp`).

So unranking has a value for every number up to 21 items, the factorials it divides by
being words, and from 22 on for none (`unranking_clamps_leading_digit`).
-/

namespace CardShuffle.Ranking

open scoped Nat

/-! ## Reading a number below the factorial -/

/-- A number picks entries from a pool: the one at the place that is the quotient by the
factorial of how many are to follow, then what the remainder picks from the others. The
factorial is a word and not zero, and the quotient is a place in the pool. -/
inductive Decodes : (number : Nat) -> (pool picked : List Nat) -> Prop where
  | done {number : Nat} : Decodes number [] []
  | pick {number weight entry : Nat} {pool later : List Nat}
      (weighed : factorial? (pool.length - 1) = some weight) (nonzero : 0 < weight)
      (found : pool[number / weight]? = some entry)
      (rest : Decodes (number % weight) (pool.eraseIdx (number / weight)) later) :
      Decodes number pool (entry :: later)

/-- Every entry of the pool is picked once. -/
theorem Decodes.perm {number : Nat} {pool picked : List Nat} (decoded : Decodes number pool picked) :
    picked.Perm pool := by
  induction decoded with
  | done => exact .refl _
  | pick _ _ found _ ih =>
      obtain ⟨inside, rfl⟩ := List.getElem?_eq_some_iff.mp found
      exact (ih.cons _).trans (List.getElem_cons_eraseIdx_perm inside)

/-- With a place in the pool for the quotient, the entry there is picked, and the others
are picked from the rest of the pool. -/
theorem pick?_succ {remaining : Nat} (few : remaining ≤ 20) (number : Nat) {pool : List Nat}
    {index : Nat} (place : min (number / remaining !) (pool.length - 1) = index)
    (inside : index < pool.length) :
    pick? (remaining + 1) number pool =
      (pick? remaining (number % remaining !) (pool.eraseIdx index)).map (pool[index] :: ·) := by
  simp only [pick?, factorial?_of_le few, Option.bind_eq_bind, Option.bind_some, place,
    List.getElem?_eq_getElem inside]
  cases pick? remaining (number % remaining !) (pool.eraseIdx index) <;> rfl

/-- A number below the factorial of the size of a pool picks all its entries. -/
theorem exists_decodes {size : Nat} (few : size ≤ 21) {number : Nat} (below : number < size !)
    {pool : List Nat} (enough : pool.length = size) :
    ∃ picked, pick? size number pool = some picked ∧ Decodes number pool picked := by
  induction size generalizing number pool with
  | zero =>
      obtain rfl := List.eq_nil_of_length_eq_zero enough
      exact ⟨[], rfl, .done⟩
  | succ size ih =>
      have positive : 0 < size ! := Nat.factorial_pos size
      have inside : number / size ! < pool.length :=
        enough ▸ (Nat.div_lt_iff_lt_mul positive).mpr below
      have place : min (number / size !) (pool.length - 1) = number / size ! := by omega
      have fewer : (pool.eraseIdx (number / size !)).length = size := by
        rw [List.length_eraseIdx_of_lt inside, enough, Nat.add_sub_cancel]
      have weighed : factorial? (pool.length - 1) = some size ! := by
        rw [enough, Nat.add_sub_cancel]
        exact factorial?_of_le (by omega)
      -- The remainder is below the next factorial, so it is read to the end as well.
      obtain ⟨later, found, decoded⟩ := ih (by omega) (Nat.mod_lt _ positive) fewer
      refine ⟨pool[number / size !] :: later, ?_,
        .pick weighed positive (List.getElem?_eq_getElem inside) decoded⟩
      rw [pick?_succ (by omega) number place inside, found]
      rfl

/-! ## The leading digit -/

/-- A number with its leading digit cut down to the last place of a pool of the size. -/
def clamp (size number : Nat) : Nat :=
  min (number / (size - 1)!) (size - 1) * (size - 1)! + number % (size - 1)!

/-- Clamping cuts down the leading digit and leaves the remainder as it is. -/
theorem clamp_div_mod (size number : Nat) :
    clamp size number / (size - 1)! = min (number / (size - 1)!) (size - 1) ∧
      clamp size number % (size - 1)! = number % (size - 1)! := by
  have positive : 0 < (size - 1)! := Nat.factorial_pos _
  have below : number % (size - 1)! < (size - 1)! := Nat.mod_lt _ positive
  constructor
  · rw [clamp, Nat.add_comm, Nat.add_mul_div_right _ _ positive, Nat.div_eq_of_lt below,
      Nat.zero_add]
  · rw [clamp, Nat.mul_add_mod_self_right, Nat.mod_mod]

/-- A clamped number is below the factorial of the size. -/
theorem clamp_lt (size number : Nat) : clamp size number < size ! := by
  cases size with
  | zero => simp [clamp, Nat.mod_one]
  | succ size =>
      have digit := (clamp_div_mod (size + 1) number).1
      rw [Nat.add_sub_cancel] at digit
      rw [Nat.factorial_succ, ← Nat.div_lt_iff_lt_mul (Nat.factorial_pos size), digit]
      omega

/-- A number below the factorial is left as it is. -/
theorem clamp_of_lt {size number : Nat} (below : number < size !) : clamp size number = number := by
  have digit : number / (size - 1)! ≤ size - 1 := by
    cases size with
    | zero => simpa using below
    | succ size =>
        exact Nat.le_of_lt_succ ((Nat.div_lt_iff_lt_mul (Nat.factorial_pos size)).mpr below)
  rw [clamp, Nat.min_eq_left digit, Nat.mul_comm, Nat.div_add_mod]

/-- From the factorial of the size on, the digit is past the last place. -/
theorem le_div_of_factorial_le {size number : Nat} (past : (size + 1)! ≤ number) :
    size + 1 ≤ number / size ! :=
  (Nat.le_div_iff_mul_le (Nat.factorial_pos size)).mpr past

/-- From the factorial of the size on, the leading digit becomes the largest one. -/
theorem clamp_succ_of_le {size number : Nat} (past : (size + 1)! ≤ number) :
    clamp (size + 1) number = size * size ! + number % size ! := by
  have digit := le_div_of_factorial_le past
  rw [clamp, Nat.add_sub_cancel, Nat.min_eq_right (by omega)]

/-- What is picked for a number is what is picked for the clamped number. -/
theorem pick?_clamp {size : Nat} (number : Nat) {pool : List Nat} (enough : pool.length = size) :
    pick? size (clamp size number) pool = pick? size number pool := by
  cases size with
  | zero => rfl
  | succ size =>
      rw [pick?, pick?]
      cases weighed : factorial? size with
      | none => rfl
      | some weight =>
          obtain ⟨-, rfl⟩ := factorial?_eq_some_iff.mp weighed
          -- The digit of the clamped number is cut down a second time, to the same place.
          obtain ⟨digit, rest⟩ := clamp_div_mod (size + 1) number
          simp only [Nat.add_sub_cancel] at digit rest
          simp only [Option.bind_eq_bind, Option.bind_some, enough, digit, rest,
            Nat.add_sub_cancel, Nat.min_assoc, Nat.min_self]

/-- A number is unranked to what the clamped number is unranked to. -/
theorem unrank?_clamp (size number : Nat) :
    unrank? size (clamp size number) = unrank? size number := by
  rw [unrank?, unrank?, pick?_clamp number List.length_range]

/-! ## Values for every number -/

variable {size : Nat}

/-- Up to 21 items, unranking picks from the numbers below the size. -/
theorem unrank?_eq_pick? (few : size ≤ 21) (number : Nat) :
    unrank? size number = pick? size number (List.range size) := by
  rw [unrank?, factorial?_of_le (by omega)]
  rfl

/-- Up to 21 items every number is unranked, to what the clamped number picks from the
numbers below the size. -/
theorem exists_unrank? (few : size ≤ 21) (number : Nat) :
    ∃ order, unrank? size number = some order ∧
      Decodes (clamp size number) (List.range size) order := by
  rw [← unrank?_clamp, unrank?_eq_pick? few]
  exact exists_decodes few (clamp_lt size number) List.length_range

/-- With 22 items or more the factorial that the number is divided by has no value. -/
theorem unrank?_of_many (many : 22 ≤ size) (number : Nat) : unrank? size number = none := by
  rw [unrank?, factorial?_eq, if_pos (by omega)]
  rfl

/-- From the factorial of the size on, the last item comes first and the remainder is
unranked for the others. -/
theorem unrank?_succ_of_le (few : size ≤ 20) {number : Nat} (past : (size + 1)! ≤ number) :
    unrank? (size + 1) number = (unrank? size (number % size !)).map (size :: ·) := by
  have digit := le_div_of_factorial_le past
  have place : min (number / size !) ((List.range (size + 1)).length - 1) = size := by
    rw [List.length_range]
    omega
  have others : (List.range (size + 1)).eraseIdx size = List.range size := by
    rw [List.range_succ, List.eraseIdx_append_of_length_le (by simp)]
    simp
  rw [unrank?_eq_pick? (by omega), unrank?_eq_pick? (by omega),
    pick?_succ few number place (by simp), others, List.getElem_range]

/-- Up to 21 items every number is unranked, to an order of the numbers below the size,
and all its digits after clamping are places in the pools they are read in. From 22 items
on no number is unranked. Clamping changes no number below the factorial of the size. Of
any other number it cuts the leading digit down to the largest one, and so the number is
unranked to the last item followed by what the remainder is unranked to. -/
theorem unranking_clamps_leading_digit :
    (∀ size ≤ 21, ∀ number, ∃ order, unrank? size number = some order ∧
        order.Perm (List.range size) ∧
        Decodes (clamp size number) (List.range size) order) ∧
      (∀ size, 22 ≤ size → ∀ number, unrank? size number = none) ∧
      (∀ size number, number < size ! → clamp size number = number) ∧
      ∀ size number, 1 ≤ size → size ≤ 20 → size ! ≤ number →
        let clamped := (size - 1) * (size - 1)! + number % (size - 1)!
        clamp size number = clamped ∧ clamped < size ! ∧
          unrank? size number = unrank? size clamped ∧
          ∃ later, unrank? (size - 1) (number % (size - 1)!) = some later ∧
            unrank? size number = some ((size - 1) :: later) := by
  refine ⟨?_, fun size many => unrank?_of_many many, fun size number => clamp_of_lt, ?_⟩
  · intro size few number
    obtain ⟨order, found, decoded⟩ := exists_unrank? few number
    exact ⟨order, found, decoded.perm, decoded⟩
  · intro size number positive few past
    obtain ⟨size, rfl⟩ := Nat.exists_eq_add_of_le' positive
    simp only [Nat.add_sub_cancel]
    obtain ⟨later, found, -⟩ := exists_unrank? (by omega : size ≤ 21) (number % size !)
    rw [← clamp_succ_of_le past]
    refine ⟨rfl, clamp_lt _ number, (unrank?_clamp _ number).symm, later, found, ?_⟩
    rw [unrank?_succ_of_le (by omega) past, found]
    rfl

/-- The largest word, for 21, 22 and three items. -/
theorem unranking_clamps_leading_digit_largest_word :
    (21 ≤ 21 ∧ ∃ order, unrank? 21 (Word.limit - 1) = some order ∧
        order.Perm (List.range 21) ∧
        Decodes (clamp 21 (Word.limit - 1)) (List.range 21) order) ∧
      (22 ≤ 22 ∧ unrank? 22 (Word.limit - 1) = none) ∧
      (Word.limit - 1 < 21 ! ∧ clamp 21 (Word.limit - 1) = Word.limit - 1) ∧
      1 ≤ 3 ∧ 3 ≤ 20 ∧ 3 ! ≤ Word.limit - 1 ∧ clamp 3 (Word.limit - 1) = 5 ∧
        unrank? 3 (Word.limit - 1) = unrank? 3 5 ∧
        ∃ later, unrank? 2 1 = some later ∧ unrank? 3 (Word.limit - 1) = some (2 :: later) := by
  have below : Word.limit - 1 < 21 ! := by decide
  have past : 3 ! ≤ Word.limit - 1 := by decide
  obtain ⟨total, none, same, clamps⟩ := unranking_clamps_leading_digit
  obtain ⟨clamped, -, equal, leading⟩ := clamps 3 (Word.limit - 1) (by decide) (by decide) past
  exact ⟨⟨by decide, total 21 (by decide) _⟩, ⟨by decide, none 22 (by decide) _⟩,
    ⟨below, same 21 _ below⟩, by decide, by decide, past, clamped, equal, leading⟩

end CardShuffle.Ranking
