import CardShuffle.Proofs.Handouts
import CardShuffle.Proofs.Inverse
import CardShuffle.Source.Fixed
import Mathlib.Data.List.Rotate
import Mathlib.Data.Nat.GCD.Basic

/-!
# Shuffles without randomness

A source that answers 0 to every request makes each swap a swap with the first position.
The in-place form then brings the last item of a range to the front, where the next,
smaller range finds it, and leaves the first item behind. So all items move up by one
(`swaps_zeros_falling`). The inside-out form makes the same swaps backwards, so it moves
them down by one.

Either form is therefore a rotation, and shuffles after each other rotate further
(`iterate_again`). `zero_draws_rotate` says when they lead back to the items at the start
and when they do not.
-/

namespace CardShuffle

universe u v

/-- Requests that are all answered 0. -/
def Exchange.zeros (bounds : List Nat) : List Exchange :=
  bounds.map (Exchange.mk · 0)

/-! ## Sources that answer 0 -/

namespace RandomSource

variable {σ : Type v} [RandomSource σ]

/-- The source answers 0 to every request, however often it is asked. -/
def AnswersZero (state : σ) : Prop :=
  ∀ bounds : List Nat, answerAll state bounds = Exchange.zeros bounds

/-- It goes on to do so after some requests. -/
theorem AnswersZero.after {state : σ} (zero : AnswersZero state) (bounds : List Nat) :
    AnswersZero (after state bounds) := by
  intro later
  have all := zero (bounds ++ later)
  rw [answerAll_append, zero bounds] at all
  exact List.append_cancel_left (all.trans List.map_append)

/-- A source answers 0 for good when it does so in every state that its draws lead to. -/
theorem answersZero_of_draw (reached : σ → Prop)
    (kept : ∀ state, reached state → ∀ bound,
      (draw state bound).1 = 0 ∧ reached (draw state bound).2)
    {state : σ} (start : reached state) : AnswersZero state := by
  intro bounds
  induction bounds generalizing state with
  | nil => rfl
  | cons bound bounds ih =>
      obtain ⟨answer, next⟩ := kept state start bound
      rw [answerAll, answer, ih next]
      rfl

end RandomSource

open RandomSource (AnswersZero)

/-- The fixed source of the value 0 answers 0. -/
theorem FixedSource.answersZero_first : AnswersZero first := by
  apply RandomSource.answersZero_of_draw (· = first)
  · rintro source rfl bound
    refine ⟨?_, rfl⟩
    change first.answer bound = 0
    simp [answer, first]
  · rfl

/-- A script in which every number is 0 answers 0, and so does the empty one. -/
theorem ScriptedSource.answersZero_start {script : Array Nat}
    (zeros : ∀ number ∈ script, number = 0) : AnswersZero (start script) := by
  apply RandomSource.answersZero_of_draw (·.script = script)
  · rintro source rfl bound
    refine ⟨?_, rfl⟩
    rcases place_of_answer (draw_answer source bound) with inside | ⟨-, answer⟩
    · exact zeros _ (Array.mem_of_getElem? inside)
    · exact answer
  · rfl

/-! ## The swaps -/

/-- A swap with the first position brings the last item of a range to the front. -/
theorem Exchange.swap_ends {α : Type u} (first last : α) (middle rest : List α) :
    swap ⟨middle.length + 2, 0⟩ (first :: (middle ++ last :: rest)).toArray =
      (last :: (middle ++ first :: rest)).toArray := by
  apply Array.ext
  · simp
  · intro position _ _
    simp only [swap, Array.getElem_swapIfInBounds, List.getElem_toArray, List.size_toArray]
    grind

namespace Shuffle

variable {α : Type u} {σ : Type v} [RandomSource σ]

/-- The items moved up by some positions; those in front come in again at the end. -/
def rotated (items : Array α) (count : Nat) : Array α :=
  (items.toList.rotate count).toArray

@[simp]
theorem toList_rotated (items : Array α) (count : Nat) :
    (rotated items count).toList = items.toList.rotate count := rfl

@[simp]
theorem size_rotated (items : Array α) (count : Nat) : (rotated items count).size = items.size := by
  rw [← Array.length_toList, toList_rotated, List.length_rotate, Array.length_toList]

/-- Moving the items up twice moves them up by the sum. -/
theorem rotated_rotated (items : Array α) (count more : Nat) :
    rotated (rotated items count) more = rotated items (count + more) := by
  rw [rotated, toList_rotated, List.rotate_rotate, rotated]

/-- Moving the items up all the way, any number of times, leaves them. -/
theorem rotated_size_mul (items : Array α) (count : Nat) :
    rotated items (items.size * count) = items := by
  rw [rotated, ← Array.length_toList, List.rotate_length_mul, Array.toArray_toList]

/-- Moving the items up by all but one position and then by one leaves them. -/
theorem rotated_size (items : Array α) : rotated items (items.size - 1 + 1) = items := by
  rcases Nat.eq_zero_or_pos items.size with empty | filled
  · obtain rfl := Array.eq_empty_of_size_eq_zero empty
    rfl
  · simpa [Nat.sub_add_cancel filled] using rotated_size_mul items 1

/-- Swaps with the first position, from the last position of a front part down, move its
items up by one. -/
theorem swaps_zeros_falling (front rest : List α) :
    swaps (Exchange.zeros (Variant.durstenfeld.schedule front.length)) (front ++ rest).toArray =
      (front.rotate 1 ++ rest).toArray := by
  -- The range loses its last position with each swap.
  induction length : front.length generalizing front rest with
  | zero =>
      obtain rfl := List.eq_nil_of_length_eq_zero length
      rfl
  | succ size ih =>
      obtain ⟨first, others, rfl⟩ := List.exists_cons_of_length_eq_add_one length
      rcases List.eq_nil_or_concat' others with rfl | ⟨middle, last, rfl⟩
      · obtain rfl : size = 0 := by simpa using length
        simp [Variant.schedule, Exchange.zeros]
      · -- The swap leaves the last item in front of the smaller range and the first one
        -- behind it.
        obtain rfl : middle.length + 1 = size := by simpa using length
        have moved := ih (last :: middle) (first :: rest) rfl
        rw [Variant.schedule_durstenfeld_add_two, Exchange.zeros, List.map_cons, swaps_cons,
          List.cons_append, List.append_assoc, List.singleton_append, Exchange.swap_ends]
        simpa [Exchange.zeros] using moved

/-- How far a form moves its items up when every answer is 0. -/
def shift : Variant -> Nat -> Nat
  | .durstenfeld, _ => 1
  | .insideOut, size => size - 1

/-- Swaps with the first position stay inside the items. -/
theorem fits_zeros (variant : Variant) (size : Nat) :
    ∀ exchange ∈ Exchange.zeros (variant.schedule size), exchange.Fits size := by
  intro exchange member
  obtain ⟨bound, scheduled, rfl⟩ := List.mem_map.mp member
  obtain ⟨least, most⟩ := Variant.mem_schedule_iff.mp scheduled
  exact ⟨Nat.lt_of_lt_of_le Nat.two_pos least, most⟩

/-- The swaps of either form rotate the items. -/
theorem swaps_zeros (variant : Variant) (items : Array α) :
    swaps (Exchange.zeros (variant.schedule items.size)) items =
      rotated items (shift variant items.size) := by
  have falling : ∀ items : Array α,
      swaps (Exchange.zeros (Variant.durstenfeld.schedule items.size)) items =
        rotated items 1 := by
    intro items
    simpa [rotated] using swaps_zeros_falling items.toList []
  cases variant with
  | durstenfeld => exact falling items
  | insideOut =>
      -- The rising swaps are the falling ones backwards, so they undo a move up by one.
      have backwards : Exchange.zeros (Variant.insideOut.schedule items.size) =
          (Exchange.zeros (Variant.durstenfeld.schedule items.size)).reverse := by
        simp [Exchange.zeros, Variant.schedule]
      have moved := falling (rotated items (items.size - 1))
      rw [size_rotated, rotated_rotated] at moved
      rw [backwards, swaps_reverse_eq_iff (fits_zeros _ _), shift, moved, rotated_size]

/-! ## The shuffles -/

/-- With a source that answers 0 a shuffle rotates its items, and the source goes on to
answer 0. -/
theorem run_of_answersZero (variant : Variant) (items : Array α) {state : σ}
    (zero : AnswersZero state) :
    ((shuffle variant items).run state).1 =
        ⟨rotated items (shift variant items.size), .ok (items.size - 1)⟩ ∧
      AnswersZero ((shuffle variant items).run state).2 := by
  have fits := fits_zeros variant items.size
  obtain ⟨-, left⟩ := run_of_kept variant items state
    (by rw [zero]; exact fun exchange member => (fits exchange member).kept)
  rw [zero, swaps_zeros] at left
  refine ⟨left, ?_⟩
  rw [← Drawing.after_transcript]
  exact zero.after _

/-- Shuffle the items and the source that an earlier shuffle has left. -/
def again (variant : Variant) (held : Array α × σ) : Array α × σ :=
  let (left, state) := (shuffle variant held.1).run held.2
  (left.items, state)

theorem again_of_answersZero (variant : Variant) {held : Array α × σ} (zero : AnswersZero held.2) :
    (again variant held).1 = rotated held.1 (shift variant held.1.size) ∧
      AnswersZero (again variant held).2 := by
  obtain ⟨left, zeroAfter⟩ := run_of_answersZero variant held.1 zero
  exact ⟨congrArg Shuffled.items left, zeroAfter⟩

/-- With a source that answers 0, shuffles after each other rotate the items further. -/
theorem iterate_again (variant : Variant) {held : Array α × σ} (zero : AnswersZero held.2)
    (count : Nat) :
    ((again variant)^[count] held).1 = rotated held.1 (count * shift variant held.1.size) ∧
      AnswersZero ((again variant)^[count] held).2 := by
  induction count with
  | zero => exact ⟨by simp [rotated], zero⟩
  | succ count ih =>
      obtain ⟨moved, zeroStill⟩ := ih
      obtain ⟨left, zeroAfter⟩ := again_of_answersZero variant zeroStill
      rw [Function.iterate_succ_apply']
      refine ⟨?_, zeroAfter⟩
      rw [left, moved, size_rotated, rotated_rotated, Nat.succ_mul]

/-- One form moves the items up by as much as the other one moves them down. -/
theorem rotated_shift (items : Array α) {first second : Variant} (other : first ≠ second) :
    rotated (rotated items (shift first items.size)) (shift second items.size) = items := by
  rw [rotated_rotated]
  cases first <;> cases second
  · exact absurd rfl other
  · rw [shift, shift, Nat.add_comm, rotated_size]
  · rw [shift, shift, rotated_size]
  · exact absurd rfl other

/-- Different items are back at their places only when they have gone round all of them. -/
theorem dvd_of_rotated_eq {items : Array α} (filled : 0 < items.size)
    (distinct : items.toList.Nodup) {count : Nat} (back : rotated items count = items) :
    items.size ∣ count := by
  have same : items.toList.rotate count = items.toList := congrArg Array.toList back
  rcases distinct.rotate_eq_self_iff.mp same with whole | empty
  · exact Nat.dvd_of_mod_eq_zero (by simpa using whole)
  · simp [Array.toList_eq_nil_iff.mp empty] at filled

/-- What a form moves the items by has no common divisor with their number. -/
theorem coprime_shift (variant : Variant) {size : Nat} (filled : 0 < size) :
    Nat.Coprime size (shift variant size) := by
  cases variant with
  | durstenfeld => exact Nat.coprime_one_right size
  | insideOut => exact (Nat.coprime_self_sub_right filled).mpr (Nat.coprime_one_right size)

/-- Let the source answer 0 to every request: the fixed source of the value 0 is such a
source, and so is any script of zeros, also the empty one. Then the in-place form moves the
first item behind all others, and the inside-out form moves the last item before all others.
One form after the other restores the items, in either order. Each form restores them when
it is repeated as often as there are items, and with different items no smaller number of
repetitions does. -/
theorem zero_draws_rotate :
    AnswersZero FixedSource.first ∧
      (∀ script : Array Nat, (∀ number ∈ script, number = 0) →
        AnswersZero (ScriptedSource.start script)) ∧
      ∀ {α : Type u} {σ : Type v} [RandomSource σ] {state : σ}, AnswersZero state →
        (∀ (first : α) (others : List α), ((inPlace (first :: others).toArray).run state).1 =
          ⟨(others ++ [first]).toArray, .ok others.length⟩) ∧
        (∀ (others : List α) (last : α), ((insideOut (others ++ [last])).run state).1 =
          .ok ((last :: others).toArray, others.length)) ∧
        ∀ items : Array α,
          (again .insideOut (again .durstenfeld (items, state))).1 = items ∧
          (again .durstenfeld (again .insideOut (items, state))).1 = items ∧
          ∀ variant, ((again variant)^[items.size] (items, state)).1 = items ∧
            (items.toList.Nodup → ∀ count, 0 < count → count < items.size →
              ((again variant)^[count] (items, state)).1 ≠ items) := by
  refine ⟨FixedSource.answersZero_first, fun _ => ScriptedSource.answersZero_start, ?_⟩
  intro α σ _ state zero
  have restored : ∀ (items : Array α) {first second : Variant}, first ≠ second →
      (again second (again first (items, state))).1 = items := by
    intro items first second other
    have start : AnswersZero (items, state).2 := zero
    obtain ⟨moved, zeroAfter⟩ := again_of_answersZero first start
    rw [(again_of_answersZero second zeroAfter).1, moved, size_rotated]
    exact rotated_shift items other
  refine ⟨?_, ?_, fun items => ⟨restored items (by decide), restored items (by decide), ?_⟩⟩
  · intro first others
    have left := (run_of_answersZero .durstenfeld (first :: others).toArray zero).1
    simpa [shuffle, rotated, shift] using left
  · intro others last
    have left := (run_of_answersZero .insideOut (others ++ [last]).toArray zero).1
    rw [shuffle, Drawing.run_map, writeBack_eq_ok_iff] at left
    simpa [rotated, shift, List.rotate_append_length_eq] using left
  · intro variant
    refine ⟨?_, ?_⟩
    · rw [(iterate_again variant zero _).1]
      exact rotated_size_mul items _
    · intro distinct count positive fewer back
      rw [(iterate_again variant zero _).1] at back
      have filled : 0 < items.size := positive.trans fewer
      have whole := (coprime_shift variant filled).dvd_of_dvd_mul_right
        (dvd_of_rotated_eq filled distinct back)
      exact absurd (Nat.le_of_dvd positive whole) (Nat.not_le.mpr fewer)

/-- Four items, shuffled with the value 0 and with a script of two zeros. -/
theorem zero_draws_rotate_four :
    (∀ number ∈ #[0, 0], number = 0) ∧ AnswersZero (ScriptedSource.start #[0, 0]) ∧
      AnswersZero FixedSource.first ∧
      ((inPlace #[0, 1, 2, 3]).run (ScriptedSource.start #[0, 0])).1 = ⟨#[1, 2, 3, 0], .ok 3⟩ ∧
      ((insideOut [0, 1, 2, 3]).run FixedSource.first).1 = .ok (#[3, 0, 1, 2], 3) ∧
      [0, 1, 2, 3].Nodup ∧
      ((again .insideOut)^[3] (#[0, 1, 2, 3], FixedSource.first)).1 ≠ #[0, 1, 2, 3] ∧
      ((again .insideOut)^[4] (#[0, 1, 2, 3], FixedSource.first)).1 = #[0, 1, 2, 3] := by
  obtain ⟨first, scripts, rotations⟩ := zero_draws_rotate.{0, 0}
  have zeros : ∀ number ∈ #[0, 0], number = 0 := by decide
  have script := scripts #[0, 0] zeros
  have distinct : [0, 1, 2, 3].Nodup := by decide
  obtain ⟨back, sooner⟩ := ((rotations first).2.2 #[0, 1, 2, 3]).2.2 .insideOut
  exact ⟨zeros, script, first, (rotations script).1 0 [1, 2, 3],
    (rotations first).2.1 [0, 1, 2] 3, distinct, sooner distinct 3 (by decide) (by decide), back⟩

end Shuffle

end CardShuffle
