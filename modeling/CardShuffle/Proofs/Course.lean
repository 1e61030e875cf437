import CardShuffle.Proofs.Swaps
import CardShuffle.Shuffle

/-!
# The course of a shuffle

The two forms are one loop. Either asks for the bounds of its schedule in turn and
makes the swap of each answer in range; the first answer out of range ends it.
`Shuffle.swapAlong` is this loop on the whole sequence of items, and
`Shuffle.shuffle_eq` says that both forms are it: appending an item to the items
placed so far and swapping it into a position is a swap in the whole sequence. The
forms differ in their schedule, and in what they leave when they are ended.

`Shuffle.Walk` names the two ways the loop can go. What a shuffle asks, reports and
leaves follows from the cases of `Shuffle.walk_shuffle`.
-/

namespace CardShuffle

universe u v

namespace Variant

/-- The bounds a form asks for when no answer ends it. -/
def schedule : Variant -> Nat -> List Nat
  | durstenfeld, size => (List.range' 2 (size - 1)).reverse
  | insideOut, size => List.range' 2 (size - 1)

@[simp]
theorem length_schedule (variant : Variant) (size : Nat) :
    (variant.schedule size).length = size - 1 := by
  cases variant <;> simp [schedule]

/-- A schedule holds the numbers from two up to the number of items. -/
theorem mem_schedule_iff {variant : Variant} {size bound : Nat} :
    bound ∈ variant.schedule size ↔ 2 ≤ bound ∧ bound ≤ size := by
  cases variant <;> simp only [schedule, List.mem_reverse, List.mem_range'_1] <;> omega

/-- The schedule of the in-place form starts with the number of items. -/
theorem schedule_durstenfeld_add_two (size : Nat) :
    durstenfeld.schedule (size + 2) = (size + 2) :: durstenfeld.schedule (size + 1) := by
  simp only [schedule, Nat.add_sub_cancel, show size + 2 - 1 = size + 1 by omega,
    List.range'_1_concat, List.reverse_append]
  simp [Nat.add_comm]

end Variant

namespace Shuffle

variable {α : Type u} {σ : Type v} [RandomSource σ]

/-- Ask for the bounds of a list in turn and make the swap of each answer in range.
The first answer out of range ends the loop. -/
def swapAlong : (bounds : List Nat) -> Array α -> Drawing (Array α × Option OutOfRange)
  | [], items => .done (items, none)
  | bound :: bounds, items =>
      .ask bound fun drawn =>
        if drawn < bound then
          swapAlong bounds (Exchange.swap ⟨bound, drawn⟩ items)
        else
          .done (items, some ⟨drawn, bound⟩)

/-- The number of draws, or the answer that ended the loop. -/
def verdict (draws : Nat) : Option OutOfRange -> Except OutOfRange Nat
  | none => .ok draws
  | some violation => .error violation

/-- What a form leaves after its loop. -/
def conclude (variant : Variant) (items : Array α) :
    Array α × Option OutOfRange -> Shuffled α
  | (swapped, none) => ⟨swapped, .ok (items.size - 1)⟩
  | (swapped, some violation) =>
      match variant with
      | .durstenfeld => ⟨swapped, .error violation⟩
      | .insideOut => ⟨items, .error violation⟩

/-- Either form reports how the loop ended. -/
theorem outcome_conclude (variant : Variant) (items swapped : Array α)
    (ending : Option OutOfRange) :
    (conclude variant items (swapped, ending)).outcome = verdict (items.size - 1) ending := by
  cases ending with
  | none => rfl
  | some violation => cases variant <;> rfl

/-- Settling positions from the last down is the loop over the falling bounds. -/
theorem settle_eq (position draws : Nat) (items : Array α) :
    settle position draws items =
      (swapAlong (Variant.durstenfeld.schedule (position + 1)) items).map
        fun (swapped, ending) => ⟨swapped, verdict (draws + position) ending⟩ := by
  induction position generalizing draws items with
  | zero => rfl
  | succ position ih =>
      rw [settle, Variant.schedule_durstenfeld_add_two, swapAlong, Drawing.map]
      congr 1
      funext drawn
      split
      · rw [ih, Nat.add_assoc, Nat.add_comm 1]
        rfl
      · rfl

/-- Placing the waiting items behind those placed is the loop over the rising
bounds, on the sequence of all of them. -/
theorem place_eq (waiting : List α) (draws : Nat) {placed : Array α} (started : 0 < placed.size) :
    place waiting draws placed =
      (swapAlong (List.range' (placed.size + 1) waiting.length) (placed ++ waiting.toArray)).map
        fun (swapped, ending) =>
          (verdict (draws + waiting.length) ending).map fun draws => (swapped, draws) := by
  induction waiting generalizing draws placed with
  | nil => simp [place, swapAlong, Drawing.map, verdict, Except.map]
  | cons item waiting ih =>
      rw [place, if_neg (Nat.ne_of_gt started), List.length_cons, List.range'_succ, swapAlong,
        Drawing.map]
      congr 1
      funext drawn
      split
      next inRange =>
        -- The item is pushed to the last position of the range, so the swap stays
        -- within the items placed and leaves those still waiting alone.
        have fits : Exchange.Fits ⟨placed.size + 1, drawn⟩ (placed.push item).size :=
          ⟨inRange, by simp⟩
        have grown : placed ++ (item :: waiting).toArray = placed.push item ++ waiting.toArray := by
          simp
        have size : ((placed.push item).swapIfInBounds placed.size drawn).size =
            placed.size + 1 := by
          simp
        rw [ih (draws + 1) (by rw [size]; omega), size, grown, Exchange.swap_append fits,
          Nat.add_assoc, Nat.add_comm 1]
        rfl
      next => rfl

/-- The inside-out form is the loop over the rising bounds. -/
theorem insideOut_eq (items : List α) :
    insideOut items =
      (swapAlong (Variant.insideOut.schedule items.length) items.toArray).map
        fun (swapped, ending) =>
          (verdict (items.length - 1) ending).map fun draws => (swapped, draws) := by
  cases items with
  | nil => rfl
  | cons first items =>
      rw [insideOut, place, if_pos Array.size_empty, place_eq _ _ (by simp)]
      simp [Variant.schedule]

/-- Either form is the loop over its schedule. -/
theorem shuffle_eq (variant : Variant) (items : Array α) :
    shuffle variant items =
      (swapAlong (variant.schedule items.size) items).map (conclude variant items) := by
  cases variant with
  | durstenfeld =>
      have concluded : (fun (swapped, ending) =>
          (⟨swapped, verdict (0 + (items.size - 1)) ending⟩ : Shuffled α)) =
            conclude .durstenfeld items := by
        funext ⟨swapped, ending⟩
        cases ending <;> simp [verdict, conclude]
      rw [shuffle, inPlace, settle_eq, concluded]
      cases size : items.size with
      | zero => rfl
      | succ size => rfl
  | insideOut =>
      rw [shuffle, insideOut_eq, Drawing.map_map]
      simp only [Array.length_toList, Array.toArray_toList]
      congr 1
      funext ⟨swapped, ending⟩
      cases ending <;> rfl

/-- How the loop goes: what it takes from the source and what it ends with. -/
inductive Walk (bounds : List Nat) (items : Array α) (taken : List Exchange)
    (result : Array α × Option OutOfRange) : Prop where
  /-- Every answer was in range. -/
  | complete (asked : taken.map Exchange.bound = bounds)
      (kept : ∀ exchange ∈ taken, exchange.Kept)
      (left : result = (swaps taken items, none))
  /-- An answer was out of range, and nothing was asked after it. -/
  | ended (accepted : List Exchange) (broken : Exchange) (split : taken = accepted ++ [broken])
      (asked : taken.map Exchange.bound <+: bounds)
      (kept : ∀ exchange ∈ accepted, exchange.Kept) (outside : ¬ broken.Kept)
      (left : result = (swaps accepted items, some ⟨broken.answer, broken.bound⟩))

/-- A kept exchange in front of a walk belongs to it. -/
theorem Walk.cons {bounds : List Nat} {items : Array α} {taken : List Exchange}
    {result : Array α × Option OutOfRange} (first : Exchange) (inRange : first.Kept)
    (walk : Walk bounds (first.swap items) taken result) :
    Walk (first.bound :: bounds) items (first :: taken) result := by
  cases walk with
  | complete asked kept left =>
      exact .complete (by rw [List.map_cons, asked]) (List.forall_mem_cons.mpr ⟨inRange, kept⟩) left
  | ended accepted broken split asked kept outside left =>
      exact .ended (first :: accepted) broken (by rw [split, List.cons_append])
        (by rw [List.map_cons]; exact (List.prefix_cons_inj _).mpr asked)
        (List.forall_mem_cons.mpr ⟨inRange, kept⟩) outside left

/-- With any source the loop goes in one of the two ways. -/
theorem walk_swapAlong (bounds : List Nat) (items : Array α) (state : σ) :
    Walk bounds items ((swapAlong bounds items).transcript state)
      ((swapAlong bounds items).run state).1 := by
  induction bounds generalizing items state with
  | nil => exact .complete rfl (by simp [swapAlong]) rfl
  | cons bound bounds ih =>
      rw [swapAlong, Drawing.transcript_ask, Drawing.run_ask]
      by_cases inRange : (RandomSource.draw state bound).1 < bound
      · rw [if_pos inRange]
        exact Walk.cons ⟨bound, (RandomSource.draw state bound).1⟩ inRange (ih _ _)
      · rw [if_neg inRange]
        exact .ended [] ⟨bound, (RandomSource.draw state bound).1⟩ rfl
          (by simp) (by simp) inRange rfl

/-- A shuffle walks along its schedule and concludes from where the walk ends. -/
theorem walk_shuffle (variant : Variant) (items : Array α) (state : σ) :
    ∃ result, Walk (variant.schedule items.size) items ((shuffle variant items).transcript state)
        result ∧
      ((shuffle variant items).run state).1 = conclude variant items result := by
  rw [shuffle_eq, Drawing.transcript_map, Drawing.run_map]
  exact ⟨_, walk_swapAlong _ _ _, rfl⟩

/-- The swaps of kept exchanges along a schedule stay inside the items. -/
theorem fits_of_asked {variant : Variant} {size : Nat} {taken : List Exchange}
    (asked : taken.map Exchange.bound <+: variant.schedule size)
    (kept : ∀ exchange ∈ taken, exchange.Kept) : ∀ exchange ∈ taken, exchange.Fits size := by
  intro exchange member
  have scheduled : exchange.bound ∈ variant.schedule size :=
    asked.subset (List.mem_map_of_mem member)
  exact ⟨kept exchange member, (Variant.mem_schedule_iff.mp scheduled).2⟩

/-- Answers below a schedule make swaps inside the items. -/
theorem fits_pair {variant : Variant} {size : Nat} {answers : List Nat}
    (below : List.Forall₂ (· < ·) answers (variant.schedule size)) :
    ∀ exchange ∈ Exchange.pair (variant.schedule size) answers, exchange.Fits size := by
  apply fits_of_asked
  · exact ⟨[], by rw [List.append_nil, Exchange.map_bound_pair below.length_eq]⟩
  · exact fun exchange member => Exchange.kept_of_mem_pair below member

/-- A shuffle whose source answers its whole schedule in range takes these answers
and leaves what their swaps make of the items. -/
theorem run_of_kept (variant : Variant) (items : Array α) (state : σ)
    (kept : ∀ exchange ∈ RandomSource.answerAll state (variant.schedule items.size),
      exchange.Kept) :
    (shuffle variant items).transcript state =
        RandomSource.answerAll state (variant.schedule items.size) ∧
      ((shuffle variant items).run state).1 =
        ⟨swaps (RandomSource.answerAll state (variant.schedule items.size)) items,
          .ok (items.size - 1)⟩ := by
  obtain ⟨result, walk, concluded⟩ := walk_shuffle variant items state
  cases walk with
  | complete asked _ left =>
      have answered := Drawing.answerAll_transcript (shuffle variant items) state
      rw [asked] at answered
      rw [concluded, left, ← answered]
      exact ⟨rfl, rfl⟩
  | ended accepted broken split asked _ outside _ =>
      -- The answer that ended the walk is one of the answers to the schedule.
      have offered := Drawing.transcript_initial asked
      rw [split] at offered
      exact absurd (kept broken (offered.subset (by simp))) outside

/-- A shuffle on a script of answers below its schedule makes their swaps. -/
theorem run_start (variant : Variant) (items : Array α) {answers : List Nat}
    (below : List.Forall₂ (· < ·) answers (variant.schedule items.size)) :
    ((shuffle variant items).run (ScriptedSource.start answers.toArray)).1 =
      ⟨swaps (Exchange.pair (variant.schedule items.size) answers) items,
        .ok (items.size - 1)⟩ := by
  have answered := ScriptedSource.answerAll_start below.length_eq
  rw [(run_of_kept variant items _ ?_).2, answered]
  rw [answered]
  exact fun exchange member => Exchange.kept_of_mem_pair below member

end Shuffle

end CardShuffle
