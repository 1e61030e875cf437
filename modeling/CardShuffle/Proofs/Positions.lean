import CardShuffle.Proofs.Course

/-!
# A shuffle looks at positions only

Two computations go in step when they make the same requests whatever is answered, and
end with related values (`Drawing.InStep`). No source can tell one from the other
(`Drawing.InStep.run`).

A shuffle of some items goes in step with the shuffle of what a function makes of each of
them (`inStep_shuffle`): what is asked depends on the number of items alone, and a swap
moves what was made of an item as it moves the item. So the function may as well be
applied afterwards. Any sequence is made from its own positions, by looking up what stands
there, and so any shuffle is the shuffle of `0, 1, …, n - 1` read as positions
(`shuffle_moves_positions`).
-/

namespace CardShuffle

universe u v w

variable {α γ : Type u} {β δ : Type w} {σ : Type v} [RandomSource σ]

namespace Drawing

/-- Whatever is answered, two computations make the same requests, and they end with
related values. -/
inductive InStep (related : α -> β -> Prop) : Drawing α -> Drawing β -> Prop where
  | done {value : α} {other : β} (ends : related value other) :
      InStep related (.done value) (.done other)
  | ask {bound : Nat} {next : Nat -> Drawing α} {nextOther : Nat -> Drawing β}
      (answered : ∀ answer, InStep related (next answer) (nextOther answer)) :
      InStep related (.ask bound next) (.ask bound nextOther)

variable {related : α -> β -> Prop} {drawing : Drawing α} {other : Drawing β}

/-- Computations stay in step when related values are made into related values. -/
theorem InStep.map {relatedAfter : γ -> δ -> Prop} {first : α -> γ} {second : β -> δ}
    (inStep : InStep related drawing other)
    (kept : ∀ value otherValue, related value otherValue →
      relatedAfter (first value) (second otherValue)) :
    InStep relatedAfter (drawing.map first) (other.map second) := by
  induction inStep with
  | done ends => exact .done (kept _ _ ends)
  | ask _ ih => exact .ask ih

/-- From any source, computations in step take the same exchanges, reach related values
and leave the source in the same state. -/
theorem InStep.run (inStep : InStep related drawing other) (state : σ) :
    related (drawing.run state).1 (other.run state).1 ∧
      other.transcript state = drawing.transcript state ∧
      (other.run state).2 = (drawing.run state).2 := by
  induction inStep generalizing state with
  | done ends => exact ⟨ends, rfl, rfl⟩
  | @ask bound next nextOther _ ih =>
      obtain ⟨values, exchanges, states⟩ :=
        ih (RandomSource.draw state bound).1 (RandomSource.draw state bound).2
      refine ⟨values, ?_, states⟩
      rw [transcript_ask, transcript_ask, exchanges]

end Drawing

/-- A swap moves what is made of an item as it moves the item. -/
theorem Exchange.swap_map (exchange : Exchange) (transform : α -> β) (items : Array α) :
    exchange.swap (items.map transform) = (exchange.swap items).map transform := by
  apply Array.ext
  · simp
  · intro position _ _
    simp only [Exchange.swap, Array.getElem_swapIfInBounds, Array.getElem_map, Array.size_map]
    split_ifs <;> rfl

/-- What is left of a shuffle when each item is replaced by what a function makes of it. -/
def Shuffled.map (transform : α -> β) (left : Shuffled α) : Shuffled β :=
  ⟨left.items.map transform, left.outcome⟩

namespace Shuffle

open Drawing (InStep)

/-- The loop asks the same of the items and of what is made of them, and moves both alike. -/
theorem inStep_swapAlong (transform : α -> β) (bounds : List Nat) (items : Array α) :
    InStep (fun left images => images = left.map (·.map transform) id)
      (swapAlong bounds items) (swapAlong bounds (items.map transform)) := by
  induction bounds generalizing items with
  | nil => exact .done rfl
  | cons bound bounds ih =>
      rw [swapAlong, swapAlong]
      refine .ask fun drawn => ?_
      by_cases inRange : drawn < bound
      · rw [if_pos inRange, if_pos inRange, Exchange.swap_map]
        exact ih _
      · rw [if_neg inRange, if_neg inRange]
        exact .done rfl

/-- A form concludes alike with the items and with what is made of them. -/
theorem conclude_map (variant : Variant) (transform : α -> β) (items swapped : Array α)
    (ending : Option OutOfRange) :
    conclude variant (items.map transform) (swapped.map transform, ending) =
      (conclude variant items (swapped, ending)).map transform := by
  cases ending with
  | none => simp [conclude, Shuffled.map]
  | some violation => cases variant <;> rfl

/-- A shuffle of items goes in step with the shuffle of what is made of them. -/
theorem inStep_shuffle (variant : Variant) (transform : α -> β) (items : Array α) :
    InStep (fun left images => images = left.map transform) (shuffle variant items)
      (shuffle variant (items.map transform)) := by
  rw [shuffle_eq, shuffle_eq, Array.size_map]
  apply (inStep_swapAlong transform _ items).map
  rintro ⟨swapped, ending⟩ _ rfl
  exact conclude_map variant transform items swapped ending

/-- Looking up the positions of a sequence gives its items. -/
theorem map_getElem?_range (items : Array α) :
    (Array.range items.size).map (items[·]?) = items.map some := by
  apply Array.ext
  · simp
  · intro position _ inside
    have within : position < items.size := by simpa using inside
    simp [within]

/-- A function may be applied to the items before a shuffle or to what the shuffle leaves.
With any source it leaves the same either way, after the same number of draws or with the
same answer out of range; the same bounds are asked for and get the same answers, and the
source is left in the same state. So a shuffle of any items is the one of their positions:
what it leaves are the items at the positions that the shuffle of `0, 1, …, n - 1` leaves,
and the shuffles end, ask and leave the source alike. -/
theorem shuffle_moves_positions (variant : Variant) (transform : α -> β) (items : Array α)
    (state : σ) :
    let plain := shuffle variant items
    let images := shuffle variant (items.map transform)
    let positions := shuffle variant (Array.range items.size)
    ((images.run state).1.items = (plain.run state).1.items.map transform ∧
        (images.run state).1.outcome = (plain.run state).1.outcome ∧
        images.transcript state = plain.transcript state ∧
        (images.run state).2 = (plain.run state).2) ∧
      (plain.run state).1.items.map some = (positions.run state).1.items.map (items[·]?) ∧
        (plain.run state).1.outcome = (positions.run state).1.outcome ∧
        plain.transcript state = positions.transcript state ∧
        (plain.run state).2 = (positions.run state).2 := by
  intro plain images positions
  obtain ⟨left, exchanges, states⟩ := (inStep_shuffle variant transform items).run state
  -- The items themselves and their positions are made into the same sequence.
  obtain ⟨found, exchangesFound, statesFound⟩ := (inStep_shuffle variant some items).run state
  obtain ⟨foundAt, exchangesAt, statesAt⟩ :=
    (inStep_shuffle variant (items[·]?) (Array.range items.size)).run state
  rw [map_getElem?_range] at foundAt exchangesAt statesAt
  have same : (plain.run state).1.map some = (positions.run state).1.map (items[·]?) :=
    found.symm.trans foundAt
  refine ⟨⟨congrArg Shuffled.items left, congrArg Shuffled.outcome left, exchanges, states⟩,
    congrArg Shuffled.items same, congrArg Shuffled.outcome same,
    exchangesFound.symm.trans exchangesAt, statesFound.symm.trans statesAt⟩

end Shuffle

end CardShuffle
