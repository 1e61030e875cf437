import CardShuffle.Proofs.Course
import CardShuffle.Source.Seeded

/-!
# Sources that keep their promise

A source is honest when it answers every sequence of requests below the bounds, as
long as these are positive. It stays honest whatever it is asked. A shuffle asks for
no bound below two, so with an honest source it completes (`completes_of_honest`), and
its swaps stay inside the items (`fits_of_honest`).
Seeded sources are honest at every place of their keystream.
-/

namespace CardShuffle

universe u v

namespace RandomSource

variable {σ : Type v} [RandomSource σ]

/-- The source answers below every positive bound, however often it is asked. -/
def Honest (state : σ) : Prop :=
  ∀ bounds : List Nat, (∀ bound ∈ bounds, 0 < bound) →
    ∀ exchange ∈ answerAll state bounds, exchange.Kept

/-- An honest source stays honest when it is asked for positive bounds. -/
theorem Honest.after {state : σ} (honest : Honest state) {bounds : List Nat}
    (positive : ∀ bound ∈ bounds, 0 < bound) : Honest (after state bounds) := by
  intro later positiveLater exchange member
  apply honest (bounds ++ later)
  · intro bound asked
    rcases List.mem_append.mp asked with before | behind
    · exact positive bound before
    · exact positiveLater bound behind
  · rw [answerAll_append]
    exact List.mem_append_right _ member

/-- A kind of source whose draws are all below their positive bounds is honest. -/
theorem honest_of_draw_lt
    (below : ∀ (state : σ) (bound : Nat), 0 < bound → (draw state bound).1 < bound)
    (state : σ) : Honest state := by
  intro bounds positive
  induction bounds generalizing state with
  | nil => simp [answerAll]
  | cons bound bounds ih =>
      obtain ⟨first, others⟩ := List.forall_mem_cons.mp positive
      rw [answerAll, List.forall_mem_cons]
      exact ⟨below state bound first, ih _ others⟩

end RandomSource

/-- Seeded sources keep their promise. -/
theorem SeededSource.honest (source : SeededSource) : RandomSource.Honest source := by
  apply RandomSource.honest_of_draw_lt
  intro state bound positive
  have draw : RandomSource.draw state bound = below bound state.patience state := by
    simp [RandomSource.draw, Nat.ne_of_gt positive]
  rw [draw]
  exact below_lt positive state.patience state

namespace Shuffle

variable {α : Type u} {σ : Type v} [RandomSource σ]

/-- No form asks for the bound zero. -/
theorem pos_of_mem_schedule {variant : Variant} {size bound : Nat}
    (scheduled : bound ∈ variant.schedule size) : 0 < bound :=
  Nat.lt_of_lt_of_le Nat.two_pos (Variant.mem_schedule_iff.mp scheduled).1

/-- An honest source answers the whole schedule of a form in range. -/
theorem kept_of_honest (variant : Variant) (size : Nat) {state : σ}
    (honest : RandomSource.Honest state) :
    ∀ exchange ∈ RandomSource.answerAll state (variant.schedule size), exchange.Kept :=
  honest _ fun _ => pos_of_mem_schedule

/-- With an honest source a shuffle completes, and the source stays honest. -/
theorem completes_of_honest (variant : Variant) (items : Array α) {state : σ}
    (honest : RandomSource.Honest state) :
    ((shuffle variant items).run state).1.outcome = .ok (items.size - 1) ∧
      RandomSource.Honest ((shuffle variant items).run state).2 := by
  obtain ⟨taken, left⟩ :=
    run_of_kept variant items state (kept_of_honest variant items.size honest)
  constructor
  · rw [left]
  · rw [← Drawing.after_transcript, taken, RandomSource.map_bound_answerAll]
    exact honest.after fun _ => pos_of_mem_schedule

/-- With an honest source all swaps of a shuffle are inside its items. -/
theorem fits_of_honest (variant : Variant) (items : Array α) {state : σ}
    (honest : RandomSource.Honest state) :
    ∀ exchange ∈ (shuffle variant items).transcript state, exchange.Fits items.size := by
  have kept := kept_of_honest variant items.size honest
  have asked : (RandomSource.answerAll state (variant.schedule items.size)).map Exchange.bound <+:
      variant.schedule items.size :=
    ⟨[], by rw [List.append_nil, RandomSource.map_bound_answerAll]⟩
  rw [(run_of_kept variant items state kept).1]
  exact fits_of_asked asked kept

end Shuffle

end CardShuffle
