import CardShuffle.Proofs.Course

/-!
# What a shuffle asks and what it leaves

The source of a shuffle may answer anything. `shuffle_conserves` says what becomes
of the items whatever it answers: none is added, dropped or duplicated, and a
shuffle that is ended undoes everything or keeps exactly the swaps before the end,
depending on its form. `shuffle_follows_schedule` says what is asked of the source,
in which order, how the answers decide the outcome, and that the source is left as
these requests leave it.
-/

namespace CardShuffle.Shuffle

universe u v

variable {α : Type u} {σ : Type v} [RandomSource σ]

/-- Either form concludes with the items of the walk or with those at the start. -/
theorem perm_conclude (variant : Variant) {items swapped : Array α} (same : swapped.Perm items)
    (ending : Option OutOfRange) :
    (conclude variant items (swapped, ending)).items.Perm items := by
  cases ending with
  | none => exact same
  | some violation =>
      cases variant with
      | durstenfeld => exact same
      | insideOut => exact .refl _

/-- A walk leaves the items it was given. -/
theorem Walk.perm {bounds : List Nat} {items : Array α} {taken : List Exchange}
    {result : Array α × Option OutOfRange} (walk : Walk bounds items taken result) :
    result.1.Perm items := by
  cases walk with
  | complete _ _ left => rw [left]; exact perm_swaps _ _
  | ended accepted _ _ _ _ _ left => rw [left]; exact perm_swaps accepted _

/-- A walk that takes its exchanges from a source asks it for an initial part of the
bounds. -/
theorem Walk.asked_initial {bounds : List Nat} {items : Array α} {taken : List Exchange}
    {result : Array α × Option OutOfRange} (walk : Walk bounds items taken result) :
    taken.map Exchange.bound <+: bounds := by
  cases walk with
  | complete asked _ _ => exact ⟨[], by rw [List.append_nil, asked]⟩
  | ended _ _ _ asked _ _ _ => exact asked

/-- A shuffle leaves the items it was given. -/
theorem perm_shuffle (variant : Variant) (items : Array α) (state : σ) :
    ((shuffle variant items).run state).1.items.Perm items := by
  obtain ⟨result, walk, concluded⟩ := walk_shuffle variant items state
  rw [concluded]
  exact perm_conclude variant walk.perm result.2

/-- Whatever the source answers, a shuffle leaves the items it was given, as many
and the same. When an answer ends it, the inside-out form leaves them in the order
they had; the in-place form leaves them with the swaps of the draws accepted before
that answer, from the last position down and inside the items, and no other swap. -/
theorem shuffle_conserves (variant : Variant) (items : Array α) (state : σ) :
    let taken := (shuffle variant items).transcript state
    let left := ((shuffle variant items).run state).1
    left.items.size = items.size ∧ left.items.Perm items ∧
      ∀ violation, left.outcome = .error violation →
        match variant with
        | .insideOut => left.items = items
        | .durstenfeld =>
            ∃ accepted, taken = accepted ++ [⟨violation.bound, violation.drawn⟩] ∧
              taken.map Exchange.bound <+: Variant.durstenfeld.schedule items.size ∧
              (∀ exchange ∈ accepted, exchange.Fits items.size) ∧
              violation.bound ≤ violation.drawn ∧ left.items = swaps accepted items := by
  intro taken left
  obtain ⟨result, walk, concluded⟩ :
      ∃ result, Walk (variant.schedule items.size) items taken result ∧
        left = conclude variant items result := walk_shuffle variant items state
  have same : left.items.Perm items := by
    rw [concluded]
    exact perm_conclude variant walk.perm result.2
  refine ⟨same.size_eq, same, ?_⟩
  intro violation failed
  cases walk with
  | complete _ _ finish =>
      rw [concluded, finish, outcome_conclude, verdict] at failed
      cases failed
  | ended accepted broken split asked kept outside finish =>
      rw [finish] at concluded
      cases variant with
      | insideOut => exact congrArg Shuffled.items concluded
      | durstenfeld =>
          rw [concluded, outcome_conclude, verdict] at failed
          cases failed
          have before : accepted.map Exchange.bound <+:
              Variant.durstenfeld.schedule items.size := by
            rw [split, List.map_append] at asked
            exact (List.prefix_append _ _).trans asked
          exact ⟨accepted, split, asked, fits_of_asked before kept, Nat.le_of_not_lt outside,
            congrArg Shuffled.items concluded⟩

/-- The in-place form on three items, with a second draw out of range. -/
theorem shuffle_conserves_second_draw :
    ((shuffle .durstenfeld #[10, 20, 30]).run (ScriptedSource.start #[1, 9])).1.outcome =
        .error ⟨9, 2⟩ ∧
      ∃ accepted,
        (shuffle .durstenfeld #[10, 20, 30]).transcript (ScriptedSource.start #[1, 9]) =
            accepted ++ [⟨2, 9⟩] ∧
          ((shuffle .durstenfeld #[10, 20, 30]).transcript
              (ScriptedSource.start #[1, 9])).map Exchange.bound <+:
            Variant.durstenfeld.schedule 3 ∧
          (∀ exchange ∈ accepted, exchange.Fits 3) ∧ 2 ≤ 9 ∧
          ((shuffle .durstenfeld #[10, 20, 30]).run (ScriptedSource.start #[1, 9])).1.items =
            swaps accepted #[10, 20, 30] :=
  ⟨rfl, (shuffle_conserves .durstenfeld #[10, 20, 30] (ScriptedSource.start #[1, 9])).2.2
    ⟨9, 2⟩ rfl⟩

/-- The source of a shuffle is asked for an initial part of the schedule of the
form, never for a bound below two, and is left as these requests leave it. The
shuffle completes exactly when all the answers to the schedule are in range, and
then it takes them all, one less than there are items. Otherwise it reports the
first answer out of range with its bound, having taken this answer and those before
it and none after it. -/
theorem shuffle_follows_schedule (variant : Variant) (items : Array α) (state : σ) :
    let offered := RandomSource.answerAll state (variant.schedule items.size)
    let taken := (shuffle variant items).transcript state
    let left := ((shuffle variant items).run state).1
    taken.map Exchange.bound <+: variant.schedule items.size ∧
      (∀ exchange ∈ taken, 2 ≤ exchange.bound) ∧
      ((shuffle variant items).run state).2 =
        RandomSource.after state (taken.map Exchange.bound) ∧
      ((∃ draws, left.outcome = .ok draws) ↔
        ∀ exchange ∈ offered, exchange.answer < exchange.bound) ∧
      (∀ draws, left.outcome = .ok draws →
        taken = offered ∧ draws = items.size - 1 ∧ taken.length = draws) ∧
      ∀ violation, left.outcome = .error violation →
        ∃ accepted later,
          offered = accepted ++ ⟨violation.bound, violation.drawn⟩ :: later ∧
            (∀ exchange ∈ accepted, exchange.answer < exchange.bound) ∧
            violation.bound ≤ violation.drawn ∧
            taken = accepted ++ [⟨violation.bound, violation.drawn⟩] := by
  intro offered taken left
  obtain ⟨result, walk, concluded⟩ :
      ∃ result, Walk (variant.schedule items.size) items taken result ∧
        left = conclude variant items result := walk_shuffle variant items state
  have asked := walk.asked_initial
  have initial : taken <+: offered := Drawing.transcript_initial asked
  refine ⟨asked, ?_, (Drawing.after_transcript _ state).symm, ?_⟩
  · intro exchange member
    exact (Variant.mem_schedule_iff.mp (asked.subset (List.mem_map_of_mem member))).1
  cases walk with
  | complete whole kept finish =>
      have outcome : left.outcome = .ok (items.size - 1) := by
        rw [concluded, finish, outcome_conclude, verdict]
      have length : taken.length = items.size - 1 := by
        rw [← Variant.length_schedule variant, ← whole, List.length_map]
      have all : taken = offered := by
        apply initial.eq_of_length
        rw [length, RandomSource.length_answerAll, Variant.length_schedule]
      refine ⟨⟨fun _ => all ▸ kept, fun _ => ⟨_, outcome⟩⟩, ?_, ?_⟩
      · intro draws completed
        cases outcome.symm.trans completed
        exact ⟨all, rfl, length⟩
      · intro violation failed
        cases outcome.symm.trans failed
  | ended accepted broken split _ kept outside finish =>
      have outcome : left.outcome = .error ⟨broken.answer, broken.bound⟩ := by
        rw [concluded, finish, outcome_conclude, verdict]
      obtain ⟨later, offers⟩ := initial
      have offersBroken : offered = accepted ++ broken :: later := by
        rw [← offers, split, List.append_assoc, List.singleton_append]
      refine ⟨⟨?_, ?_⟩, ?_, ?_⟩
      · rintro ⟨draws, completed⟩
        cases outcome.symm.trans completed
      · intro allKept
        exact absurd (allKept broken (by simp [offersBroken])) outside
      · intro draws completed
        cases outcome.symm.trans completed
      · intro violation failed
        cases outcome.symm.trans failed
        exact ⟨accepted, later, offersBroken, kept, Nat.le_of_not_lt outside, split⟩

/-- The inside-out form on three items, with a second draw out of range. -/
theorem shuffle_follows_schedule_second_draw :
    ((shuffle .insideOut #[10, 20, 30]).run (ScriptedSource.start #[1, 9])).1.outcome =
        .error ⟨9, 3⟩ ∧
      ∃ accepted later,
        RandomSource.answerAll (ScriptedSource.start #[1, 9]) [2, 3] =
            accepted ++ ⟨3, 9⟩ :: later ∧
          (∀ exchange ∈ accepted, exchange.answer < exchange.bound) ∧ 3 ≤ 9 ∧
          (shuffle .insideOut #[10, 20, 30]).transcript (ScriptedSource.start #[1, 9]) =
            accepted ++ [⟨3, 9⟩] :=
  ⟨rfl, (shuffle_follows_schedule .insideOut #[10, 20, 30]
    (ScriptedSource.start #[1, 9])).2.2.2.2.2 ⟨9, 3⟩ rfl⟩

end CardShuffle.Shuffle
