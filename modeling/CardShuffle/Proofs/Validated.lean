import CardShuffle.Proofs.Chunks
import CardShuffle.Proofs.Table
import CardShuffle.Run
import CardShuffle.Source.Fixed

/-!
# Accepted settings can be carried out

`Settings.validate` tests a few bounds once, and everything behind it relies on them.
A deck of an accepted size can be made, an honest source lets its shuffle complete, and
the text of the dealt deck is read back. An accepted analysis has feasible parameters,
so its report is a tally, and every row of its table has a permutation to show.
`validated_settings_run` puts this together, and adds what a run relies on without a
test of its own (`Settings.InRange`).
-/

namespace CardShuffle

universe u

/-! ## What is accepted -/

/-- The first choice of an analysis that is out of its bounds is at fault. -/
theorem AnalysisSettings.validate_eq (settings : AnalysisSettings) :
    settings.validate =
      if settings.items = 0 ∨ maximumItems < settings.items then .error (.items settings.items)
      else if settings.trials = 0 then .error .noTrials
      else if settings.chunks = 0 then .error .noChunks
      else if 0.0 < settings.tolerance ∧ settings.tolerance < 1.0 then .ok ()
      else .error (.tolerance settings.tolerance) := by
  unfold validate checkItems
  by_cases items : settings.items = 0 ∨ maximumItems < settings.items
  · rw [if_pos items, if_pos items]
    rfl
  · -- The other three tests stand in the same order on both sides.
    rw [if_neg items, if_neg items]
    simp only [bind, Except.bind, throw, throwThe, MonadExceptOf.throw, pure, Except.pure]
    grind

/-- The settings of an analysis are accepted exactly within their bounds. -/
theorem AnalysisSettings.validate_eq_ok_iff {settings : AnalysisSettings} :
    settings.validate = .ok () ↔
      (1 ≤ settings.items ∧ settings.items ≤ maximumItems) ∧ 1 ≤ settings.trials ∧
        1 ≤ settings.chunks ∧ 0.0 < settings.tolerance ∧ settings.tolerance < 1.0 := by
  rw [validate_eq]
  split_ifs with items trials chunks tolerance
  · simp only [false_iff]
    omega
  · simp [trials]
  · simp [chunks]
  · simp only [tolerance, and_self, and_true, true_iff]
    omega
  · simp only [tolerance, and_false]

/-- Settings are accepted exactly when the deck is not too large and the settings of
the analysis are accepted. -/
theorem Settings.validate_eq_ok_iff {settings : Settings} :
    settings.validate = .ok () ↔
      settings.deckSize ≤ Deck.maximumSize ∧ settings.analysis.validate = .ok () := by
  unfold validate
  by_cases large : Deck.maximumSize < settings.deckSize
  · simp [large, Nat.not_le.mpr large]
  · rw [if_neg large]
    cases settings.analysis.validate with
    | error fault => simp [Except.mapError]
    | ok accepted => simp [Except.mapError, Nat.le_of_not_lt large]

/-- Accepted settings of an analysis with a number of trials that is a word are
feasible. -/
theorem AnalysisSettings.feasible {settings : AnalysisSettings}
    (accepted : settings.validate = .ok ()) (word : settings.trials < Word.limit) :
    Analysis.Feasible settings.items settings.trials settings.chunks := by
  obtain ⟨⟨someItem, items⟩, someTrial, someChunk, _⟩ := validate_eq_ok_iff.mp accepted
  exact ⟨someItem, items, someTrial, word, someChunk⟩

/-! ## Dealing -/

/-- With an honest source a deck of an accepted size is dealt, and it holds the numbers
below its size. -/
theorem Run.dealFrom_of_honest {σ : Type u} [RandomSource σ] {source : σ}
    (honest : RandomSource.Honest source) {settings : Settings}
    (fits : settings.deckSize ≤ Deck.maximumSize) :
    ∃ dealt, dealFrom source settings = .ok dealt ∧
      dealt.ids.Perm (List.range settings.deckSize) := by
  have made : Deck.ofSize settings.deckSize = .ok (.sorted settings.deckSize) :=
    Deck.ofSize_eq_ok_iff.mpr ⟨fits, rfl⟩
  have completed := (Shuffle.completes_of_honest settings.variant
    (Deck.sorted settings.deckSize).cards honest).1
  obtain ⟨dealt, outcome, answered⟩ :
      ∃ dealt outcome, (Service.deal settings 0 ⟨source, {}⟩).1 = .ok (dealt, outcome) := by
    simp only [Service.deal, made, Service.shuffled, Service.shuffleDeck, completed]
    exact ⟨_, _, rfl⟩
  refine ⟨dealt, ?_, (Service.ids_of_deal answered).2⟩
  rw [dealFrom, answered]

/-- A dealt deck is read back from either text. -/
theorem Run.ofJson_shuffle {σ : Type u} [RandomSource σ] {entropy : σ} {settings : Settings}
    {dealt : Deck} (answered : deal entropy settings = .ok dealt) (complete : dealt.Complete)
    (json : Bool) :
    ∃ text, shuffle entropy settings json = .ok text ∧ Deck.ofJson text = .ok dealt := by
  rw [shuffle, answered]
  refine ⟨_, rfl, ?_⟩
  cases json with
  | true => exact complete.ofJson_toJson
  | false => exact complete.ofJson_display

/-! ## Analysing -/

/-- An accepted analysis gives a verdict. -/
theorem Run.exists_verdict {settings : Settings}
    (accepted : settings.analysis.validate = .ok ())
    (word : settings.analysis.trials < Word.limit) :
    ∃ verdict, analyze settings = .ok verdict := by
  have feasible := AnalysisSettings.feasible accepted word
  obtain ⟨left, reported⟩ := Analysis.exists_report (κ := Float) settings.variant feasible
    settings.analysis.seed fun seed => SeededSource.honest (.ofSeed seed)
  -- Labels need the factorial of one item less than there are, so 21 items would do.
  have few : (Report.ofHistogram (.tally settings.analysis.items left) : Report Float).items ≤ 21 :=
    feasible.few.trans (by decide)
  have listed := Report.rowsFrom?_eq few 0
    (Report.ofHistogram (.tally settings.analysis.items left) : Report Float).counts.toList
  simp only [analyze, Service.analyze, accepted, reported, Stop.restate, bind, Except.bind,
    Report.render?, listed, Option.bind]
  exact ⟨_, rfl⟩

/-! ## What is not tested again -/

/-- What a run under the settings relies on without a test of its own. -/
structure Settings.InRange (settings : Settings) : Prop where
  /-- The cards of the deck fit in 16 bits. -/
  ids_sorted : (Deck.sorted settings.deckSize).ids = List.range settings.deckSize
  /-- A deal swaps cards inside the deck. -/
  deal_inside : ∀ source : SeededSource,
    ∀ exchange ∈ (Shuffle.shuffle settings.variant
        (Deck.sorted settings.deckSize).cards).transcript source,
      exchange.Fits settings.deckSize
  /-- A trial of the analysis swaps items inside the sequence. -/
  trial_inside : ∀ source : SeededSource,
    ∀ exchange ∈ (Shuffle.shuffle settings.variant
        (Array.range settings.analysis.items)).transcript source,
      exchange.Fits settings.analysis.items
  /-- The trials are divided by a positive number. -/
  someChunk : 0 < Analysis.chunkCount settings.analysis.trials settings.analysis.chunks
  /-- The number of counts of a histogram is a word. -/
  counts_word : Ranking.factorial settings.analysis.items < Word.limit

/-- Accepted settings keep a run in range. -/
theorem Settings.inRange {settings : Settings} (fits : settings.deckSize ≤ Deck.maximumSize)
    (feasible : Analysis.Feasible settings.analysis.items settings.analysis.trials
      settings.analysis.chunks) : settings.InRange where
  ids_sorted := Deck.ids_sorted fits
  deal_inside := by
    intro source exchange taken
    have inside := Shuffle.fits_of_honest _ _ source.honest exchange taken
    simpa [Deck.sorted] using inside
  trial_inside := by
    intro source exchange taken
    have inside := Shuffle.fits_of_honest _ _ source.honest exchange taken
    simpa using inside
  someChunk := feasible.chunkCount_pos
  counts_word := by
    rw [Ranking.factorial_eq]
    exact Ranking.factorial_lt_limit feasible.few

/-- Whoever has accepted settings, with a number of trials that is a word, can deal and
analyse. With a seed in the settings a deal answers for either kind of text, the deck
dealt holds the numbers below its size, and the text is read back as this deck. The
analysis answers with its verdict and table, so that no error is reported and no exact
number leaves the words. What is not tested on the way is in range. -/
theorem validated_settings_run {σ : Type u} [RandomSource σ] (entropy : σ) {settings : Settings}
    (accepted : settings.validate = .ok ()) (word : settings.analysis.trials < Word.limit) :
    (∀ seed, settings.seed = some seed → ∀ json,
      ∃ text dealt, Run.shuffle entropy settings json = .ok text ∧
        Deck.ofJson text = .ok dealt ∧ dealt.ids.Perm (List.range settings.deckSize)) ∧
      (∃ verdict, Run.analyze settings = .ok verdict) ∧ settings.InRange := by
  obtain ⟨fits, analysisAccepted⟩ := Settings.validate_eq_ok_iff.mp accepted
  have feasible := AnalysisSettings.feasible analysisAccepted word
  refine ⟨?_, Run.exists_verdict analysisAccepted word, Settings.inRange fits feasible⟩
  intro seed seeded json
  obtain ⟨dealt, answered, same⟩ :=
    Run.dealFrom_of_honest (SeededSource.honest (.ofSeed seed)) fits
  have deal : Run.deal entropy settings = .ok dealt := by
    rw [Run.deal, seeded]
    exact answered
  obtain ⟨text, written, readBack⟩ :=
    Run.ofJson_shuffle deal (Deck.complete_of_ids_perm same fits) json
  exact ⟨text, dealt, written, readBack, same⟩

/-- A seeded deal of three cards and an analysis of two items. -/
theorem validated_settings_run_three_cards :
    let settings : Settings :=
      { deckSize := 3, seed := some 7, analysis := { items := 2, trials := 5, chunks := 2 } }
    settings.validate = .ok () ∧ settings.analysis.trials < Word.limit ∧
      (∃ text dealt, Run.shuffle FixedSource.first settings true = .ok text ∧
        Deck.ofJson text = .ok dealt ∧ dealt.ids.Perm (List.range 3)) ∧
      (∃ verdict, Run.analyze settings = .ok verdict) ∧ settings.InRange := by
  intro settings
  have accepted : settings.validate = .ok () := by
    rw [Settings.validate_eq_ok_iff, AnalysisSettings.validate_eq_ok_iff]
    decide
  have word : settings.analysis.trials < Word.limit := by decide
  obtain ⟨dealt, analysed, inRange⟩ := validated_settings_run FixedSource.first accepted word
  exact ⟨accepted, word, dealt 7 rfl true, analysed, inRange⟩

end CardShuffle
