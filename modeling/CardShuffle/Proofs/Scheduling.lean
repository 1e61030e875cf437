import CardShuffle.Proofs.Chunks

/-!
# Reports do not depend on scheduling

Chunks may be run at any time and their histograms merged in any order. A `Plan` is a
tree that says which results are combined with which and where an empty histogram is
brought in; `Plan.Yields` gives the outcomes that combining along it can have. When
several chunks fail, it is left open whose error comes out.

Chunks that complete leave tallies, and merging tallies is joining the lists of their
orders, so along any plan the outcome is the tally of all orders (`Plan.Yields.ending`).
A tally does not depend on the sequence of the orders, so the report is that of running
one chunk after another (`report_independent_of_plan`).
-/

namespace CardShuffle.Analysis

universe u

/-- A way to combine the results of chunks. -/
inductive Plan where
  /-- An empty histogram that is brought in. -/
  | empty
  /-- The result of a chunk. -/
  | chunk (number : Nat)
  | join (first second : Plan)
  deriving Repr, DecidableEq

namespace Plan

/-- The chunks whose results are combined, from left to right. -/
def chunks : Plan -> List Nat
  | empty => []
  | chunk number => [number]
  | join first second => first.chunks ++ second.chunks

/-- The outcomes that combining the results of chunks along a plan may have. An error
on either side ends it, whatever comes out on the other. -/
inductive Yields (items : Nat) (result : Nat -> Except (Stop ShuffleError) Histogram) :
    Plan -> Except (Stop ShuffleError) Histogram -> Prop where
  | empty : Yields items result .empty (.ok (.empty items))
  | chunk {number : Nat} : Yields items result (.chunk number) (result number)
  | merge {first second : Plan} {histogram other : Histogram}
      (left : Yields items result first (.ok histogram))
      (right : Yields items result second (.ok other)) :
      Yields items result (.join first second) (Stop.require (histogram.merge? other))
  | firstFails {first second : Plan} {stop : Stop ShuffleError}
      (left : Yields items result first (.error stop)) :
      Yields items result (.join first second) (.error stop)
  | secondFails {first second : Plan} {stop : Stop ShuffleError}
      (right : Yields items result second (.error stop)) :
      Yields items result (.join first second) (.error stop)

variable {items : Nat} {result : Nat -> Except (Stop ShuffleError) Histogram}

/-- Combining along a plan has an outcome. -/
theorem exists_yields (plan : Plan) : ∃ outcome, plan.Yields items result outcome := by
  induction plan with
  | empty => exact ⟨_, .empty⟩
  | chunk number => exact ⟨_, .chunk⟩
  | join first second leftHypothesis rightHypothesis =>
      obtain ⟨left, yieldsLeft⟩ := leftHypothesis
      obtain ⟨right, yieldsRight⟩ := rightHypothesis
      cases left with
      | error stop => exact ⟨_, .firstFails yieldsLeft⟩
      | ok histogram =>
          cases right with
          | error stop => exact ⟨_, .secondFails yieldsRight⟩
          | ok other => exact ⟨_, .merge yieldsLeft yieldsRight⟩

/-- The orders a chunk left, none when it failed. -/
def leftBy (run : Nat -> Except OutOfRange (List (List Nat))) (chunk : Nat) : List (List Nat) :=
  (run chunk).toOption.getD []

/-- Chunks that have completed left as many orders as their sizes add up to. -/
theorem length_flatMap_leftBy {run : Nat -> Except OutOfRange (List (List Nat))}
    {size : Nat -> Nat} {chunks : List Nat}
    (sizes : ∀ chunk left, run chunk = .ok left → left.length = size chunk)
    (completed : ∀ chunk ∈ chunks, run chunk = .ok (leftBy run chunk)) :
    (chunks.flatMap (leftBy run)).length = (chunks.map size).sum := by
  rw [List.length_flatMap]
  congr 1
  exact List.map_congr_left fun chunk member => sizes _ _ (completed chunk member)

/-- How combining along a plan ends: all its chunks have completed and the outcome is
the tally of their orders, or it is the error of one of its chunks. -/
inductive Ending (items : Nat) (run : Nat -> Except OutOfRange (List (List Nat))) (plan : Plan)
    (outcome : Except (Stop ShuffleError) Histogram) : Prop where
  | merged (completed : ∀ chunk ∈ plan.chunks, run chunk = .ok (leftBy run chunk))
      (tallied : outcome = .ok (.tally items (plan.chunks.flatMap (leftBy run))))
  | failed (chunk : Nat) (member : chunk ∈ plan.chunks) (violation : OutOfRange)
      (ended : run chunk = .error violation)
      (reported : outcome = Stop.report (.drawOutOfRange violation))

/-- Combining the tallies of chunks along a plan ends in one of the two ways, as long
as the number of orders is a word. -/
theorem Yields.ending {run : Nat -> Except OutOfRange (List (List Nat))} {size : Nat -> Nat}
    {plan : Plan} {outcome : Except (Stop ShuffleError) Histogram}
    (yields : plan.Yields items result outcome)
    (tallies : ∀ chunk, result chunk = (raise (run chunk)).map (Histogram.tally items))
    (sizes : ∀ chunk left, run chunk = .ok left → left.length = size chunk)
    (room : (plan.chunks.map size).sum < Word.limit) : Ending items run plan outcome := by
  induction yields with
  | empty => exact .merged (by simp [chunks]) (by rw [← Histogram.tally_nil]; rfl)
  | @chunk number =>
      rw [tallies]
      cases ran : run number with
      | error violation => exact .failed number (by simp [chunks]) violation ran rfl
      | ok left =>
          have here : leftBy run number = left := by rw [leftBy, ran]; rfl
          apply Ending.merged
          · intro chunk member
            rw [List.mem_singleton.mp member, ran, here]
          · simp [chunks, here, Except.map]
  | @merge first second histogram other _ _ leftHypothesis rightHypothesis =>
      rw [chunks, List.map_append, List.sum_append] at room
      cases leftHypothesis (by omega) with
      | failed _ _ _ _ reported => cases reported
      | merged completed tallied =>
          cases rightHypothesis (by omega) with
          | failed _ _ _ _ reported => cases reported
          | merged completedRight talliedRight =>
              cases tallied
              cases talliedRight
              have leftLength := length_flatMap_leftBy sizes completed
              have rightLength := length_flatMap_leftBy sizes completedRight
              apply Ending.merged
              · intro chunk member
                rcases List.mem_append.mp member with inFirst | inSecond
                · exact completed chunk inFirst
                · exact completedRight chunk inSecond
              · rw [Histogram.merge?_tally (by omega), chunks, List.flatMap_append]
                rfl
  | firstFails _ leftHypothesis =>
      rw [chunks, List.map_append, List.sum_append] at room
      cases leftHypothesis (by omega) with
      | merged _ tallied => cases tallied
      | failed chunk member violation ended reported =>
          exact .failed chunk (List.mem_append_left _ member) violation ended reported
  | secondFails _ rightHypothesis =>
      rw [chunks, List.map_append, List.sum_append] at room
      cases rightHypothesis (by omega) with
      | merged _ tallied => cases tallied
      | failed chunk member violation ended reported =>
          exact .failed chunk (List.mem_append_right _ member) violation ended reported

end Plan

variable {σ : Type u} [RandomSource σ]

/-- Let the results of all chunks of an analysis be combined along any plan, in any
order and with empty histograms brought in anywhere. This has a histogram as its
outcome exactly when no chunk fails. The histogram is then the tally of the orders that
shuffling one chunk after another leaves, and the analysis reports its figures. When
chunks fail, the outcome is the draw out of range of one of them. -/
theorem report_independent_of_plan {κ : Type} [Measure κ] (variant : Variant)
    {items trials chunks : Nat} (feasible : Feasible items trials chunks) (seed : Nat)
    (makeSource : Nat -> σ) {plan : Plan}
    (covers : plan.chunks.Perm (List.range (chunkCount trials chunks))) :
    let count := chunkCount trials chunks
    let source := fun chunk => makeSource (chunkSeed seed chunk)
    let result := fun chunk => runChunk variant items trials count (source chunk) chunk
    (∃ outcome, plan.Yields items result outcome) ∧
      ∀ outcome, plan.Yields items result outcome →
        ((∃ merged, outcome = .ok merged) ↔ ∀ chunk < count, ∃ part, result chunk = .ok part) ∧
        (∀ merged, outcome = .ok merged →
          ∃ left, allOrders variant items trials count source (List.range count) = .ok left ∧
            merged = .tally items left ∧
            report variant items trials chunks seed makeSource =
              .ok (Report.ofHistogram merged : Report κ)) ∧
        ∀ stop, outcome = .error stop →
          ∃ chunk < count, ∃ violation,
            orders variant items (share trials count chunk) (source chunk) = .error violation ∧
              result chunk = .error stop ∧ stop = .error (.drawOutOfRange violation) := by
  intro count source result
  refine ⟨plan.exists_yields, ?_⟩
  intro outcome yields
  let run := fun chunk => orders variant items (share trials count chunk) (source chunk)
  have tallies : ∀ chunk, result chunk = (raise (run chunk)).map (Histogram.tally items) :=
    fun chunk => runChunk_eq feasible.few feasible.word count (source chunk) chunk
  have total : (plan.chunks.map (share trials count)).sum = trials :=
    (covers.map _).sum_eq.trans (sum_share feasible.chunkCount_pos trials)
  have inPlan : ∀ chunk, chunk ∈ plan.chunks ↔ chunk < count := by
    intro chunk
    rw [covers.mem_iff, List.mem_range]
  have sizes : ∀ chunk left, run chunk = .ok left → left.length = share trials count chunk :=
    fun chunk left completed => (orders_spec completed).1
  have ending := yields.ending tallies sizes (by rw [total]; exact feasible.word)
  cases ending with
  | merged completed tallied =>
      have inTurn : allOrders variant items trials count source (List.range count) =
          .ok ((List.range count).flatMap (Plan.leftBy run)) :=
        allOrders_eq_ok fun chunk member =>
          completed chunk ((inPlan chunk).mpr (List.mem_range.mp member))
      have same : Histogram.tally items (plan.chunks.flatMap (Plan.leftBy run)) =
          .tally items ((List.range count).flatMap (Plan.leftBy run)) :=
        Histogram.tally_perm items (covers.flatMap_right _)
      refine ⟨⟨fun _ chunk below => ?_, fun _ => ⟨_, tallied⟩⟩, ?_, ?_⟩
      · rw [tallies, completed chunk ((inPlan chunk).mpr below)]
        exact ⟨_, rfl⟩
      · intro merged equal
        obtain rfl := Except.ok.inj (tallied.symm.trans equal)
        refine ⟨_, inTurn, same, ?_⟩
        rw [report_eq feasible, inTurn, same]
        rfl
      · intro stop equal
        cases tallied.symm.trans equal
  | failed chunk member violation ended reported =>
      have failing : result chunk = .error (.error (.drawOutOfRange violation)) := by
        rw [tallies, ended]
        rfl
      refine ⟨⟨?_, ?_⟩, ?_, ?_⟩
      · rintro ⟨merged, equal⟩
        cases reported.symm.trans equal
      · intro allComplete
        obtain ⟨part, equal⟩ := allComplete chunk ((inPlan chunk).mp member)
        cases failing.symm.trans equal
      · intro merged equal
        cases reported.symm.trans equal
      · intro stop equal
        cases reported.symm.trans equal
        exact ⟨chunk, (inPlan chunk).mp member, violation, ended, failing, rfl⟩

/-- Two chunks with scripts made from their seeds, the second chunk combined first. -/
theorem report_independent_of_plan_two_chunks :
    let plan : Plan := .join (.chunk 1) (.join .empty (.chunk 0))
    let source := fun chunk => ScriptedSource.start #[chunkSeed 5 chunk % 2]
    let result := fun chunk => runChunk .durstenfeld 2 3 2 (source chunk) chunk
    Feasible 2 3 2 ∧ plan.chunks.Perm (List.range (chunkCount 3 2)) ∧
      ∃ merged, plan.Yields 2 result (.ok merged) ∧
        ∃ left, allOrders .durstenfeld 2 3 2 source [0, 1] = .ok left ∧
          merged = .tally 2 left ∧
          report .durstenfeld 2 3 2 5 (fun seed => ScriptedSource.start #[seed % 2]) =
            .ok (Report.ofHistogram merged : Report Float) := by
  intro plan source result
  have feasible : Feasible 2 3 2 := by constructor <;> decide
  have covers : plan.chunks.Perm (List.range (chunkCount 3 2)) := by decide
  obtain ⟨⟨outcome, yields⟩, spec⟩ := report_independent_of_plan (κ := Float) .durstenfeld
    feasible 5 (fun seed => ScriptedSource.start #[seed % 2]) covers
  obtain ⟨complete, sequential, _⟩ := spec outcome yields
  have even : ∀ chunk < 2, chunkSeed 5 chunk % 2 = 0 := by decide
  have completed : ∀ chunk < 2, ∃ part, result chunk = .ok part := by
    intro chunk below
    simp only [result, source, even chunk below]
    match chunk, below with
    | 0, _ => exact ⟨⟨2, #[0, 2], 2⟩, rfl⟩
    | 1, _ => exact ⟨⟨2, #[0, 1], 1⟩, rfl⟩
  obtain ⟨merged, rfl⟩ := complete.mpr completed
  exact ⟨feasible, covers, merged, yields, sequential merged rfl⟩

end CardShuffle.Analysis
