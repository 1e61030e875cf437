import CardShuffle.Proofs.Table
import CardShuffle.Proofs.Validated

/-!
# Verdicts of analyses

An analysis merges its chunks into an empty histogram. Merging keeps the number of items
and the number of counts, so whatever is reported has one count for each permutation of
the items (`Service.covers_of_analyze`). The items have been accepted, which makes every
row of the table possible. Hence an analysis that has a report has a verdict too, and its
text is a complete table whose last line says whether the report is within the tolerance
(`Run.exists_table_of_report`).
-/

namespace CardShuffle

open scoped Nat

universe u

/-! ## A count for each permutation -/

namespace Histogram

/-- A histogram is one of a number of items and has a count for each permutation. -/
structure Covers (items : Nat) (histogram : Histogram) : Prop where
  items_eq : histogram.items = items
  size_eq : histogram.counts.size = items !

/-- There is a count for each permutation before anything is recorded. -/
theorem covers_empty (items : Nat) : (empty items).Covers items :=
  ⟨rfl, by simp [empty, Ranking.factorial_eq]⟩

variable {items : Nat} {histogram other result : Histogram}

/-- Sums of counts have the places of the first list. -/
theorem length_addCounts? {lefts rights sums : List Nat}
    (added : addCounts? lefts rights = some sums) : sums.length = lefts.length := by
  induction lefts generalizing rights sums with
  | nil =>
      obtain rfl : [] = sums := by simpa [addCounts?] using added
      rfl
  | cons left lefts ih =>
      cases rights with
      | nil =>
          obtain rfl : left :: lefts = sums := by simpa [addCounts?] using added
          rfl
      | cons right rights =>
          simp only [addCounts?, Option.bind_eq_bind, Option.bind_eq_some_iff] at added
          obtain ⟨sum, -, later, addedLater, made⟩ := added
          obtain rfl := Option.some.inj made
          simp [ih addedLater]

/-- Merging adds no count and takes none away. -/
theorem Covers.merge? (covers : histogram.Covers items)
    (merged : histogram.merge? other = some result) : result.Covers items := by
  unfold Histogram.merge? at merged
  split_ifs at merged
  simp only [Option.bind_eq_bind, Option.bind_eq_some_iff] at merged
  obtain ⟨counts, added, trials, -, made⟩ := merged
  obtain rfl := Option.some.inj made
  exact ⟨covers.items_eq, by simpa [length_addCounts? added] using covers.size_eq⟩

end Histogram

namespace Analysis

variable {σ : Type u} [RandomSource σ] {variant : Variant} {items : Nat}

/-- Chunks add no count and take none away. -/
theorem covers_runChunks {covered trials count : Nat} {makeSource : Nat -> σ} {chunks : List Nat}
    {merged result : Histogram} (covers : merged.Covers covered)
    (ran : runChunks variant items trials count makeSource chunks merged = .ok result) :
    result.Covers covered := by
  induction chunks generalizing merged with
  | nil =>
      obtain rfl := Except.ok.inj ran
      exact covers
  | cons chunk chunks ih =>
      rw [runChunks] at ran
      obtain ⟨histogram, -, ran⟩ := bind_eq_ok_iff.mp ran
      obtain ⟨next, joined, ran⟩ := bind_eq_ok_iff.mp ran
      exact ih (covers.merge? (Stop.require_eq_ok_iff.mp joined)) ran

/-- The histogram of an analysis has a count for each permutation of the items. -/
theorem covers_histogram {trials chunks seed : Nat} {makeSource : Nat -> σ} {result : Histogram}
    (counted : histogram variant items trials chunks seed makeSource = .ok result) :
    result.Covers items := by
  rw [histogram] at counted
  obtain ⟨-, -, ran⟩ := bind_eq_ok_iff.mp counted
  exact covers_runChunks (Histogram.covers_empty items) ran

end Analysis

/-- The settings for what is reported have been accepted, and the report has a count for
each permutation of the items. -/
theorem Service.covers_of_analyze {settings : Settings} {analysis : AnalysisSettings}
    {metrics : Metrics} {report : Report Float}
    (reported : (analyze settings analysis metrics).1 = .ok report) :
    analysis.validate = .ok () ∧ report.items = analysis.items ∧
      report.counts.size = analysis.items ! := by
  unfold analyze at reported
  cases accepted : analysis.validate with
  | error fault => simp [accepted, Stop.report] at reported
  | ok _ =>
      cases counted : (Analysis.report settings.variant analysis.items analysis.trials
          analysis.chunks analysis.seed SeededSource.ofSeed : Except _ (Report Float)) with
      | error stop => simp [accepted, counted] at reported
      | ok made =>
          obtain rfl : made = report := by simpa [accepted, counted] using reported
          obtain ⟨histogram, ran, rfl⟩ := exists_of_map_eq_ok counted
          have covers := Analysis.covers_histogram ran
          exact ⟨rfl, covers.items_eq, covers.size_eq⟩

/-! ## The lines of an output -/

/-- The lines of an output. The break that ends the last line begins no other. -/
def outputLines (output : String) : List String :=
  (output.toList.splitOn '\n').dropLast.map String.ofList

/-- A text that is printed as a line has the lines that its breaks split it into. -/
theorem outputLines_append (text : String) :
    outputLines (text ++ "\n") = (text.toList.splitOn '\n').map String.ofList := by
  have split : (text ++ "\n").toList.splitOn '\n' = text.toList.splitOn '\n' ++ [[]] := by
    rw [String.toList_append]
    exact List.splitOn_append_cons_self _ _
  rw [outputLines, split, List.dropLast_concat]

/-- The lines of a table for a number of items: a headline, a row for each permutation, the
statistics and the verdict. -/
def TableLines (items : Nat) (verdict : String) (lines : List String) : Prop :=
  ∃ headline rows statistics, lines = headline :: rows ++ [statistics, verdict] ∧
    rows.length = items !

/-- The verdict is the last line of a table. -/
theorem TableLines.getLast?_eq {items : Nat} {verdict : String} {lines : List String}
    (table : TableLines items verdict lines) : lines.getLast? = some verdict := by
  obtain ⟨headline, rows, statistics, rfl, -⟩ := table
  have last : headline :: rows ++ [statistics, verdict] =
      (headline :: rows ++ [statistics]) ++ [verdict] := by simp
  rw [last, List.getLast?_concat]

/-! ## Verdicts -/

namespace Run

variable {settings : Settings}

/-- An analysis has a verdict exactly when it has a report and the report has a table. The
verdict is whether the report is within the tolerance of the settings. -/
theorem analyze_eq_ok_iff {verdict : Verdict} :
    analyze settings = .ok verdict ↔
      ∃ report, (Service.analyze settings settings.analysis {}).1 = .ok report ∧
        report.isWithin settings.analysis.tolerance = verdict.passed ∧
        report.render? settings.variant.name settings.analysis.tolerance verdict.passed =
          some verdict.text := by
  obtain ⟨text, passed⟩ := verdict
  rw [analyze, bind_eq_ok_iff]
  simp only [Stop.restate_eq_ok_iff, bind_eq_ok_iff, Stop.require_eq_ok_iff]
  constructor
  · rintro ⟨report, reported, text, written, made⟩
    obtain ⟨rfl, rfl⟩ := Verdict.mk.inj (Except.ok.inj made)
    exact ⟨report, reported, rfl, written⟩
  · rintro ⟨report, reported, rfl, written⟩
    exact ⟨report, reported, text, written, rfl⟩

/-- Whatever is reported has a table, which is complete and ends in the verdict. -/
theorem exists_table_of_report {report : Report Float}
    (reported : (Service.analyze settings settings.analysis {}).1 = .ok report) (passed : Bool) :
    ∃ text, report.render? settings.variant.name settings.analysis.tolerance passed = some text ∧
      TableLines settings.analysis.items (Report.verdict passed) (outputLines (text ++ "\n")) := by
  obtain ⟨accepted, items, size⟩ := Service.covers_of_analyze reported
  obtain ⟨⟨-, bound⟩, -⟩ := AnalysisSettings.validate_eq_ok_iff.mp accepted
  have few : report.items ≤ 21 := by
    rw [items]
    exact bound.trans (by decide)
  have oneLine : OneLine settings.variant.name := by
    cases settings.variant <;> decide
  obtain ⟨text, first, figures, written, split⟩ :=
    Report.exists_table few oneLine settings.analysis.tolerance passed
  refine ⟨text, written, String.ofList first, report.rows, String.ofList figures, ?_, ?_⟩
  · rw [outputLines_append, split]
    simp
  · simpa [Report.rows] using size

/-- An analysis that has no verdict has no report, and it ends for the same reason. -/
theorem analyze_eq_error_iff {stop : Stop RunError} :
    analyze settings = .error stop ↔
      Stop.restate RunError.analysing (Service.analyze settings settings.analysis {}).1 =
        .error stop := by
  rw [analyze]
  cases reported : (Service.analyze settings settings.analysis {}).1 with
  | error reason =>
      cases reason <;> simp [Stop.restate, Stop.report, bind, Except.bind]
  | ok report =>
      obtain ⟨text, written, -⟩ := exists_table_of_report reported
        (report.isWithin settings.analysis.tolerance)
      simp [Stop.restate, bind, Except.bind, written, pure, Except.pure]

end Run

end CardShuffle
