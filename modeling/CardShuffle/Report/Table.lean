import CardShuffle.Decimal.Style
import CardShuffle.Report

/-!
# Report tables

A table has a headline, one row for each permutation in the order of the ranks,
a line of statistics and a verdict. A row shows the permutation, its count, its
share of the trials and its deviation from the expected count in percent.
-/

namespace CardShuffle.Report

/-- The entries of a permutation in brackets. -/
def label (entries : List Nat) : String :=
  "[" ++ ", ".intercalate (entries.map toString) ++ "]"

/-- The deviation of a count from the expected one in percent, or zero when
nothing is expected. -/
def percentOff (expected : Float) (count : Nat) : Float :=
  if 0.0 < expected then
    ((Measure.ofCount count : Float) - expected) / expected * 100.0
  else
    0.0

/-- The row of the permutation with a rank. -/
def row? (report : Report Float) (rank count : Nat) : Option String := do
  let entries ← Ranking.unrank? report.items rank
  let name := Decimal.alignLeft (report.items * 3 + 2) (label entries)
  let times := Decimal.alignRight 10 (toString count)
  let share := Decimal.alignRight 8 (Decimal.fixed 4 false (report.frequency rank))
  let deviation :=
    Decimal.alignRight 7 (Decimal.fixed 2 true (percentOff report.expected count))
  return s!"  {name} {times} {share} {deviation}%\n"

/-- The rows of the permutations from a rank on. -/
def rowsFrom? (report : Report Float) : (rank : Nat) -> (counts : List Nat) ->
    Option (List String)
  | _, [] => some []
  | rank, count :: counts => do
      let row ← row? report rank count
      let rows ← rowsFrom? report (rank + 1) counts
      return row :: rows

/-- The line above the rows. -/
def headline (report : Report Float) (variant : String) : String :=
  let expected := Decimal.fixed 1 false report.expected
  s!"{variant}: {report.items} items, {report.trials} trials, " ++
    s!"{report.permutations} permutations, expected {expected} each\n"

/-- The line below the rows. -/
def statistics (report : Report Float) (tolerance : Float) : String :=
  let chiSquare := Decimal.fixed 3 false report.chiSquare
  let deviation := Decimal.fixed 2 false (report.maxRelativeDeviation * 100.0)
  let allowed := Decimal.fixed 2 false (tolerance * 100.0)
  s!"chi-square {chiSquare} ({report.degreesOfFreedom} dof), " ++
    s!"max deviation {deviation}% (tolerance {allowed}%)\n"

/-- The last line. -/
def verdict (passed : Bool) : String :=
  if passed then "UNIFORM" else "BIASED"

/-- The table of a report. It has no value when a row needs a factorial that is
no word. -/
def render? (report : Report Float) (variant : String) (tolerance : Float) (passed : Bool) :
    Option String := do
  let rows ← rowsFrom? report 0 report.counts.toList
  return String.join
    (headline report variant :: rows ++ [statistics report tolerance, verdict passed])

end CardShuffle.Report
