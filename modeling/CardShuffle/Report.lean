import CardShuffle.Histogram

/-!
# Uniformity reports

A report compares the counts of a histogram with the count every permutation
would have if all were equally likely. It gives Pearson's chi-square statistic
and the largest relative deviation of a count from the expected one.

The arithmetic is stated once, for any numbers with the operations of
`Measure`, in the order in which it is carried out. Programs compute in `Float`;
the same report over exact numbers says what the figures mean.
-/

namespace CardShuffle

/-- Numbers a report can be computed in. -/
class Measure (κ : Type) extends Add κ, Sub κ, Mul κ, Div κ where
  /-- The number nearest to a count. -/
  ofCount : Nat -> κ
  /-- The absolute value. -/
  magnitude : κ -> κ
  /-- Whether the first number is below the second. -/
  below : κ -> κ -> Bool
  /-- Whether the first number is at most the second. -/
  atMost : κ -> κ -> Bool

instance : Measure Float where
  ofCount count := (UInt64.ofNat count).toFloat
  magnitude := Float.abs
  below left right := left < right
  atMost left right := left ≤ right

/-- The figures of a histogram. -/
structure Report (κ : Type) where
  items : Nat
  trials : Nat
  /-- The number of permutations. -/
  permutations : Nat
  /-- The count of every permutation if all were equally likely. -/
  expected : κ
  minCount : Nat
  maxCount : Nat
  /-- The largest distance of a count from the expected one, over the expected one. -/
  maxRelativeDeviation : κ
  chiSquare : κ
  degreesOfFreedom : Nat
  /-- The counts, at the ranks of the permutations. -/
  counts : Array Nat
  deriving Repr, Inhabited

namespace Report

variable {κ : Type} [Measure κ]

/-- The larger one of two numbers. -/
def larger (left right : κ) : κ :=
  if Measure.below left right then right else left

/-- Take one count into the chi-square statistic and the largest deviation.
Without an expected count both stay as they are. -/
def observe (expected : κ) (figures : κ × κ) (count : Nat) : κ × κ :=
  let difference := Measure.ofCount count - expected
  if Measure.below (Measure.ofCount 0) expected then
    (figures.1 + difference * difference / expected,
      larger figures.2 (Measure.magnitude difference / expected))
  else
    figures

/-- The report of a histogram. -/
def ofHistogram (histogram : Histogram) : Report κ :=
  let permutations := histogram.counts.size
  let expected : κ := Measure.ofCount histogram.trials / Measure.ofCount permutations
  let figures := histogram.counts.foldl (observe expected) (Measure.ofCount 0, Measure.ofCount 0)
  { items := histogram.items
    trials := histogram.trials
    permutations
    expected
    minCount := histogram.counts.toList.min?.getD 0
    maxCount := histogram.counts.toList.max?.getD 0
    maxRelativeDeviation := figures.2
    chiSquare := figures.1
    degreesOfFreedom := permutations - 1
    counts := histogram.counts }

/-- Whether anything was recorded and no count deviates by more than the
tolerance. -/
def isWithin (report : Report κ) (tolerance : κ) : Bool :=
  0 < report.trials && Measure.atMost report.maxRelativeDeviation tolerance

/-- The share of the trials that gave the permutation of a rank. -/
def frequency (report : Report κ) (rank : Nat) : κ :=
  if report.trials = 0 then
    Measure.ofCount 0
  else
    Measure.ofCount (report.counts.getD rank 0) / Measure.ofCount report.trials

end Report

end CardShuffle
