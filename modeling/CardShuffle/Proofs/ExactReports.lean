import CardShuffle.Proofs.HistogramLaws
import CardShuffle.Report
import Mathlib.Algebra.Order.BigOperators.Group.List
import Mathlib.Algebra.Order.Field.Basic
import Mathlib.Algebra.Order.Field.Rat
import Mathlib.Order.Bounds.Basic
import Mathlib.Tactic.FieldSimp
import Mathlib.Tactic.Linarith
import Mathlib.Tactic.NormNum
import Mathlib.Tactic.Ring

/-!
# What the figures of a report mean

A report is computed in one pass over the counts, in any numbers with the operations of
`Measure`. In exact numbers the pass is a sum of squares and a maximum of distances
(`observe_eq`), and since the counts add up to the trials both have a closed form. The
maximum is known by its upper bounds: a number bounds all relative deviations exactly when
the least and the greatest count lie between two bounds (`maxRelativeDeviation_le_iff`).
The form in which it is written down, the tolerances that a report is within and the
reports without deviation all follow from this. A tolerance below one leaves no permutation
out, so too few trials are never within it (`Recording.exact_figures`).
-/

namespace CardShuffle

open scoped Nat

/-- Exact numbers. -/
instance : Measure ℚ where
  ofCount count := count
  magnitude number := |number|
  below left right := left < right
  atMost left right := left ≤ right

namespace Report

/-! ## The figures of a list of counts -/

/-- The square of a count's distance from the expected one, over the expected one. -/
def squareDeviation (expected : ℚ) (count : Nat) : ℚ :=
  (count - expected) * (count - expected) / expected

/-- A count's distance from the expected one, over the expected one. -/
def relativeDeviation (expected : ℚ) (count : Nat) : ℚ :=
  |count - expected| / expected

/-- Of exact numbers the larger one is the maximum. -/
theorem larger_eq_max (left right : ℚ) : larger left right = max left right := by
  unfold larger
  split_ifs with below
  · exact (max_eq_right (of_decide_eq_true below).le).symm
  · exact (max_eq_left (not_lt.mp (by simpa [Measure.below] using below))).symm

variable {expected : ℚ}

/-- Where something is expected, a count adds its square deviation to the one figure and
raises the other one to its relative deviation. -/
theorem observe_eq (positive : 0 < expected) (figures : ℚ × ℚ) (count : Nat) :
    observe expected figures count =
      (figures.1 + squareDeviation expected count,
        max figures.2 (relativeDeviation expected count)) := by
  have below : Measure.below (Measure.ofCount 0 : ℚ) expected = true :=
    decide_eq_true (by simpa [Measure.ofCount] using positive)
  rw [observe, if_pos below, larger_eq_max]
  rfl

/-- The first figure is a sum. -/
theorem fst_foldl_observe (positive : 0 < expected) (figures : ℚ × ℚ) (counts : List Nat) :
    (counts.foldl (observe expected) figures).1 =
      figures.1 + (counts.map (squareDeviation expected)).sum := by
  induction counts generalizing figures with
  | nil => simp
  | cons count counts ih =>
      rw [List.foldl_cons, ih, observe_eq positive, List.map_cons, List.sum_cons, add_assoc]

/-- The second figure is at most what bounds all relative deviations. -/
theorem snd_foldl_observe_le_iff (positive : 0 < expected) (figures : ℚ × ℚ) (counts : List Nat)
    (bound : ℚ) :
    (counts.foldl (observe expected) figures).2 ≤ bound ↔
      figures.2 ≤ bound ∧ ∀ count ∈ counts, relativeDeviation expected count ≤ bound := by
  induction counts generalizing figures with
  | nil => simp
  | cons count counts ih =>
      rw [List.foldl_cons, ih, observe_eq positive, max_le_iff, List.forall_mem_cons, and_assoc]

/-- The sum of the square deviations, multiplied out. -/
theorem sum_squareDeviation (expected : ℚ) (counts : List Nat) :
    (counts.map (squareDeviation expected)).sum =
      (((counts.map (· ^ 2)).sum : Nat) - 2 * expected * counts.sum +
        counts.length * expected ^ 2) / expected := by
  induction counts with
  | nil => simp
  | cons count counts ih =>
      rw [List.map_cons, List.sum_cons, ih, squareDeviation]
      simp only [List.map_cons, List.sum_cons, List.length_cons]
      push_cast
      ring

/-- A square deviation is not negative. -/
theorem squareDeviation_nonneg (positive : 0 < expected) (count : Nat) :
    0 ≤ squareDeviation expected count :=
  div_nonneg (mul_self_nonneg _) positive.le

/-- A square deviation is zero for the expected count alone. -/
theorem squareDeviation_eq_zero_iff (positive : 0 < expected) {count : Nat} :
    squareDeviation expected count = 0 ↔ (count : ℚ) = expected := by
  rw [squareDeviation, div_eq_zero_iff, or_iff_left positive.ne', mul_self_eq_zero, sub_eq_zero]

/-- Square deviations add up to zero exactly when every count is the expected one. -/
theorem sum_squareDeviation_eq_zero_iff (positive : 0 < expected) {counts : List Nat} :
    (counts.map (squareDeviation expected)).sum = 0 ↔ ∀ count ∈ counts, (count : ℚ) = expected := by
  have nonneg : ∀ deviation ∈ counts.map (squareDeviation expected), 0 ≤ deviation :=
    List.forall_mem_map.mpr fun count _ => squareDeviation_nonneg positive count
  constructor
  · intro none count member
    rw [← squareDeviation_eq_zero_iff positive]
    exact List.all_zero_of_le_zero_le_of_sum_eq_zero nonneg none (List.mem_map_of_mem member)
  · intro equal
    apply List.sum_eq_zero
    rw [List.forall_mem_map]
    exact fun count member => (squareDeviation_eq_zero_iff positive).mpr (equal count member)

/-- A relative deviation is bounded when the count is between the bounds. -/
theorem relativeDeviation_le_iff (positive : 0 < expected) {count : Nat} {bound : ℚ} :
    relativeDeviation expected count ≤ bound ↔
      (1 - bound) * expected ≤ count ∧ count ≤ (1 + bound) * expected := by
  rw [relativeDeviation, div_le_iff₀ positive, abs_le]
  constructor
  · rintro ⟨above, below⟩
    constructor <;> linarith
  · rintro ⟨above, below⟩
    constructor <;> linarith

/-! ## The report of a histogram -/

/-- The report of a histogram in exact numbers. -/
abbrev exactOf (histogram : Histogram) : Report ℚ := ofHistogram histogram

variable {histogram : Histogram}

/-- The expected count is the trials over the number of counts. -/
theorem expected_exactOf (histogram : Histogram) :
    (exactOf histogram).expected = histogram.trials / histogram.counts.size := rfl

/-- Something is expected when something was recorded and there are counts. -/
theorem expected_pos_iff :
    0 < (exactOf histogram).expected ↔ 0 < histogram.trials ∧ 0 < histogram.counts.size := by
  simp [expected_exactOf, div_pos_iff]

/-- Where something is expected there are counts. -/
theorem counts_ne_nil (positive : 0 < (exactOf histogram).expected) :
    histogram.counts.toList ≠ [] := by
  have size : 0 < histogram.counts.toList.length := (expected_pos_iff.mp positive).2
  exact List.length_pos_iff.mp size

/-- The chi-square statistic is the sum of the square deviations. -/
theorem chiSquare_exactOf (positive : 0 < (exactOf histogram).expected) :
    (exactOf histogram).chiSquare =
      (histogram.counts.toList.map (squareDeviation (exactOf histogram).expected)).sum := by
  have figure := fst_foldl_observe positive (0, 0) histogram.counts.toList
  rw [Array.foldl_toList, zero_add] at figure
  exact figure

/-- The largest relative deviation is at most what bounds all of them. -/
theorem maxRelativeDeviation_exactOf_le_iff (positive : 0 < (exactOf histogram).expected)
    {bound : ℚ} :
    (exactOf histogram).maxRelativeDeviation ≤ bound ↔
      0 ≤ bound ∧ ∀ count ∈ histogram.counts.toList,
        relativeDeviation (exactOf histogram).expected count ≤ bound := by
  have figure := snd_foldl_observe_le_iff positive (0, 0) histogram.counts.toList bound
  rw [Array.foldl_toList] at figure
  exact figure

/-- The least count of a report is one of the counts, and no count is below it. -/
theorem isLeast_minCount (nonempty : histogram.counts.toList ≠ []) :
    IsLeast {count | count ∈ histogram.counts.toList} (exactOf histogram).minCount := by
  obtain ⟨least, found⟩ := Option.ne_none_iff_exists'.mp (mt List.min?_eq_none_iff.mp nonempty)
  have value : (exactOf histogram).minCount = least := by
    rw [exactOf, ofHistogram, found, Option.getD_some]
  rw [value]
  exact List.min?_eq_some_iff.mp found

/-- The greatest count of a report is one of the counts, and no count is above it. -/
theorem isGreatest_maxCount (nonempty : histogram.counts.toList ≠ []) :
    IsGreatest {count | count ∈ histogram.counts.toList} (exactOf histogram).maxCount := by
  obtain ⟨greatest, found⟩ := Option.ne_none_iff_exists'.mp (mt List.max?_eq_none_iff.mp nonempty)
  have value : (exactOf histogram).maxCount = greatest := by
    rw [exactOf, ofHistogram, found, Option.getD_some]
  rw [value]
  exact List.max?_eq_some_iff.mp found

/-- The largest relative deviation is bounded when the least and the greatest count are
between the bounds. -/
theorem maxRelativeDeviation_le_iff (positive : 0 < (exactOf histogram).expected) {bound : ℚ} :
    (exactOf histogram).maxRelativeDeviation ≤ bound ↔
      (1 - bound) * (exactOf histogram).expected ≤ (exactOf histogram).minCount ∧
        (exactOf histogram).maxCount ≤ (1 + bound) * (exactOf histogram).expected := by
  have least := isLeast_minCount (counts_ne_nil positive)
  have greatest := isGreatest_maxCount (counts_ne_nil positive)
  rw [maxRelativeDeviation_exactOf_le_iff positive]
  simp only [relativeDeviation_le_iff positive]
  constructor
  · rintro ⟨-, within⟩
    exact ⟨(within _ least.1).1, (within _ greatest.1).2⟩
  · rintro ⟨above, below⟩
    -- The least count is not above the greatest one, so the bounds do not cross.
    have order : ((exactOf histogram).minCount : ℚ) ≤ (exactOf histogram).maxCount :=
      Nat.cast_le.mpr (least.2 greatest.1)
    have room : 1 - bound ≤ 1 + bound :=
      le_of_mul_le_mul_right (above.trans (order.trans below)) positive
    refine ⟨by linarith, fun count member => ⟨?_, ?_⟩⟩
    · exact above.trans (Nat.cast_le.mpr (least.2 member))
    · exact (Nat.cast_le.mpr (greatest.2 member)).trans below

/-- The largest relative deviation is that of the least or of the greatest count. -/
theorem maxRelativeDeviation_eq (positive : 0 < (exactOf histogram).expected) :
    (exactOf histogram).maxRelativeDeviation =
      max ((exactOf histogram).expected - (exactOf histogram).minCount)
        ((exactOf histogram).maxCount - (exactOf histogram).expected) /
          (exactOf histogram).expected := by
  apply eq_of_forall_ge_iff
  intro bound
  rw [maxRelativeDeviation_le_iff positive, div_le_iff₀ positive, max_le_iff]
  constructor
  · rintro ⟨above, below⟩
    constructor <;> linarith
  · rintro ⟨above, below⟩
    constructor <;> linarith

/-- Nothing deviates exactly when every count is the expected one. -/
theorem maxRelativeDeviation_eq_zero_iff (positive : 0 < (exactOf histogram).expected) :
    (exactOf histogram).maxRelativeDeviation = 0 ↔
      ∀ count ∈ histogram.counts.toList, (count : ℚ) = (exactOf histogram).expected := by
  have nonneg : 0 ≤ (exactOf histogram).maxRelativeDeviation :=
    ((maxRelativeDeviation_exactOf_le_iff positive).mp le_rfl).1
  rw [← nonneg.ge_iff_eq', maxRelativeDeviation_exactOf_le_iff positive]
  simp [relativeDeviation_le_iff positive, le_antisymm_iff, and_comm]

/-- Counts that add up to the trials are all the expected one when they are equal. -/
theorem forall_eq_expected_iff (total : histogram.counts.toList.sum = histogram.trials) :
    (∀ count ∈ histogram.counts.toList, (count : ℚ) = (exactOf histogram).expected) ↔
      ∀ left ∈ histogram.counts.toList, ∀ right ∈ histogram.counts.toList, left = right := by
  constructor
  · intro equal left memberLeft right memberRight
    exact Nat.cast_injective ((equal left memberLeft).trans (equal right memberRight).symm)
  · intro same count member
    have sum : histogram.counts.toList.sum = histogram.counts.toList.length • count :=
      List.sum_eq_card_nsmul _ count fun other memberOther => same other memberOther count member
    have size : (histogram.counts.size : ℚ) ≠ 0 :=
      Nat.cast_ne_zero.mpr (List.length_pos_of_mem member).ne'
    rw [expected_exactOf, ← total, sum, Array.length_toList, nsmul_eq_mul, Nat.cast_mul,
      Nat.cast_id, mul_div_cancel_left₀ _ size]

/-- The chi-square statistic as one sum of squares. -/
theorem chiSquare_eq (positive : 0 < (exactOf histogram).expected)
    (total : histogram.counts.toList.sum = histogram.trials) :
    (exactOf histogram).chiSquare =
      histogram.counts.size * ((histogram.counts.toList.map (· ^ 2)).sum : Nat) /
        histogram.trials - histogram.trials := by
  obtain ⟨recorded, some⟩ := expected_pos_iff.mp positive
  have trials : (histogram.trials : ℚ) ≠ 0 := Nat.cast_ne_zero.mpr recorded.ne'
  have size : (histogram.counts.size : ℚ) ≠ 0 := Nat.cast_ne_zero.mpr some.ne'
  rw [chiSquare_exactOf positive, sum_squareDeviation, total, Array.length_toList,
    expected_exactOf]
  field_simp
  ring

/-- The chi-square statistic is zero exactly when every count is the expected one. -/
theorem chiSquare_eq_zero_iff (positive : 0 < (exactOf histogram).expected) :
    (exactOf histogram).chiSquare = 0 ↔
      ∀ count ∈ histogram.counts.toList, (count : ℚ) = (exactOf histogram).expected := by
  rw [chiSquare_exactOf positive, sum_squareDeviation_eq_zero_iff positive]

/-- A report is within a tolerance exactly when something was recorded and the least and
the greatest count are between the bounds. -/
theorem isWithin_exactOf_iff (some : 0 < histogram.counts.size) {tolerance : ℚ} :
    (exactOf histogram).isWithin tolerance = true ↔
      0 < histogram.trials ∧
        (1 - tolerance) * (exactOf histogram).expected ≤ (exactOf histogram).minCount ∧
        (exactOf histogram).maxCount ≤ (1 + tolerance) * (exactOf histogram).expected := by
  rw [isWithin, Bool.and_eq_true, decide_eq_true_iff]
  apply and_congr_right
  intro recorded
  rw [← maxRelativeDeviation_le_iff (expected_pos_iff.mpr ⟨recorded, some⟩)]
  exact decide_eq_true_iff

/-- No count is zero in a report that is within a tolerance below one. -/
theorem count_pos_of_isWithin (some : 0 < histogram.counts.size) {tolerance : ℚ}
    (small : tolerance < 1) (within : (exactOf histogram).isWithin tolerance = true) :
    ∀ count ∈ histogram.counts.toList, 0 < count := by
  obtain ⟨recorded, above, -⟩ := (isWithin_exactOf_iff some).mp within
  have positive := expected_pos_iff.mpr ⟨recorded, some⟩
  have least := isLeast_minCount (counts_ne_nil positive)
  have seen : (0 : ℚ) < (exactOf histogram).minCount :=
    (mul_pos (sub_pos.mpr small) positive).trans_le above
  intro count member
  exact (Nat.cast_pos.mp seen).trans_le (least.2 member)

end Report

namespace Recording

/-- When no count is zero, every permutation has been observed: its rank has a count, and if
nothing but permutations was recorded, it is one of them. -/
theorem Makes.observed {items : Nat} {recording : Recording} {histogram : Histogram}
    (makes : recording.Makes items histogram)
    (positive : ∀ count ∈ histogram.counts.toList, 0 < count) {order : List Nat}
    (permutes : order.Perm (List.range items)) :
    (∃ rank, Ranking.rank? order = some rank ∧ 0 < histogram.count rank) ∧
      ((∀ recorded ∈ recording.orders, recorded.Perm (List.range items)) →
        order ∈ recording.orders) := by
  have few := makes.few
  have length : order.length = items := Ranking.length_of_perm permutes
  have ranked : ∀ other : List Nat, other.length = items →
      Ranking.rank? other = some (Ranking.rank other) := fun other lengthOther =>
    Ranking.rank?_of_le (by omega)
  have found := makes.getElem?_counts (Ranking.rank_lt_of_perm permutes)
  have seen := positive _ (List.mem_of_getElem? (Array.getElem?_toList.trans found))
  refine ⟨⟨Ranking.rank order, ranked order length, ?_⟩, fun permutations => ?_⟩
  · rwa [Histogram.count, Array.getD_eq_getD_getElem?, found, Option.getD_some]
  · obtain ⟨recorded, member, sameRank⟩ := List.countP_pos_iff.mp seen
    have same := permutations recorded member
    rw [decide_eq_true_eq, ranked recorded (Ranking.length_of_perm same), Option.some.injEq,
      Ranking.rank_inj (same.trans permutes.symm)] at sameRank
    exact sameRank ▸ member

/-- The figures in exact numbers of a histogram that was made by recording and merging. Let
something have been recorded. Then the expected count is the trials over the number of
permutations, the largest relative deviation is that of the least or of the greatest count,
and the chi-square statistic is the number of permutations times the squares of the counts
over the trials, less the trials. The two are zero together, and only when all counts are
equal. The report is within a tolerance exactly when something was recorded and the least
and the greatest count are no further from the expected one than the tolerance allows. If
the tolerance is below one, every permutation was then observed, so there were at least as
many trials as permutations. -/
theorem exact_figures {items : Nat} {recording : Recording} {histogram : Histogram}
    (makes : recording.Makes items histogram) :
    let report := Report.exactOf histogram
    (0 < histogram.trials →
      report.expected = histogram.trials / (items ! : Nat) ∧
      report.maxRelativeDeviation =
        max (report.expected - report.minCount) (report.maxCount - report.expected) /
          report.expected ∧
      report.chiSquare =
        (items ! : Nat) * ((histogram.counts.toList.map (· ^ 2)).sum : Nat) / histogram.trials -
          histogram.trials ∧
      (report.chiSquare = 0 ↔ report.maxRelativeDeviation = 0) ∧
      (report.chiSquare = 0 ↔
        ∀ left ∈ histogram.counts.toList, ∀ right ∈ histogram.counts.toList, left = right)) ∧
    IsLeast {count | count ∈ histogram.counts.toList} report.minCount ∧
    IsGreatest {count | count ∈ histogram.counts.toList} report.maxCount ∧
    (∀ tolerance, report.isWithin tolerance = true ↔
      0 < histogram.trials ∧ (1 - tolerance) * report.expected ≤ report.minCount ∧
        report.maxCount ≤ (1 + tolerance) * report.expected) ∧
    ∀ tolerance < 1, report.isWithin tolerance = true →
      items ! ≤ histogram.trials ∧
      ∀ order : List Nat, order.Perm (List.range items) →
        (∃ rank, Ranking.rank? order = some rank ∧ 0 < histogram.count rank) ∧
        ((∀ recorded ∈ recording.orders, recorded.Perm (List.range items)) →
          order ∈ recording.orders) := by
  intro report
  have size := makes.size_counts
  have total := makes.sum_counts
  have some : 0 < histogram.counts.size := size ▸ Nat.factorial_pos items
  have nonempty : histogram.counts.toList ≠ [] := List.length_pos_iff.mp some
  refine ⟨?_, Report.isLeast_minCount nonempty, Report.isGreatest_maxCount nonempty,
    fun tolerance => Report.isWithin_exactOf_iff some, ?_⟩
  · intro recorded
    have positive : 0 < report.expected := Report.expected_pos_iff.mpr ⟨recorded, some⟩
    rw [← size, ← Report.forall_eq_expected_iff total, Report.chiSquare_eq_zero_iff positive,
      Report.maxRelativeDeviation_eq_zero_iff positive]
    exact ⟨Report.expected_exactOf histogram, Report.maxRelativeDeviation_eq positive,
      Report.chiSquare_eq positive total, .rfl, .rfl⟩
  · intro tolerance small within
    have seen := Report.count_pos_of_isWithin some small within
    refine ⟨?_, fun order permutes => makes.observed seen permutes⟩
    rw [← size, ← total]
    simpa using List.card_nsmul_le_sum histogram.counts.toList 1 seen

/-- Five orders of two items are recorded, one order twice and the other three times. -/
theorem exact_figures_five_orders :
    let recording : Recording :=
      .merge (.record (.record (.record .empty [0, 1]) [1, 0]) [0, 1])
        (.record (.record .empty [1, 0]) [0, 1])
    let histogram : Histogram := ⟨2, #[3, 2], 5⟩
    let report := Report.exactOf histogram
    recording.Makes 2 histogram ∧ 0 < histogram.trials ∧ (1 / 4 : ℚ) < 1 ∧
      report.maxRelativeDeviation = 1 / 5 ∧ report.chiSquare = 1 / 5 ∧
      report.isWithin (1 / 4) = true ∧ 2 ! ≤ histogram.trials ∧ [1, 0] ∈ recording.orders := by
  intro recording histogram report
  have makes : recording.Makes 2 histogram := ⟨rfl, by decide, by decide⟩
  have permutations : ∀ recorded ∈ recording.orders, recorded.Perm (List.range 2) := by decide
  obtain ⟨figures, -, -, passes, promises⟩ := exact_figures makes
  obtain ⟨expected, deviation, chiSquare, -, -⟩ := figures (by decide)
  have least : report.minCount = 2 := rfl
  have greatest : report.maxCount = 3 := rfl
  have value : report.expected = 5 / 2 := by
    rw [expected]
    norm_num [histogram]
  have within : report.isWithin (1 / 4) = true := by
    rw [passes, value, least, greatest]
    norm_num [histogram]
  obtain ⟨enough, observed⟩ := promises (1 / 4) (by norm_num) within
  refine ⟨makes, by decide, by norm_num, ?_, ?_, within, enough,
    (observed [1, 0] (by decide)).2 permutations⟩
  · rw [deviation, value, least, greatest]
    norm_num
  · rw [chiSquare]
    norm_num [histogram]

end Recording

end CardShuffle
