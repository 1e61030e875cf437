import CardShuffle.Decimal.Reading
import CardShuffle.Json.Number
import CardShuffle.Proofs.DeckText
import CardShuffle.Proofs.Recordings
import CardShuffle.Report.Table

/-!
# What a table says

The text of a table has one line for the headline, one for each permutation, and two
more. This is so because no part of a line has a line break of its own (`OneLine`).

`Table.readRow` reads the label and the count of a row, as a reader of the table would,
and knows nothing of ranks. The row at a rank is read as the permutation that the rank is
unranked to, and the count that ranking has collected there (`readRow_line`). That
these belong together is what `Ranking.rank_permutation` and
`Histogram.occurrences_rank` say, so a table tells of each permutation how often it was
recorded.
-/

namespace CardShuffle

open scoped Nat

/-! ## Texts of one line -/

/-- There is no line break in the text. -/
def OneLine (text : String) : Prop := '\n' ∉ text.toList

instance (text : String) : Decidable (OneLine text) :=
  inferInstanceAs (Decidable ('\n' ∉ text.toList))

namespace OneLine

@[simp]
theorem append_iff {text other : String} :
    OneLine (text ++ other) ↔ OneLine text ∧ OneLine other := by
  simp [OneLine, not_or]

/-- Neither digits nor their neighbours in a number are line breaks. -/
theorem not_mem_toDigits (number : Nat) : '\n' ∉ Nat.toDigits 10 number :=
  fun member => absurd (Nat.isDigit_of_mem_toDigits (by decide) (by decide) member) (by decide)

/-- What is in neither the parts nor the text between them is not in the whole. -/
theorem not_mem_intercalate {char : Char} {separator : List Char} {parts : List (List Char)}
    (absent : char ∉ separator) (absentParts : ∀ part ∈ parts, char ∉ part) :
    char ∉ separator.intercalate parts := by
  induction parts with
  | nil => simp
  | cons part parts ih =>
      obtain ⟨first, others⟩ := List.forall_mem_cons.mp absentParts
      rcases parts with _ | ⟨next, parts⟩
      · simpa using first
      · rw [List.intercalate_cons_of_ne_nil (List.cons_ne_nil _ _)]
        simp only [List.mem_append, not_or]
        exact ⟨⟨first, absent⟩, ih others⟩

@[simp]
theorem repr (number : Nat) : OneLine number.repr := by
  simpa [OneLine, Nat.repr] using not_mem_toDigits number

@[simp]
theorem alignLeft_iff {width : Nat} {text : String} :
    OneLine (Decimal.alignLeft width text) ↔ OneLine text := by
  simp [OneLine, Decimal.alignLeft, List.mem_replicate]

@[simp]
theorem alignRight_iff {width : Nat} {text : String} :
    OneLine (Decimal.alignRight width text) ↔ OneLine text := by
  simp [OneLine, Decimal.alignRight, List.mem_replicate]

@[simp]
theorem fixed (places : Nat) (plus : Bool) (number : Float) :
    OneLine (Decimal.fixed places plus number) := by
  have digits : ∀ mantissa exponent, '\n' ∉ Decimal.fixedDigits places mantissa exponent := by
    intro mantissa exponent
    simp only [Decimal.fixedDigits, Decimal.digitsOf]
    split <;> simp [not_mem_toDigits, List.mem_replicate]
  unfold Decimal.fixed
  dsimp only
  split
  · decide
  · split <;> [skip; split] <;> simp [OneLine]
  · split <;> [skip; split] <;> simp [OneLine, digits]

end OneLine

/-- The text is a line with a line break at its end. -/
def EndedLine (text : String) : Prop := ∃ line, OneLine line ∧ text = line ++ "\n"

/-- What is put before a line extends it. -/
theorem EndedLine.append {text other : String} (oneLine : OneLine text) (ended : EndedLine other) :
    EndedLine (text ++ other) := by
  obtain ⟨line, oneOther, rfl⟩ := ended
  exact ⟨text ++ line, OneLine.append_iff.mpr ⟨oneLine, oneOther⟩, (String.append_assoc ..).symm⟩

/-- Lines that are each ended by a line break, and a last one, are what the text is split
into at its line breaks. -/
theorem splitOn_lines {lines : List String} (oneLine : ∀ line ∈ lines, OneLine line)
    {last : String} (oneLast : OneLine last) :
    (String.join (lines.map (· ++ "\n") ++ [last])).toList.splitOn '\n' =
      lines.map String.toList ++ [last.toList] := by
  have joined : (String.join (lines.map (· ++ "\n") ++ [last])).toList =
      ['\n'].intercalate (lines.map String.toList ++ [last.toList]) := by
    clear oneLine
    induction lines with
    | nil => simp
    | cons line lines ih =>
        have more : lines.map String.toList ++ [last.toList] ≠ [] := by simp
        rw [List.map_cons, List.cons_append, List.map_cons, List.cons_append,
          List.intercalate_cons_of_ne_nil more, ← ih]
        simp
  rw [joined]
  apply List.splitOn_intercalate
  · intro chars member
    simp only [List.mem_append, List.mem_map, List.mem_singleton] at member
    rcases member with ⟨line, listed, rfl⟩ | rfl
    · exact oneLine line listed
    · exact oneLast
  · simp

/-! ## Rows -/

namespace Report

/-- The row of a permutation without the line break that ends it. -/
def line (report : Report Float) (rank count : Nat) (entries : List Nat) : String :=
  "  " ++ Decimal.alignLeft (report.items * 3 + 2) (label entries) ++ " " ++
    Decimal.alignRight 10 (toString count) ++ " " ++
    Decimal.alignRight 8 (Decimal.fixed 4 false (report.frequency rank)) ++ " " ++
    Decimal.alignRight 7 (Decimal.fixed 2 true (percentOff report.expected count)) ++ "%"

variable {report : Report Float}

/-- Up to 21 items every rank has its row. -/
theorem row?_eq (few : report.items ≤ 21) (rank count : Nat) :
    report.row? rank count =
      some (report.line rank count (Ranking.permutation report.items rank) ++ "\n") := by
  simp only [row?, Ranking.unrank?_eq few, line, toString, Option.bind_eq_bind, Option.bind_some,
    String.append_assoc, String.reduceAppend]
  rfl

/-- The rows of a report, without the line breaks. -/
def rows (report : Report Float) : List String :=
  report.counts.toList.zipIdx.map fun (count, rank) =>
    report.line rank count (Ranking.permutation report.items rank)

/-- Up to 21 items the rows are those of the permutations at the ranks. -/
theorem rowsFrom?_eq (few : report.items ≤ 21) (rank : Nat) (counts : List Nat) :
    report.rowsFrom? rank counts = some ((counts.zipIdx rank).map fun (count, rank) =>
      report.line rank count (Ranking.permutation report.items rank) ++ "\n") := by
  induction counts generalizing rank with
  | nil => rfl
  | cons count counts ih =>
      simp [rowsFrom?, row?_eq few, ih]

end Report

/-- What a reader of a row sees: the list in brackets that labels it, and the number that
stands behind the list. -/
def Table.readRow (chars : List Char) : Option (List Nat × Nat) := do
  let (entries, rest) ← CardList.read .opening [] chars
  let count ← Decimal.readDigits? (Json.spanDigits (Json.skipBlanks rest)).1
  return (entries, count)

namespace Table

/-- Blanks before the digits of a number are passed over. -/
theorem skipBlanks_digits {blanks : List Char} (blank : ∀ char ∈ blanks, Json.isBlank char = true)
    (number : Nat) (rest : List Char) :
    Json.skipBlanks (blanks ++ (Nat.toDigits 10 number ++ rest)) =
      Nat.toDigits 10 number ++ rest := by
  rw [Json.skipBlanks, List.dropWhile_append_of_pos blank]
  cases digits : Nat.toDigits 10 number with
  | nil => exact absurd digits Nat.toDigits_ne_nil
  | cons first others =>
      have digit : first.isDigit = true :=
        Nat.isDigit_of_mem_toDigits (b := 10) (by decide) (by decide)
          (digits ▸ List.mem_cons_self)
      exact Json.skipBlanks_of_isDigit digit (others ++ rest)

/-- The digits of a number are read as the number, up to a blank. -/
theorem readDigits?_spanDigits (number : Nat) (rest : List Char) :
    Decimal.readDigits? (Json.spanDigits (Nat.toDigits 10 number ++ ' ' :: rest)).1 =
      some number := by
  have digits : ∀ char ∈ Nat.toDigits 10 number, char.isDigit = true :=
    fun char member => Nat.isDigit_of_mem_toDigits (by decide) (by decide) member
  have taken : (Json.spanDigits (Nat.toDigits 10 number ++ ' ' :: rest)).1 =
      Nat.toDigits 10 number := by
    rw [Json.spanDigits, List.takeWhile_append_of_pos digits]
    simp
  rw [taken, Decimal.readDigits?, if_pos ⟨Nat.toDigits_ne_nil, List.all_eq_true.mpr digits⟩,
    Text.valueOf_toDigits]

/-- A list in brackets, a number behind it and blanks around the two are read, whatever
follows the blank behind the number. -/
theorem readRow_eq {entries : List Nat} {content before between : List Char}
    (before_blank : ∀ char ∈ before, Json.isBlank char = true)
    (inside : CardList.Content entries content)
    (between_blank : ∀ char ∈ between, Json.isBlank char = true) (count : Nat)
    (rest : List Char) :
    readRow (before ++ '[' :: (content ++ ']' ::
      (between ++ (Nat.toDigits 10 count ++ ' ' :: rest)))) = some (entries, count) := by
  have list : CardList.read .opening [] (before ++ '[' :: (content ++ ']' ::
      (between ++ (Nat.toDigits 10 count ++ ' ' :: rest)))) =
        some (entries, between ++ (Nat.toDigits 10 count ++ ' ' :: rest)) := by
    rw [CardList.read_blanks (by simp) before_blank]
    exact inside.read_eq _
  simp only [readRow, list, skipBlanks_digits between_blank, readDigits?_spanDigits,
    Option.bind_eq_bind, Option.bind_some]
  rfl

end Table

namespace Report

variable {report : Report Float}

/-- A label is an array of its entries with a blank after each comma. -/
theorem toList_label (entries : List Nat) :
    (label entries).toList =
      '[' :: ([',', ' '].intercalate (entries.map (Nat.toDigits 10)) ++ [']']) := by
  have digits : String.toList ∘ toString = Nat.toDigits 10 := by
    funext number
    simp
  simp [label, String.toList_intercalate, digits]

/-- A row is read as its label and its count. -/
theorem readRow_line (rank count : Nat) {entries : List Nat}
    (fits : ∀ entry ∈ entries, entry ≤ CardList.maximumId) :
    Table.readRow (report.line rank count entries).toList = some (entries, count) := by
  have blank : Json.isBlank ' ' = true := rfl
  let between : List Char :=
    List.replicate (report.items * 3 + 2 - (label entries).length) ' ' ++
      ' ' :: List.replicate (10 - (toString count).length) ' '
  have between_blank : ∀ char ∈ between, Json.isBlank char = true := by
    intro char member
    simp only [between, List.mem_append, List.mem_cons, List.mem_replicate] at member
    rcases member with ⟨-, rfl⟩ | rfl | ⟨-, rfl⟩ <;> exact blank
  let rest : String := Decimal.alignRight 8 (Decimal.fixed 4 false (report.frequency rank)) ++
    " " ++ Decimal.alignRight 7 (Decimal.fixed 2 true (percentOff report.expected count)) ++ "%"
  have chars : (report.line rank count entries).toList = [' ', ' '] ++ '[' ::
      ([',', ' '].intercalate (entries.map (Nat.toDigits 10)) ++ ']' ::
        (between ++ (Nat.toDigits 10 count ++ ' ' :: rest.toList))) := by
    have digits : (toString count).toList = Nat.toDigits 10 count := by simp
    simp only [line, rest, between, Decimal.alignLeft, Decimal.alignRight, String.toList_append,
      String.toList_ofList, toList_label, digits, List.append_assoc, List.cons_append,
      List.nil_append]
    rfl
  rw [chars]
  exact Table.readRow_eq (by simp [blank])
    (CardList.content_intercalate (by simp [blank]) fits) between_blank count rest.toList

/-- A label has no line break. -/
theorem oneLine_label (entries : List Nat) : OneLine (label entries) := by
  have inside : '\n' ∉ [',', ' '].intercalate (entries.map (Nat.toDigits 10)) := by
    apply OneLine.not_mem_intercalate (by decide)
    exact List.forall_mem_map.mpr fun entry _ => OneLine.not_mem_toDigits entry
  simp [OneLine, toList_label, inside]

/-- A row has no line break before its end. -/
theorem oneLine_line (rank count : Nat) (entries : List Nat) :
    OneLine (report.line rank count entries) := by
  simp [line, oneLine_label]
  decide

/-- The headline is one line when the name of the shuffle is. -/
theorem endedLine_headline {name : String} (oneLine : OneLine name) :
    EndedLine (report.headline name) := by
  refine .append ?_ (.append ?_ ⟨" each", by decide, rfl⟩)
  · simp only [OneLine.append_iff, toString, oneLine, OneLine.repr, true_and, and_true]
    decide
  · simp only [OneLine.append_iff, toString, OneLine.fixed, OneLine.repr, true_and, and_true]
    decide

/-- The statistics are one line. -/
theorem endedLine_statistics (tolerance : Float) : EndedLine (report.statistics tolerance) := by
  refine .append ?_ (.append ?_ ⟨"%)", by decide, rfl⟩)
  · simp only [OneLine.append_iff, toString, OneLine.fixed, OneLine.repr, and_true]
    decide
  · simp only [OneLine.append_iff, toString, OneLine.fixed, and_true]
    decide

/-- A table is split into its headline, the rows, the statistics and the verdict. -/
theorem exists_table (few : report.items ≤ 21) {name : String} (oneLine : OneLine name)
    (tolerance : Float) (passed : Bool) :
    ∃ text first figures, report.render? name tolerance passed = some text ∧
      text.toList.splitOn '\n' =
        first :: report.rows.map String.toList ++ [figures, (verdict passed).toList] := by
  obtain ⟨first, oneFirst, headline⟩ := report.endedLine_headline oneLine
  obtain ⟨figures, oneFigures, statistics⟩ := report.endedLine_statistics tolerance
  have oneLines : ∀ line ∈ first :: report.rows ++ [figures], OneLine line := by
    intro line member
    simp only [List.cons_append, List.mem_cons, List.mem_append, rows, List.mem_map,
      List.not_mem_nil, or_false] at member
    rcases member with rfl | ⟨⟨count, rank⟩, -, rfl⟩ | rfl
    · exact oneFirst
    · exact oneLine_line rank count _
    · exact oneFigures
  have oneVerdict : OneLine (verdict passed) := by
    cases passed <;> decide
  have split := splitOn_lines oneLines oneVerdict
  refine ⟨_, first.toList, figures.toList, ?_, split.trans (by simp)⟩
  rw [render?, rowsFrom?_eq few]
  simp [headline, statistics, rows, Function.comp_def]

/-- The rows are read as the permutations at the ranks with the counts there. -/
theorem map_readRow_rows (few : report.items ≤ 21) :
    report.rows.map (fun row => Table.readRow row.toList) =
      report.counts.toList.zipIdx.map fun (count, rank) =>
        some (Ranking.permutation report.items rank, count) := by
  rw [rows, List.map_map]
  apply List.map_congr_left
  rintro ⟨count, rank⟩ -
  apply readRow_line
  intro entry member
  have below := List.mem_range.mp ((Ranking.permutation_perm few rank).mem_iff.mp member)
  have large : 21 ≤ CardList.maximumId := by decide
  omega

/-- For a tally of permutations the rows are read as all permutations, each with the
number of times it was recorded. -/
theorem map_readRow_tally {items : Nat} (few : items ≤ 21) {orders : List (List Nat)}
    (permutations : ∀ order ∈ orders, order.Perm (List.range items)) :
    (ofHistogram (.tally items orders) : Report Float).rows.map
        (fun row => Table.readRow row.toList) =
      (Ranking.permutations items).map fun order => some (order, orders.count order) := by
  have places : (List.range (Ranking.factorial items)).zipIdx =
      (List.range (Ranking.factorial items)).map fun rank => (rank, rank) := by
    apply List.ext_getElem <;> simp
  rw [map_readRow_rows few]
  simp only [ofHistogram, Histogram.tally, Ranking.permutations, List.zipIdx_map, places,
    List.map_map]
  apply List.map_congr_left
  intro rank member
  have below : rank < items ! := by
    rw [← Ranking.factorial_eq]
    exact List.mem_range.mp member
  have counted := Histogram.occurrences_rank permutations (Ranking.permutation_perm few rank)
  rw [Ranking.rank_permutation few below] at counted
  simp [counted]

end Report

/-- Permutations of the numbers below a number of items, which is at most 20, are recorded
into histograms, and histograms are merged, in any tree. There is a histogram as long as
the number of permutations recorded is a word. Its table, under a name of one line, has a
line for each permutation and three more. Read as a label and a count, the rows show every
permutation once, in lexicographic order, and beside it the number of times it was
recorded. -/
theorem Recording.table_tells_counts {items : Nat} (few : items ≤ 20) {recording : Recording}
    (permutations : ∀ order ∈ recording.orders, order.Perm (List.range items)) :
    (recording.histogram? items = none ↔ Word.limit ≤ recording.orders.length) ∧
      ∀ histogram, recording.histogram? items = some histogram →
        ∀ (name : String) (tolerance : Float) (passed : Bool), OneLine name →
          ∃ (text : String) (headline statistics verdict : List Char) (rows : List (List Char))
            (labels : List (List Nat)),
            (Report.ofHistogram histogram).render? name tolerance passed = some text ∧
            text.toList.splitOn '\n' = headline :: rows ++ [statistics, verdict] ∧
            (text.toList.splitOn '\n').length = items ! + 3 ∧
            (∀ order, order ∈ labels ↔ order.Perm (List.range items)) ∧
            labels.Pairwise (· < ·) ∧
            rows.map Table.readRow =
              labels.map fun order => some (order, recording.orders.count order) := by
  have lengths : ∀ order ∈ recording.orders, order.length = items := by
    intro order member
    rw [(permutations order member).length_eq, List.length_range]
  have recorded := recording.histogram?_eq few lengths
  refine ⟨by simp [recorded], ?_⟩
  intro histogram found name tolerance passed oneLine
  obtain rfl : .tally items recording.orders = histogram := by
    rw [recorded] at found
    exact Option.some.inj (Option.ite_none_right_eq_some.mp found).2
  have fewRows : items ≤ 21 := by omega
  let report : Report Float := .ofHistogram (.tally items recording.orders)
  have fewItems : report.items ≤ 21 := fewRows
  have readRows := Report.map_readRow_tally fewRows permutations
  have count : report.rows.length = items ! := by
    have sameLength := congrArg List.length readRows
    rwa [List.length_map, List.length_map, Ranking.length_permutations] at sameLength
  obtain ⟨text, headline, statistics, rendered, split⟩ :=
    Report.exists_table fewItems oneLine tolerance passed
  refine ⟨text, headline, statistics, _, _, Ranking.permutations items, rendered, split, ?_,
    fun order => Ranking.mem_permutations_iff fewRows, Ranking.pairwise_permutations fewRows, ?_⟩
  · simp [split, count]
  · rw [List.map_map]
    exact readRows

/-- Two orders of two items are recorded, and a histogram that has seen one of them again
is merged in. -/
theorem Recording.table_tells_counts_two_items :
    let recording : Recording :=
      .merge (.record (.record .empty [1, 0]) [0, 1]) (.record .empty [1, 0])
    let histogram : Histogram := ⟨2, #[1, 2], 3⟩
    (∀ order ∈ recording.orders, order.Perm (List.range 2)) ∧
      recording.histogram? 2 = some histogram ∧ OneLine Variant.durstenfeld.name ∧
      ∃ text, (Report.ofHistogram histogram).render? Variant.durstenfeld.name 0.5 true =
          some text ∧
        (text.toList.splitOn '\n').length = 5 ∧
        ∃ row ∈ text.toList.splitOn '\n', Table.readRow row = some ([1, 0], 2) := by
  intro recording histogram
  have permutations : ∀ order ∈ recording.orders, order.Perm (List.range 2) := by decide
  have found : recording.histogram? 2 = some histogram := by decide
  have oneLine : OneLine Variant.durstenfeld.name := by decide
  obtain ⟨text, headline, statistics, verdict, rows, labels, rendered, split, length, labelled, -,
    read⟩ := (Recording.table_tells_counts (by decide) permutations).2 histogram found
      Variant.durstenfeld.name 0.5 true oneLine
  have listed : [1, 0] ∈ labels := (labelled [1, 0]).mpr (by decide)
  have shown : some ([1, 0], 2) ∈ rows.map Table.readRow := by
    rw [read]
    exact List.mem_map_of_mem (f := fun order => some (order, recording.orders.count order)) listed
  obtain ⟨row, member, readRow⟩ := List.mem_map.mp shown
  refine ⟨permutations, found, oneLine, text, rendered, length, row, ?_, readRow⟩
  rw [split]
  simp [member]

end CardShuffle
