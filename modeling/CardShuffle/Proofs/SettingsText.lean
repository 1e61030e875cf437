import CardShuffle.Proofs.JsonText

/-!
# Settings come back from their JSON text

Settings are written as an object of four members, one of them an object of five. The text
denotes a value that has the same members (`Settings.denotes_text`), and reading takes every
field from the member with its name. Words come back exactly, however large, and a missing
seed is written as `null` and comes back missing. Nothing is validated on the way.

The tolerance is the field that can change. What comes back is whatever its text is read as
(`Settings.ofJson?_toJson`): the same number when the text of the number is read back as the
number, and nothing at all when `null` stands in its place. Nothing else is needed of the format
in which it is written and read.
-/

namespace CardShuffle

open Json (Denotes Member)

namespace Settings

/-- The numbers of the settings fit in 64 bits. -/
structure Words (settings : Settings) : Prop where
  deckSize : settings.deckSize < Word.limit
  seed : ∀ seed ∈ settings.seed, seed < Word.limit
  items : settings.analysis.items < Word.limit
  trials : settings.analysis.trials < Word.limit
  chunks : settings.analysis.chunks < Word.limit
  analysisSeed : settings.analysis.seed < Word.limit

/-! ## Values of the fields -/

/-- The value that the digits of a number denote. -/
def wordValue (number : Nat) : Json.Value :=
  .number ⟨false, Decimal.digitsOf number, none, none⟩

/-- A word is read back from its digits. -/
theorem readWord?_wordValue {number : Nat} (word : number < Word.limit) :
    readWord? (wordValue number) = some number := by
  have digits : Json.Number.digits ⟨false, Decimal.digitsOf number, none, none⟩ = number :=
    Text.valueOf_toDigits number
  simp [wordValue, readWord?, Json.Number.word?, digits, word]

/-- The value that the text of a seed denotes. -/
def seedValue : Option Nat -> Json.Value
  | some seed => wordValue seed
  | none => .null

theorem denotes_seedText (seed : Option Nat) : Denotes (seedText seed) (seedValue seed) := by
  cases seed with
  | none => exact Json.denotes_null
  | some seed => exact Json.denotes_digitsOf seed

/-- A seed is read back, and so is a missing one. -/
theorem readSeed?_seedValue {seed : Option Nat} (word : ∀ number ∈ seed, number < Word.limit) :
    readSeed? (seedValue seed) = some seed := by
  cases seed with
  | none => rfl
  | some number =>
      change (readWord? (wordValue number)).map some = some (some number)
      rw [readWord?_wordValue (word number rfl)]
      rfl

/-- A form of the shuffle is read back from its name. -/
theorem readVariant?_name (form : Variant) :
    readVariant? (.string (some form.name)) = some form := by
  cases form <;> decide

/-! ## The text -/

/-- The value that the text of the analysis denotes, with a value in the place of the
tolerance. -/
def analysisValue (settings : AnalysisSettings) (tolerance : Json.Value) : Json.Value :=
  .object [(some "items", wordValue settings.items), (some "trials", wordValue settings.trials),
    (some "chunks", wordValue settings.chunks), (some "tolerance", tolerance),
    (some "seed", wordValue settings.seed)]

/-- The value that the text of settings denotes. -/
def value (settings : Settings) (tolerance : Json.Value) : Json.Value :=
  .object [(some "deck_size", wordValue settings.deckSize),
    (some "variant", .string (some settings.variant.name)),
    (some "seed", seedValue settings.seed),
    (some "analysis", analysisValue settings.analysis tolerance)]

variable {format : Json.FloatFormat} {tolerance : Json.Value}

/-- A member whose value is a number in digits. -/
def wordMember (name : String) (number : Nat) : Member :=
  ⟨name, Decimal.digitsOf number, wordValue number⟩

theorem sound_wordMember {name : String} (plain : Json.Plain name) (number : Nat) :
    (wordMember name number).Sound :=
  ⟨plain, Json.denotes_digitsOf number⟩

/-- The text of the analysis denotes its value, when the text of the tolerance does. -/
theorem denotes_analysisText {settings : AnalysisSettings}
    (denotes : Denotes (toleranceText format settings.tolerance) tolerance) :
    Denotes (analysisText format settings) (analysisValue settings tolerance) := by
  have plain : ∀ name ∈ AnalysisSettings.fieldNames, Json.Plain name := by decide
  simp only [AnalysisSettings.fieldNames, List.forall_mem_cons] at plain
  obtain ⟨items, trials, chunks, deviation, seed, -⟩ := plain
  have sound : ∀ member ∈ [wordMember "items" settings.items,
      wordMember "trials" settings.trials, wordMember "chunks" settings.chunks,
      ⟨"tolerance", toleranceText format settings.tolerance, tolerance⟩,
      wordMember "seed" settings.seed], member.Sound := by
    simp only [List.forall_mem_cons]
    exact ⟨sound_wordMember items _, sound_wordMember trials _, sound_wordMember chunks _,
      ⟨deviation, denotes⟩, sound_wordMember seed _, List.forall_mem_nil _⟩
  exact Json.denotes_object sound

/-- The text of settings denotes their value, when the text of the tolerance does. -/
theorem denotes_text {settings : Settings}
    (denotes : Denotes (toleranceText format settings.analysis.tolerance) tolerance) :
    Denotes (settings.text format) (settings.value tolerance) := by
  have plain : ∀ name ∈ fieldNames, Json.Plain name := by decide
  simp only [fieldNames, List.forall_mem_cons] at plain
  obtain ⟨deckSize, variant, seed, analysis, -⟩ := plain
  have form : Json.Plain settings.variant.name := by
    cases settings.variant <;> decide
  have sound : ∀ member ∈ [wordMember "deck_size" settings.deckSize,
      ⟨"variant", quoted settings.variant.name, .string (some settings.variant.name)⟩,
      ⟨"seed", seedText settings.seed, seedValue settings.seed⟩,
      ⟨"analysis", analysisText format settings.analysis,
        analysisValue settings.analysis tolerance⟩],
      member.Sound := by
    simp only [List.forall_mem_cons]
    exact ⟨sound_wordMember deckSize _, ⟨variant, Json.denotes_quoted form⟩,
      ⟨seed, denotes_seedText _⟩, ⟨analysis, denotes_analysisText denotes⟩,
      List.forall_mem_nil _⟩
  exact Json.denotes_object sound

/-! ## Reading -/

/-- Settings with another tolerance. -/
def withTolerance (settings : Settings) (tolerance : Float) : Settings :=
  { settings with analysis := { settings.analysis with tolerance } }

/-- Every field of the analysis is read from the member with its name. -/
theorem readAnalysis?_analysisValue {settings : Settings} (words : settings.Words) :
    readAnalysis? format (analysisValue settings.analysis tolerance) =
      (readFloat? format tolerance).map fun tolerance => { settings.analysis with tolerance } := by
  have fields : fieldsOf? AnalysisSettings.fieldNames (analysisValue settings.analysis tolerance) =
      some [some (wordValue settings.analysis.items), some (wordValue settings.analysis.trials),
        some (wordValue settings.analysis.chunks), some tolerance,
        some (wordValue settings.analysis.seed)] := rfl
  simp only [readAnalysis?, fields, orDefault, readWord?_wordValue words.items,
    readWord?_wordValue words.trials, readWord?_wordValue words.chunks,
    readWord?_wordValue words.analysisSeed, Option.bind_eq_bind, Option.bind_some]
  cases readFloat? format tolerance <;> rfl

/-- Every field is read from the member with its name. -/
theorem ofValue?_value {settings : Settings} (words : settings.Words) :
    ofValue? format (settings.value tolerance) =
      (readFloat? format tolerance).map settings.withTolerance := by
  have fields : fieldsOf? fieldNames (settings.value tolerance) =
      some [some (wordValue settings.deckSize), some (.string (some settings.variant.name)),
        some (seedValue settings.seed), some (analysisValue settings.analysis tolerance)] := rfl
  simp only [ofValue?, fields, orDefault, readWord?_wordValue words.deckSize,
    readVariant?_name, readSeed?_seedValue words.seed, readAnalysis?_analysisValue words,
    Option.bind_eq_bind, Option.bind_some]
  cases readFloat? format tolerance <;> rfl

/-- What comes back from the text of settings is the settings, with the tolerance that its
text is read as. -/
theorem ofJson?_toJson {settings : Settings} (words : settings.Words)
    (denotes : Denotes (toleranceText format settings.analysis.tolerance) tolerance) :
    ofJson? (settings.toJson format) format =
      (readFloat? format tolerance).map settings.withTolerance := by
  have parsed : Json.parse? (settings.toJson format) = some (settings.value tolerance) :=
    Json.Denotes.parse?_eq (by simpa [toJson] using denotes_text denotes)
  rw [ofJson?, parsed]
  exact ofValue?_value words

/-! ## The tolerance -/

/-- A text that is read as a number by itself denotes a value that is read as the number. -/
theorem exists_denotes_of_readFloat? {text : String} {read : Float}
    (readBack : (Json.parse? text).bind (readFloat? format) = some read) :
    ∃ value, Denotes text.toList value ∧ readFloat? format value = some read := by
  obtain ⟨value, parsed, readBack⟩ := Option.bind_eq_some_iff.mp readBack
  cases value with
  | number number => exact ⟨.number number, Json.denotes_of_parse? parsed, readBack⟩
  | null | boolean | string | array | object => cases readBack

end Settings

/-- Settings are written in JSON and read back, whether they can be carried out or not, with
any words for their numbers and with or without a seed for the deck. Their tolerance is written
and read in any format. When it is finite, and the text of this number is by itself read back as
the same number, the settings come back as they are. When it is infinite or no number, the text
of the settings is refused. -/
theorem Settings.json_round_trip (format : Json.FloatFormat) {settings : Settings}
    (words : settings.Words) :
    (∀ negative mantissa exponent,
      Binary64.ofFloat settings.analysis.tolerance = .finite negative mantissa exponent →
      (Json.parse? (format.write negative mantissa exponent)).bind (readFloat? format) =
        some settings.analysis.tolerance →
      ofJson? (settings.toJson format) format = some settings) ∧
    (Binary64.ofFloat settings.analysis.tolerance = .notANumber ∨
        (∃ negative, Binary64.ofFloat settings.analysis.tolerance = .infinite negative) →
      ofJson? (settings.toJson format) format = none) := by
  constructor
  · intro negative mantissa exponent finite readBack
    obtain ⟨value, denotes, read⟩ := exists_denotes_of_readFloat? readBack
    have written : Denotes (toleranceText format settings.analysis.tolerance) value := by
      rw [toleranceText, finite]
      exact denotes
    rw [ofJson?_toJson words written, read]
    rfl
  · intro infinite
    have written : Denotes (toleranceText format settings.analysis.tolerance) .null := by
      rcases infinite with notANumber | ⟨negative, infinite⟩
      · rw [toleranceText, notANumber]
        exact Json.denotes_null
      · rw [toleranceText, infinite]
        exact Json.denotes_null
    rw [ofJson?_toJson words written]
    rfl

/-- Settings with the largest words come back though they cannot be carried out, and those
whose tolerance is no number do not. -/
theorem Settings.json_round_trip_largest_words :
    let largest : Settings :=
      { deckSize := Word.limit - 1
        variant := .insideOut
        seed := some (Word.limit - 1)
        analysis := { items := 0, trials := Word.limit - 1, seed := Word.limit - 1 } }
    let noNumber : Settings := { analysis := { tolerance := 0.0 / 0.0 } }
    largest.validate = .error (.deckSize (Word.limit - 1)) ∧
      ofJson? largest.toJson = some largest ∧ ofJson? noNumber.toJson = none := by
  intro largest noNumber
  have largestWords : largest.Words := by
    constructor <;> decide
  have noNumberWords : noNumber.Words := by
    constructor <;> decide
  have finite : Binary64.ofFloat largest.analysis.tolerance =
      .finite false 7205759403792794 (-57) := by decide +kernel
  have readBack : (Json.parse? (Json.FloatFormat.exact.write false 7205759403792794 (-57))).bind
      (readFloat? .exact) = some largest.analysis.tolerance := by decide +kernel
  have notANumber : Binary64.ofFloat noNumber.analysis.tolerance = .notANumber := by
    decide +kernel
  exact ⟨rfl, (json_round_trip .exact largestWords).1 _ _ _ finite readBack,
    (json_round_trip .exact noNumberWords).2 (.inl notANumber)⟩

end CardShuffle
