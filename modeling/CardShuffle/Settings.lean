import CardShuffle.Deck
import CardShuffle.Decimal.Style
import CardShuffle.Shuffle
import CardShuffle.Storage

/-!
# Settings

What a run may choose: the deck and its shuffle, and the analysis of shuffles.
Every choice has a default. `Settings.validate` accepts the settings that a run
can carry out, and otherwise names the first choice at fault, in the order deck
size, items, trials, chunks, tolerance.
-/

namespace CardShuffle

/-- Choices for the analysis of shuffles. -/
structure AnalysisSettings where
  /-- The length of the sequence that is shuffled. -/
  items : Nat := 3
  /-- The number of shuffles. -/
  trials : Nat := 100000
  /-- The number of parts the trials are split into. -/
  chunks : Nat := 16
  /-- The largest relative deviation of a count from the expected one. -/
  tolerance : Float := 0.05
  /-- The seed from which every part gets its own. -/
  seed : Nat := 24301
  deriving Repr, Inhabited

/-- Choices for a run. -/
structure Settings where
  /-- The number of cards in a dealt deck. -/
  deckSize : Nat := Deck.standardSize
  /-- The form of the shuffle. -/
  variant : Variant := .durstenfeld
  /-- The seed of a repeatable shuffle; without one the shuffle is random. -/
  seed : Option Nat := none
  /-- The analysis of shuffles. -/
  analysis : AnalysisSettings := {}
  deriving Repr, Inhabited

/-- A choice of the analysis that cannot be carried out. -/
inductive AnalysisFault where
  | items (items : Nat)
  | noTrials
  | noChunks
  | tolerance (tolerance : Float)
  deriving Repr

/-- Why settings cannot be had. -/
inductive SettingsError where
  | deckSize (size : Nat)
  | analysis (fault : AnalysisFault)
  | unknownVariant (name : String)
  | unreadable (path : String) (failure : ReadFailure)
  /-- The text of the settings does not follow its format. -/
  | malformed
  deriving Repr

/-- The longest sequence that is analysed. -/
def maximumItems : Nat := 8

namespace AnalysisFault

/-- The words the fault is reported in. -/
def message : AnalysisFault -> String
  | items count => s!"items must be between 1 and {maximumItems}, got {count}"
  | noTrials => "trials must be at least 1"
  | noChunks => "chunks must be at least 1"
  | tolerance value =>
      s!"tolerance must be in (0, 1), got {Decimal.messageText value}"

end AnalysisFault

namespace SettingsError

/-- The sentence that reports the error. -/
def message : SettingsError -> String
  | deckSize size => s!"Invalid deck size: {size} (maximum {Deck.maximumSize})"
  | analysis fault => s!"Invalid analysis config: {fault.message}"
  | unknownVariant name => s!"Unknown shuffle variant: {name}"
  | unreadable path failure => s!"Failed to read {path}: {failure.message}"
  | malformed => "Failed to parse config file"

end SettingsError

/-- Whether a sequence of this length can be analysed. -/
def checkItems (items : Nat) : Except AnalysisFault Unit :=
  if items = 0 ∨ maximumItems < items then .error (.items items) else .ok ()

namespace AnalysisSettings

/-- Accept an analysis that can be carried out. -/
def validate (settings : AnalysisSettings) : Except AnalysisFault Unit := do
  checkItems settings.items
  if settings.trials = 0 then
    throw .noTrials
  if settings.chunks = 0 then
    throw .noChunks
  if !(0.0 < settings.tolerance && settings.tolerance < 1.0) then
    throw (.tolerance settings.tolerance)

end AnalysisSettings

namespace Settings

/-- Accept settings that can be carried out. -/
def validate (settings : Settings) : Except SettingsError Unit :=
  if Deck.maximumSize < settings.deckSize then
    .error (.deckSize settings.deckSize)
  else
    settings.analysis.validate.mapError .analysis

/-- The settings themselves, when they can be carried out. -/
def validated (settings : Settings) : Except SettingsError Settings :=
  settings.validate.map fun _ => settings

end Settings

end CardShuffle
