import CardShuffle.Deck.Text
import CardShuffle.Report.Table
import CardShuffle.RunError
import CardShuffle.Service
import CardShuffle.Settings.Toml

/-!
# Carrying out commands

A deal gives a shuffled deck as a text, and an analysis gives its table and
whether the shuffle is within the tolerance. A seed in the settings makes a deal
repeatable; without one the deck is shuffled with a source the caller brings.
-/

namespace CardShuffle

/-- The base that options are laid over: the settings file, or the defaults when
there is none. -/
def loadBase (files : Files) : Option String -> Except RunError Settings
  | none => .ok {}
  | some path => (Settings.load files path).mapError (.loading path)

namespace Run

universe u

/-- A deck dealt under settings, with one source. -/
def dealFrom {σ : Type u} [RandomSource σ] (source : σ) (settings : Settings) :
    Except RunError Deck :=
  match (Service.deal settings 0 ⟨source, {}⟩).1 with
  | .ok (deck, _) => .ok deck
  | .error error => .error (.dealing error)

/-- A deck dealt under settings. `entropy` is the source for settings without a
seed. -/
def deal {σ : Type u} [RandomSource σ] (entropy : σ) (settings : Settings) :
    Except RunError Deck :=
  match settings.seed with
  | some seed => dealFrom (SeededSource.ofSeed seed) settings
  | none => dealFrom entropy settings

/-- A dealt deck as a text, in JSON or for people. -/
def shuffle {σ : Type u} [RandomSource σ] (entropy : σ) (settings : Settings) (json : Bool) :
    Except RunError String :=
  (deal entropy settings).map fun deck => if json then deck.toJson else deck.display

/-- The result of an analysis. -/
structure Verdict where
  /-- The table of the report. -/
  text : String
  /-- Whether the shuffle is within the tolerance. -/
  passed : Bool
  deriving Repr, DecidableEq

/-- Carry out an analysis and write its table. -/
def analyze (settings : Settings) : Except (Stop RunError) Verdict := do
  let analysis := settings.analysis
  let report ← Stop.restate RunError.analysing (Service.analyze settings analysis {}).1
  let passed := report.isWithin analysis.tolerance
  let text ← Stop.require (report.render? settings.variant.name analysis.tolerance passed)
  return ⟨text, passed⟩

end Run

end CardShuffle
