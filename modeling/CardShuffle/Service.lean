import CardShuffle.Analysis
import CardShuffle.Metrics
import CardShuffle.Source.Seeded

/-!
# The shuffle service

A service shuffles decks and runs analyses under its settings. It draws from a
source and counts into a collector that others may use as well, so every call
takes both and gives both back. A completed shuffle and a completed analysis are
counted; so is an answer out of range. A call that fails for another reason
leaves the source and the collector as they were.
-/

namespace CardShuffle

universe u

/-- A completed shuffle. -/
structure Outcome where
  variant : Variant
  items : Nat
  draws : Nat
  deriving Repr, DecidableEq

/-- What a call draws from and counts into. -/
structure Session (σ : Type u) where
  source : σ
  metrics : Metrics

namespace Service

variable {σ : Type u} [RandomSource σ]

/-- Shuffle a deck. The deck that comes back is the shuffled one, or what the
shuffle left when it was ended. `nanoseconds` is the time the caller's clock
gives to the shuffle. -/
def shuffleDeck (settings : Settings) (nanoseconds : Nat) (deck : Deck)
    (session : Session σ) : (Except ShuffleError Outcome × Deck) × Session σ :=
  let (shuffled, source) := (Shuffle.shuffle settings.variant deck.cards).run session.source
  let items := deck.size
  match shuffled.outcome with
  | .ok draws =>
      ((.ok ⟨settings.variant, items, draws⟩, ⟨shuffled.items⟩),
        ⟨source, session.metrics.recordShuffle items draws nanoseconds⟩)
  | .error violation =>
      ((.error (.drawOutOfRange violation), ⟨shuffled.items⟩),
        ⟨source, session.metrics.recordViolation⟩)

/-- A shuffled copy of a deck. -/
def shuffled (settings : Settings) (nanoseconds : Nat) (deck : Deck) (session : Session σ) :
    Except ShuffleError (Deck × Outcome) × Session σ :=
  let ((outcome, copy), session) := shuffleDeck settings nanoseconds deck session
  (outcome.map fun outcome => (copy, outcome), session)

/-- A new deck of the size in the settings, shuffled. -/
def deal (settings : Settings) (nanoseconds : Nat) (session : Session σ) :
    Except ShuffleError (Deck × Outcome) × Session σ :=
  match Deck.ofSize settings.deckSize with
  | .error error => (.error (.deck error), session)
  | .ok deck => shuffled settings nanoseconds deck session

/-- The report of an analysis of the service's form of shuffle. Its sources are
made from the seeds of the chunks; the source of the service is not used. -/
def analyze (settings : Settings) (analysis : AnalysisSettings) (metrics : Metrics) :
    Except (Stop ShuffleError) (Report Float) × Metrics :=
  match analysis.validate with
  | .error fault => (Stop.report (.settings (.analysis fault)), metrics)
  | .ok () =>
      match Analysis.report settings.variant analysis.items analysis.trials analysis.chunks
        analysis.seed SeededSource.ofSeed with
      | .error stop => (.error stop, metrics)
      | .ok report => (.ok report, metrics.recordAnalysis)

end Service

end CardShuffle
