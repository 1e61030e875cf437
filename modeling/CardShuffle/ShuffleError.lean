import CardShuffle.Settings

/-!
# Errors of shuffles

A shuffle fails when its source breaks its promise; a deal may also fail on its
deck, and an analysis on its parameters or settings. An error that stands for
another one reports both, from the outside in.
-/

namespace CardShuffle

/-- Why a shuffle, a deal or an analysis fails. -/
inductive ShuffleError where
  /-- The source answered outside the range it was asked for. -/
  | drawOutOfRange (violation : OutOfRange)
  | deck (error : DeckError)
  | analysis (fault : AnalysisFault)
  | settings (error : SettingsError)
  deriving Repr

namespace ShuffleError

/-- The sentence that reports the error. -/
def message : ShuffleError -> String
  | drawOutOfRange violation =>
      s!"Random source returned {violation.drawn}, expected a value below {violation.bound}"
  | deck error => s!"Deck error: {error.message}"
  | analysis fault => s!"Invalid analysis parameters: {fault.message}"
  | settings error => s!"Configuration error: {error.message}"

/-- The sentence, then that of the error it stands for. -/
def levels (error : ShuffleError) : List String :=
  match error with
  | deck inner => [error.message, inner.message]
  | settings inner => [error.message, inner.message]
  | _ => [error.message]

end ShuffleError

end CardShuffle
