import CardShuffle.LogFilter
import CardShuffle.ShuffleError

/-!
# Errors of a run

A run reports the step that failed and below it, from the outside in, the causes.
One cause stands alone in the report; several are numbered.
-/

namespace CardShuffle

/-- Why a run fails, by the step that fails. -/
inductive RunError where
  /-- Setting up the log. -/
  | logging (fault : FilterFault)
  /-- Loading the settings file at a path. -/
  | loading (path : String) (error : SettingsError)
  /-- Putting together the settings for a deal. -/
  | shuffleSettings (error : SettingsError)
  /-- Putting together the settings for an analysis. -/
  | analysisSettings (error : SettingsError)
  /-- Dealing a deck. -/
  | dealing (error : ShuffleError)
  /-- Analysing shuffles. -/
  | analysing (error : ShuffleError)
  /-- The analysis was carried out, and a count deviates by too much. -/
  | outsideTolerance
  deriving Repr

namespace RunError

/-- The words for the step that failed. -/
def step : RunError -> String
  | logging _ => "initializing logging"
  | loading path _ => s!"loading config from {path}"
  | shuffleSettings _ => "invalid shuffle settings"
  | analysisSettings _ => "invalid analysis settings"
  | dealing _ => "shuffling deck"
  | analysing _ => "running uniformity analysis"
  | outsideTolerance => "shuffle distribution is outside tolerance"

/-- The causes from the outside in. -/
def causes : RunError -> List String
  | logging fault => [fault.message]
  | loading _ error | shuffleSettings error | analysisSettings error => [error.message]
  | dealing error | analysing error => error.levels
  | outsideTolerance => []

/-- A text with something before every line but the first. -/
def indent (before text : String) : String :=
  String.ofList (text.toList.flatMap fun char =>
    if char = '\n' then '\n' :: before.toList else [char])

/-- The causes in the report. -/
def listCauses : List String -> String
  | [] => ""
  | [cause] => "\n\nCaused by:\n    " ++ indent "    " cause
  | causes =>
      "\n\nCaused by:" ++ String.join (causes.zipIdx.map fun (cause, number) =>
        "\n" ++ Decimal.alignRight 5 (toString number) ++ ": " ++ indent "       " cause)

/-- The report of an error. -/
def report (error : RunError) : String :=
  "Error: " ++ error.step ++ listCauses error.causes ++ "\n"

end RunError

end CardShuffle
