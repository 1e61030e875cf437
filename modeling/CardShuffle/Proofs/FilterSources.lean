import CardShuffle.Program
import Mathlib.Tactic.Common

/-!
# Where the log filter comes from

Two variables and one option can give the log filter of a run, and the general variable can
do so in two ways: as the filter that goes before all others, or as the text of the
telemetry settings when nothing else chooses one. When its text is refused, only the second
way is left (`filter_of_refused`).

So a refused text is passed over as long as the option or the other variable is given, and
the run is set up as if the general variable were not set. Otherwise the refused text is
itself the one that was chosen, and the run reports its fault (`logFilter_of_refused`).
-/

namespace CardShuffle

/-- The environment without one of its variables. -/
def Environment.unset (environment : Environment) (name : String) : Environment :=
  fun other => if other = name then none else environment other

namespace Telemetry

/-- The variable that chooses the log filter of the telemetry settings. -/
def levelVariable : String := "FD_LOG_LEVEL"

/-- The text of a log filter that is chosen: by the option, by the variable for it, by the
general variable, or by default. -/
def chosenText (environment : Environment) (level : Option String) : String :=
  ((level.or (environment levelVariable)).or (environment filterVariable)).getD "info"

/-- Telemetry settings hold the text that is chosen. -/
theorem logLevel_eq (environment : Environment) (level : Option String) :
    ((ofEnvironment environment).withLogLevel level).logLevel = chosenText environment level := by
  cases level <;> rfl

/-- A general variable that is refused leaves the filter to the text that is chosen. -/
theorem filter_of_refused {environment : Environment} {text : String} {fault : FilterFault}
    (set : environment filterVariable = some text)
    (refused : LogFilter.ofText text = .error (.error fault)) (telemetry : Telemetry) :
    telemetry.filter environment = LogFilter.ofText telemetry.logLevel := by
  rw [filter, set, Option.map_some, refused]

/-- So does one that is not set. -/
theorem filter_of_unset {environment : Environment} (unset : environment filterVariable = none)
    (telemetry : Telemetry) :
    telemetry.filter environment = LogFilter.ofText telemetry.logLevel := by
  rw [filter, unset, Option.map_none]

/-- Without the general variable its text cannot be chosen. -/
theorem chosenText_unset (environment : Environment) (level : Option String) :
    chosenText (environment.unset filterVariable) level =
      (level.or (environment levelVariable)).getD "info" := by
  simp [chosenText, Environment.unset, levelVariable, filterVariable]

end Telemetry

/-- The default text is the filter of one level. -/
theorem LogFilter.ofText_info : ofText "info" = .ok ⟨[{ level := .info }]⟩ := by
  decide +kernel

namespace Program

open Telemetry (levelVariable filterVariable chosenText)

/-- The log of a run is set up from the text that is chosen, unless the general variable is
a filter itself or reading it has no result. -/
theorem logFilter_eq_chosen {environment : Environment}
    (passed : ∀ telemetry : Telemetry,
      telemetry.filter environment = LogFilter.ofText telemetry.logLevel) (level : Option String) :
    logFilter environment level =
      Stop.restate .logging (LogFilter.ofText (chosenText environment level)) := by
  rw [logFilter, passed, Telemetry.logLevel_eq]

/-- Let the general variable hold a text that is refused. When the option or the variable
for the telemetry settings chooses a text, the log is set up from that text, with the same
filter or the same error as without the general variable. When neither does, the run
reports why the text of the general variable is refused, while without this variable it
would have the filter of the default level. -/
theorem logFilter_of_refused {environment : Environment} {text : String} {fault : FilterFault}
    (set : environment filterVariable = some text)
    (refused : LogFilter.ofText text = .error (.error fault)) (level : Option String) :
    let without := environment.unset filterVariable
    (∀ chosen, level.or (environment levelVariable) = some chosen →
      logFilter environment level = logFilter without level ∧
        logFilter without level = Stop.restate .logging (LogFilter.ofText chosen)) ∧
      (level.or (environment levelVariable) = none →
        logFilter environment level = .error (.error (.logging fault)) ∧
          logFilter without level = .ok ⟨[{ level := .info }]⟩) := by
  intro without
  have own := logFilter_eq_chosen (Telemetry.filter_of_refused set refused) level
  have unset : without filterVariable = none := if_pos rfl
  have others := logFilter_eq_chosen (Telemetry.filter_of_unset unset) level
  rw [Telemetry.chosenText_unset] at others
  refine ⟨?_, ?_⟩
  · intro chosen chose
    rw [chose] at others
    have same : chosenText environment level = chosen := by rw [chosenText, chose]; rfl
    rw [own, others, same]
    exact ⟨rfl, rfl⟩
  · intro unchosen
    rw [unchosen] at others
    have same : chosenText environment level = text := by rw [chosenText, unchosen, set]; rfl
    rw [own, others, same, refused, Option.getD_none, LogFilter.ofText_info]
    exact ⟨rfl, rfl⟩

/-- A text that names no level is passed over beside another one, and is the only fault
when it stands alone. -/
theorem logFilter_of_refused_loud :
    let beside : Environment := fun name =>
      if name = filterVariable then some "deck=loud"
      else if name = levelVariable then some "warn"
      else none
    let alone : Environment := fun name => if name = filterVariable then some "deck=loud" else none
    beside filterVariable = some "deck=loud" ∧ alone filterVariable = some "deck=loud" ∧
      LogFilter.ofText "deck=loud" = .error (.error .level) ∧
      logFilter beside none = logFilter (beside.unset filterVariable) none ∧
      logFilter alone none = .error (.error (.logging .level)) := by
  intro beside alone
  have setBeside : beside filterVariable = some "deck=loud" := rfl
  have setAlone : alone filterVariable = some "deck=loud" := rfl
  have refused : LogFilter.ofText "deck=loud" = .error (.error .level) := by decide +kernel
  exact ⟨setBeside, setAlone, refused,
    ((logFilter_of_refused setBeside refused none).1 "warn" rfl).1,
    ((logFilter_of_refused setAlone refused none).2 rfl).1⟩

/-- A refused text is not always passed over: where nothing else chooses a text, the run
ends otherwise than without the general variable. -/
theorem logFilter_ne_unset_alone :
    let alone : Environment := fun name => if name = filterVariable then some "deck=loud" else none
    alone filterVariable = some "deck=loud" ∧
      (∃ fault, LogFilter.ofText "deck=loud" = .error (.error fault)) ∧
      logFilter alone none ≠ logFilter (alone.unset filterVariable) none := by
  intro alone
  have set : alone filterVariable = some "deck=loud" := rfl
  have unset : alone.unset filterVariable filterVariable = none := rfl
  have refused : LogFilter.ofText "deck=loud" = .error (.error .level) := by decide +kernel
  refine ⟨set, ⟨.level, refused⟩, ?_⟩
  have reports : logFilter alone none = Stop.restate .logging (LogFilter.ofText "deck=loud") :=
    logFilter_eq_chosen (Telemetry.filter_of_refused set refused) none
  have default : logFilter (alone.unset filterVariable) none =
      Stop.restate .logging (LogFilter.ofText "info") :=
    logFilter_eq_chosen (Telemetry.filter_of_unset unset) none
  rw [reports, default, refused, LogFilter.ofText_info]
  exact nofun

end Program

end CardShuffle
