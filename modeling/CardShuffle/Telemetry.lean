import CardShuffle.LogFilter

/-!
# Telemetry settings

What a program logs is set by variables of its environment and by one choice on
the command line. Two variables can give the log filter. The general one is used
whenever it is a filter at all; otherwise the filter is the one in the telemetry
settings, which the general variable can have reached as well. A fault in reading
either of them ends the run.
-/

namespace CardShuffle

/-- The values of the variables that are set. -/
abbrev Environment := String -> Option String

/-- Choices for logging. -/
structure Telemetry where
  serviceName : String := "fair-deck"
  /-- The text of a log filter. -/
  logLevel : String := "info"
  consoleOutput : Bool := true
  jsonLogs : Bool := false
  deriving Repr, DecidableEq, Inhabited

namespace Telemetry

/-- The variable whose filter goes before all others. -/
def filterVariable : String := "RUST_LOG"

/-- Whether a text turns something off that is on by default. Letter case does not
matter; no letter outside ASCII has a letter of these words as its lower case. -/
def turnsOff (text : String) : Bool :=
  Text.foldCase text == "false" || text == "0"

/-- Whether a text turns something on that is off by default. -/
def turnsOn (text : String) : Bool :=
  Text.foldCase text == "true" || text == "1"

/-- The choices an environment makes over the defaults. -/
def ofEnvironment (environment : Environment) : Telemetry :=
  let base : Telemetry := {}
  { serviceName := (environment "FD_SERVICE_NAME").getD base.serviceName
    logLevel := ((environment "FD_LOG_LEVEL").or (environment filterVariable)).getD base.logLevel
    consoleOutput :=
      ((environment "FD_CONSOLE_OUTPUT").map (!turnsOff ·)).getD base.consoleOutput
    jsonLogs := ((environment "FD_JSON_LOGS").map turnsOn).getD base.jsonLogs }

/-- Choose another log filter, if one is given. -/
def withLogLevel (telemetry : Telemetry) : Option String -> Telemetry
  | some level => { telemetry with logLevel := level }
  | none => telemetry

/-- The filter of a run: that of the general variable if it is one, otherwise the
chosen one. -/
def filter (telemetry : Telemetry) (environment : Environment) :
    Except (Stop FilterFault) LogFilter :=
  match (environment filterVariable).map LogFilter.ofText with
  | some (.ok general) => .ok general
  | some (.error .fault) => .error .fault
  | some (.error (.error _)) | none => LogFilter.ofText telemetry.logLevel

end Telemetry

end CardShuffle
