import CardShuffle.CommandLine
import CardShuffle.Run
import CardShuffle.Telemetry

/-!
# The program

The program reads its command line, sets up its log, loads the base settings,
lays the options over them and carries out the command. The first step that fails
ends the run, so nothing has been printed when any step before the last one fails.
An analysis outside its tolerance prints its table and fails all the same.
-/

namespace CardShuffle

universe u

/-- How a run ends. -/
inductive Ending where
  /-- The command line is not carried out. -/
  | refused (refusal : CommandLine.Refusal)
  /-- A step fails, after some output. -/
  | failed (output : String) (error : RunError)
  /-- All is done. -/
  | finished (output : String)
  /-- A step has no result: an exact number is no word, or a text is cut inside a
  character. -/
  | fault
  deriving Repr

namespace Ending

/-- The version in the words of the program. -/
def versionText : String := "fair-deck 0.1.0\n"

/-- The exit code. Asking for help or for the version is no failure. -/
def exitCode : Ending -> Nat
  | refused .help | refused .version | finished _ => 0
  | failed _ _ => 1
  | refused _ => 2
  | fault => 101

/-- What is printed. The words of the help are not kept, so nothing is printed for it. -/
def output : Ending -> String
  | refused .version => versionText
  | refused _ | fault => ""
  | failed text _ | finished text => text

/-- What is reported as an error. The words for a refused command line and for a fault are
not kept. -/
def errorOutput : Ending -> String
  | failed _ error => error.report
  | _ => ""

/-- Stop with a step that failed before anything was printed. -/
def stopped : Stop RunError -> Ending
  | .fault => fault
  | .error error => failed "" error

end Ending

namespace Program

open CommandLine (Invocation)

/-- The variable that names the settings file. -/
def configVariable : String := "FD_CONFIG"

/-- Set up the log of a run. -/
def logFilter (environment : Environment) (level : Option String) :
    Except (Stop RunError) LogFilter :=
  let telemetry := (Telemetry.ofEnvironment environment).withLogLevel level
  Stop.restate .logging (telemetry.filter environment)

/-- Deal a deck with options over base settings. -/
def shuffle {σ : Type u} [RandomSource σ] (entropy : σ) (base : Settings)
    (flags : ShuffleFlags) : Except RunError String := do
  let settings ← (flags.resolve base).mapError .shuffleSettings
  Run.shuffle entropy settings flags.json

/-- Analyse shuffles with options over base settings. -/
def analyze (base : Settings) (flags : AnalyzeFlags) : Except (Stop RunError) Run.Verdict := do
  let settings ← Stop.lift ((flags.resolve base).mapError .analysisSettings)
  Run.analyze settings

/-- Print a line at the end of a run that has succeeded. -/
def printed (text : String) : Ending :=
  .finished (text ++ "\n")

/-- Print the table of an analysis and pass the verdict on. -/
def concluded (verdict : Run.Verdict) : Ending :=
  if verdict.passed then
    printed verdict.text
  else
    .failed (verdict.text ++ "\n") .outsideTolerance

/-- Carry out a command over base settings. -/
def carryOut {σ : Type u} [RandomSource σ] (entropy : σ) (base : Settings) :
    CommandLine.Command -> Ending
  | .shuffle flags =>
      match shuffle entropy base flags with
      | .ok text => printed text
      | .error error => .failed "" error
  | .analyze flags =>
      match analyze base flags with
      | .ok verdict => concluded verdict
      | .error stop => .stopped stop

/-- Carry out a command line. -/
def execute {σ : Type u} [RandomSource σ] (environment : Environment) (files : Files)
    (entropy : σ) (invocation : Invocation) : Ending :=
  match logFilter environment invocation.logLevel with
  | .error stop => .stopped stop
  | .ok _ =>
      match loadBase files invocation.config with
      | .error error => .failed "" error
      | .ok base => carryOut entropy base invocation.command

/-- The command line of a run. -/
def invocation (environment : Environment) (arguments : List String) :
    Except CommandLine.Refusal Invocation :=
  CommandLine.parse (environment configVariable) arguments

/-- A whole run. -/
def run {σ : Type u} [RandomSource σ] (environment : Environment) (files : Files)
    (entropy : σ) (arguments : List String) : Ending :=
  match invocation environment arguments with
  | .error refusal => .refused refusal
  | .ok invocation => execute environment files entropy invocation

end Program

end CardShuffle
