import CardShuffle.CommandLine.Reading

/-!
# The command line

A command line has general options, a command, and the options of the command.
General options may stand on both sides of the command; the one behind it goes
before the one in front of it, and either goes before the environment. The level
of the command is read to its end before what is left open in front of it is
settled.
-/

namespace CardShuffle.CommandLine

/-- A command with its options. -/
inductive Command where
  | shuffle (flags : ShuffleFlags)
  | analyze (flags : AnalyzeFlags)
  deriving Repr

/-- A command line that can be carried out. -/
structure Invocation where
  /-- The settings file. -/
  config : Option String
  /-- The log filter. -/
  logLevel : Option String
  command : Command
  deriving Repr

/-- What the help command answers: help for the command that is named behind it, or
for the program when nothing is. -/
def help : List String -> Refusal
  | [] => .help
  | [topic] => if (Verb.ofName? topic).isSome then .help else .unknownCommand
  | _ => .unknownCommand

/-- Read all of a level that has no commands. -/
def readLevel (level : Level) (fallback : Option String) (arguments : List String) :
    Except Refusal (List Choice) := do
  let (reading, _) ← Reading.read level {} arguments
  reading.close fallback

/-- Refuse a command line without a command. A settings file that the environment
names counts as given. -/
def withoutCommand (fallback : Option String) (choices : List Choice) : Refusal :=
  if choices.isEmpty && fallback.isNone then .nothingGiven else .missingCommand

/-- The settings file and the log filter of choices behind and in front of a
command, with a settings file to fall back on. -/
def invoke (behind front : List Choice) (fallback : Option String) (command : Command) :
    Invocation :=
  { config :=
      ((behind.findSome? Choice.config?).or (front.findSome? Choice.config?)).or fallback
    logLevel := (behind.findSome? Choice.logLevel?).or (front.findSome? Choice.logLevel?)
    command }

/-- Read a command line. `fallback` is the settings file that the environment
names. -/
def parse (fallback : Option String) (arguments : List String) : Except Refusal Invocation := do
  let (reading, call) ← Reading.read .program {} arguments
  match call with
  | none => throw (withoutCommand fallback (← reading.close fallback))
  | some (.help, rest) => throw (help rest)
  | some (.shuffle, rest) =>
      let own ← readLevel .shuffle fallback rest
      let general ← reading.close fallback
      return invoke own general fallback (.shuffle (Choice.forShuffle own))
  | some (.analyze, rest) =>
      let own ← readLevel .analyze fallback rest
      let general ← reading.close fallback
      return invoke own general fallback (.analyze (Choice.forAnalyze own))

end CardShuffle.CommandLine
