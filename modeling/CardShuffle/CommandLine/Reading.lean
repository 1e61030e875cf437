import CardShuffle.CommandLine.Choice

/-!
# Reading one level

A level of the command line is read argument by argument. An option may have its
value in the same argument, and the choice is made at once. Otherwise the value is
the next argument, and the choice is left open: it is settled by the next option
that is known, or at the end of the level. An argument that begins with a hyphen
and goes on is never such a value, but any other argument is, even the name of a
command. Two hyphens end the options.
-/

namespace CardShuffle.CommandLine

/-- What is open after an argument. -/
inductive Pending where
  | nothing
  /-- An option waits for its value. -/
  | awaiting (flag : Flag)
  /-- An option has its value, and the choice is not yet made. -/
  | holding (flag : Flag) (text : String)
  deriving Repr, DecidableEq

/-- The choices made at a level, the last one first, and what is open. -/
structure Reading where
  choices : List Choice := []
  pending : Pending := .nothing

/-- The shape of an argument. -/
inductive Shape where
  /-- Two hyphens alone. -/
  | ending
  /-- A long name, and the value after an equals sign if there is one. -/
  | long (name : String) (value : Option String)
  /-- Short names, the last of which may have a value behind it. -/
  | short (names : List Char)
  | word (text : String)
  deriving Repr, DecidableEq

/-- The shape an argument has. -/
def Shape.of (argument : String) : Shape :=
  match argument.toList with
  | ['-', '-'] => .ending
  | '-' :: '-' :: rest =>
      match rest.span (· ≠ '=') with
      | (name, _ :: value) => .long (String.ofList name) (some (String.ofList value))
      | (name, []) => .long (String.ofList name) none
  | '-' :: name :: rest => .short (name :: rest)
  | _ => .word argument

namespace Reading

/-- Whether an option waits for its value. -/
def isAwaiting (reading : Reading) : Bool :=
  match reading.pending with
  | .awaiting _ => true
  | _ => false

/-- Make a choice. An option that has been chosen already is refused before its
value is looked at. -/
def choose (reading : Reading) (flag : Flag) (text : String) : Except Refusal Reading :=
  if reading.choices.any fun choice => choice.flag == flag then
    .error .repeated
  else
    (flag.choose text).map fun choice => { reading with choices := choice :: reading.choices }

/-- Settle what is open. -/
def settle (reading : Reading) : Except Refusal Reading :=
  match reading.pending with
  | .nothing => .ok reading
  | .awaiting _ => .error .invalidValue
  | .holding flag text => { reading with pending := .nothing }.choose flag text

/-- Take an option with its value, or one that has none. -/
def take (reading : Reading) (flag : Flag) (text : String) : Except Refusal Reading := do
  (← reading.settle).choose flag text

/-- Take an option whose value comes next. -/
def expect (reading : Reading) (flag : Flag) : Except Refusal Reading := do
  return { ← reading.settle with pending := .awaiting flag }

/-- Take the option with a long name. -/
def takeLong (reading : Reading) (level : Level) (name : String) (value : Option String) :
    Except Refusal Reading :=
  match level.ofLongName? name with
  | none => .error .unknownArgument
  | some flag =>
      match flag.takesValue, value with
      | true, some text => reading.take flag text
      | true, none => reading.expect flag
      | false, some _ => .error .needlessValue
      | false, none => reading.take flag ""

/-- Take options by their short names. What stands behind an option that takes a
value is the value; an equals sign may come before it. -/
def takeShort (level : Level) : Reading -> List Char -> Except Refusal Reading
  | reading, [] => .ok reading
  | reading, name :: rest =>
      match level.ofShortName? name with
      | none => .error .unknownArgument
      | some flag =>
          if flag.takesValue then
            match rest with
            | [] => reading.expect flag
            | '=' :: value => reading.take flag (String.ofList value)
            | value => reading.take flag (String.ofList value)
          else do
            takeShort level (← reading.take flag "") rest

/-- Nothing may follow the end of the options. -/
def finish (reading : Reading) (level : Level) : List String -> Except Refusal Reading
  | [] => .ok reading
  | argument :: _ =>
      .error (if (level.verb? argument).isSome then .unknownArgument else level.stray)

/-- The command an argument calls: none while an option waits for its value. -/
def verb? (reading : Reading) (level : Level) (argument : String) : Option Verb :=
  if reading.isAwaiting then none else level.verb? argument

/-- Read a level up to a command or to the end. The result has the command and the
arguments behind it. -/
def read (level : Level) : Reading -> List String ->
    Except Refusal (Reading × Option (Verb × List String))
  | reading, [] => .ok (reading, none)
  | reading, argument :: rest =>
      match reading.verb? level argument with
      | some verb => .ok (reading, some (verb, rest))
      | none =>
          match Shape.of argument with
          | .ending => (reading.finish level rest).map fun reading => (reading, none)
          | .long name value => do
              read level (← reading.takeLong level name value) rest
          | .short names => do
              read level (← takeShort level reading names) rest
          | .word text =>
              match reading.pending with
              | .awaiting flag => read level { reading with pending := .holding flag text } rest
              | _ => .error level.stray

/-- Settle what is open at the end of a level. The settings file of the environment
has to be one that could be chosen, unless another one is. -/
def close (reading : Reading) (fallback : Option String) : Except Refusal (List Choice) := do
  let reading ← reading.settle
  match fallback, reading.choices.findSome? Choice.config? with
  | some path, none => (Flag.choose .config path).map fun _ => reading.choices
  | _, _ => return reading.choices

end Reading

end CardShuffle.CommandLine
