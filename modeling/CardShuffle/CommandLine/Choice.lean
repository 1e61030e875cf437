import CardShuffle.Decimal.Reading
import CardShuffle.Settings.Overlay

/-!
# Options and choices

An option has a long name and may have a short one. Most options take a value;
an option with its value is a choice. Every level of the command line knows some
of the options: the program its general ones, and each command its own together
with the general ones that may stand anywhere.
-/

namespace CardShuffle.CommandLine

/-- Why a command line is not carried out. -/
inductive Refusal where
  /-- Help is asked for. -/
  | help
  /-- The version is asked for. -/
  | version
  /-- There is nothing on the command line. -/
  | nothingGiven
  /-- There are options and no command. -/
  | missingCommand
  | unknownCommand
  | unknownArgument
  /-- A value is missing, or is none of the values of its option. -/
  | invalidValue
  /-- A value is no number of the right kind. -/
  | malformedNumber
  /-- An option without a value is given one. -/
  | needlessValue
  /-- An option is given twice at one level. -/
  | repeated
  deriving Repr, DecidableEq

/-- The commands of the program. -/
inductive Verb where
  | shuffle
  | analyze
  | help
  deriving Repr, DecidableEq

/-- The command with a name. -/
def Verb.ofName? (name : String) : Option Verb :=
  if name = "shuffle" then some shuffle
  else if name = "analyze" then some analyze
  else if name = "help" then some help
  else none

/-- The levels of the command line. -/
inductive Level where
  /-- What stands before a command. -/
  | program
  | shuffle
  | analyze
  deriving Repr, DecidableEq

/-- The options of all levels. -/
inductive Flag where
  | config
  | logLevel
  | size
  | seed
  | variant
  | json
  | items
  | trials
  | chunks
  | tolerance
  | help
  | version
  deriving Repr, DecidableEq

/-- An option with its value. -/
inductive Choice where
  | config (path : String)
  | logLevel (text : String)
  | size (size : Nat)
  | seed (seed : Nat)
  | variant (variant : Variant)
  | json
  | items (items : Nat)
  | trials (trials : Nat)
  | chunks (chunks : Nat)
  | tolerance (tolerance : Float)
  deriving Repr

namespace Flag

/-- The long name of an option. -/
def longName : Flag -> String
  | config => "config"
  | logLevel => "log-level"
  | size => "size"
  | seed => "seed"
  | variant => "variant"
  | json => "json"
  | items => "items"
  | trials => "trials"
  | chunks => "chunks"
  | tolerance => "tolerance"
  | help => "help"
  | version => "version"

/-- The short name of an option. -/
def shortName? : Flag -> Option Char
  | config => some 'c'
  | size => some 's'
  | items => some 'i'
  | trials => some 't'
  | help => some 'h'
  | version => some 'V'
  | _ => none

/-- Whether an option takes a value. -/
def takesValue : Flag -> Bool
  | json | help | version => false
  | _ => true

/-- A whole number as a value. -/
def readCount (choice : Nat -> Choice) (text : String) : Except Refusal Choice :=
  match Decimal.readWord? text with
  | some value => .ok (choice value)
  | none => .error .malformedNumber

/-- The choice of an option with the text of its value. Options without a value
pass the text over. -/
def choose (flag : Flag) (text : String) : Except Refusal Choice :=
  match flag with
  | config => if text.isEmpty then .error .invalidValue else .ok (.config text)
  | logLevel => .ok (.logLevel text)
  | size => readCount .size text
  | seed => readCount .seed text
  | variant =>
      match Variant.ofName? text with
      | some form => .ok (.variant form)
      | none => .error .invalidValue
  | json => .ok .json
  | items => readCount .items text
  | trials => readCount .trials text
  | chunks => readCount .chunks text
  | tolerance =>
      match Decimal.readFloat? text with
      | some value => .ok (.tolerance value)
      | none => .error .malformedNumber
  | help => .error .help
  | version => .error .version

end Flag

namespace Choice

/-- The option of a choice. -/
def flag : Choice -> Flag
  | config _ => .config
  | logLevel _ => .logLevel
  | size _ => .size
  | seed _ => .seed
  | variant _ => .variant
  | json => .json
  | items _ => .items
  | trials _ => .trials
  | chunks _ => .chunks
  | tolerance _ => .tolerance

end Choice

namespace Level

/-- The options a level knows. -/
def flags : Level -> List Flag
  | program => [.config, .logLevel, .help, .version]
  | shuffle => [.size, .seed, .variant, .json, .config, .logLevel, .help]
  | analyze =>
      [.items, .trials, .seed, .chunks, .tolerance, .variant, .config, .logLevel, .help]

/-- The option with a long name. -/
def ofLongName? (level : Level) (name : String) : Option Flag :=
  level.flags.find? fun flag => flag.longName == name

/-- The option with a short name. -/
def ofShortName? (level : Level) (name : Char) : Option Flag :=
  level.flags.find? fun flag => flag.shortName? == some name

/-- The command a word calls at a level. -/
def verb? (level : Level) (word : String) : Option Verb :=
  match level with
  | program => Verb.ofName? word
  | _ => none

/-- What a word that is neither an option nor a command is refused with. -/
def stray : Level -> Refusal
  | program => .unknownCommand
  | _ => .unknownArgument

end Level

namespace Choice

/-- The settings file a choice names. -/
def config? : Choice -> Option String
  | config path => some path
  | _ => none

/-- The log filter a choice gives. -/
def logLevel? : Choice -> Option String
  | logLevel text => some text
  | _ => none

/-- The seed a choice gives. -/
def seed? : Choice -> Option Nat
  | seed value => some value
  | _ => none

/-- The form of the shuffle a choice gives. -/
def variant? : Choice -> Option Variant
  | variant form => some form
  | _ => none

/-- The choices for a deal. -/
def forShuffle (choices : List Choice) : ShuffleFlags :=
  { size := choices.findSome? fun | .size value => some value | _ => none
    seed := choices.findSome? seed?
    variant := choices.findSome? variant?
    json := choices.any fun | .json => true | _ => false }

/-- The choices for an analysis. -/
def forAnalyze (choices : List Choice) : AnalyzeFlags :=
  { items := choices.findSome? fun | .items value => some value | _ => none
    trials := choices.findSome? fun | .trials value => some value | _ => none
    seed := choices.findSome? seed?
    chunks := choices.findSome? fun | .chunks value => some value | _ => none
    tolerance := choices.findSome? fun | .tolerance value => some value | _ => none
    variant := choices.findSome? variant? }

end Choice

end CardShuffle.CommandLine
