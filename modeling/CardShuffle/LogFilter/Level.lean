import CardShuffle.Decimal.Reading
import CardShuffle.Text.Case

/-!
# Levels of a log

A level says how much is let through. The levels are in order from nothing to
everything, and each has a name and a number.
-/

namespace CardShuffle

/-- How much is let through, from nothing to everything. -/
inductive LogLevel where
  | off
  | error
  | warn
  | info
  | debug
  | trace
  deriving Repr, DecidableEq, Inhabited

namespace LogLevel

/-- The levels in order. -/
def all : List LogLevel := [off, error, warn, info, debug, trace]

/-- The name of a level. -/
def name : LogLevel -> String
  | off => "off"
  | error => "error"
  | warn => "warn"
  | info => "info"
  | debug => "debug"
  | trace => "trace"

/-- The number of a level; a higher one lets more through. -/
def rank : LogLevel -> Nat
  | off => 0
  | error => 1
  | warn => 2
  | info => 3
  | debug => 4
  | trace => 5

/-- The level a text gives, by its number or by its name in any letter case. -/
def ofText? (text : String) : Option LogLevel :=
  match Decimal.readWord? text with
  | some number => all.find? fun level => level.rank == number
  | none => all.find? fun level => level.name == Text.foldCase text

/-- The higher one of two levels. -/
def higher (left right : LogLevel) : LogLevel :=
  if left.rank < right.rank then right else left

end LogLevel

end CardShuffle
