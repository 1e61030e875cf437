import CardShuffle.Decimal.Style
import CardShuffle.Text.Digit
import CardShuffle.Word

/-!
# JSON numbers

A number of JSON text is a sign, digits without a needless zero in front, and
an optional fraction and exponent. It is kept with the digits of its parts as
they stand, so that nothing is rounded before it is known what is to be read.

Words are read from plain runs of digits. How a floating-point number is read
and written is left to a `FloatFormat`: readers of JSON differ in the last place,
as some of them round in several steps. `FloatFormat.exact` rounds once.
-/

namespace CardShuffle.Json

/-- A number as it was written. -/
structure Number where
  negative : Bool
  /-- The digits before the point. -/
  integer : List Char
  /-- The digits behind the point, if there is a point. -/
  fraction : Option (List Char)
  /-- Whether the exponent is negative, and its digits, if there is one. -/
  exponent : Option (Bool × List Char)
  deriving Repr, DecidableEq

/-- The digits at the front of a text and what follows them. -/
def spanDigits (chars : List Char) : List Char × List Char :=
  (chars.takeWhile Char.isDigit, chars.dropWhile Char.isDigit)

/-- The digits before the point: a single zero, or a run that begins with
another digit. -/
def readInteger : List Char -> Option (List Char × List Char)
  | [] => none
  | first :: rest =>
      if first = '0' then some (['0'], rest)
      else if first.isDigit then some (spanDigits (first :: rest))
      else none

/-- The digits after a point, if there is a point. -/
def readFraction : List Char -> Option (Option (List Char) × List Char)
  | '.' :: rest =>
      match spanDigits rest with
      | ([], _) => none
      | (digits, rest) => some (some digits, rest)
  | chars => some (none, chars)

/-- The exponent after its mark, if there is a mark. -/
def readExponent : List Char -> Option (Option (Bool × List Char) × List Char)
  | [] => some (none, [])
  | mark :: rest =>
      if mark = 'e' ∨ mark = 'E' then
        let (negative, rest) := Text.readSign rest
        match spanDigits rest with
        | ([], _) => none
        | (digits, rest) => some (some (negative, digits), rest)
      else
        some (none, mark :: rest)

/-- Read a number after its sign. -/
def readUnsigned (negative : Bool) (chars : List Char) : Option (Number × List Char) := do
  let (integer, rest) ← readInteger chars
  let (fraction, rest) ← readFraction rest
  let (exponent, rest) ← readExponent rest
  return ({ negative, integer, fraction, exponent }, rest)

/-- Read a number. -/
def readNumber : List Char -> Option (Number × List Char)
  | '-' :: rest => readUnsigned true rest
  | chars => readUnsigned false chars

namespace Number

/-- The digits on both sides of the point as one number. -/
def digits (number : Number) : Nat :=
  Text.valueOf (Text.valueOf 0 number.integer) (number.fraction.getD [])

/-- The power of ten that is written behind the mark of an exponent. -/
def power (number : Number) : Int :=
  match number.exponent with
  | none => 0
  | some (negative, digits) =>
      let value : Int := Text.valueOf 0 digits
      if negative then -value else value

/-- The power of ten that the digits have to be multiplied by. -/
def scale (number : Number) : Int :=
  number.power - (number.fraction.getD []).length

/-- The word that a run of digits denotes, without a sign, a point or an exponent. -/
def word? (number : Number) : Option Nat :=
  if number.fraction = none ∧ number.exponent = none ∧ ¬ number.negative ∧
      number.digits < Word.limit then
    some number.digits
  else
    none

/-- The nearest floating-point number, when that is finite. -/
def nearest? (number : Number) : Option Float :=
  if Binary64.nearestBits number.digits number.scale < Binary64.infinityBits then
    some (Binary64.nearest number.negative number.digits number.scale)
  else
    none

end Number

/-- How floating-point numbers stand in JSON texts. -/
structure FloatFormat where
  /-- The text of `mantissa * 2 ^ exponent`, negated if `negative`. -/
  write : (negative : Bool) -> (mantissa : Nat) -> (exponent : Int) -> String
  /-- The floating-point number that a number of a text is read as; there is none
  when it is out of range. -/
  read? : Number -> Option Float

/-- The shortest texts are written, and the nearest number is read. -/
def FloatFormat.exact : FloatFormat :=
  { write := Decimal.data.text, read? := Number.nearest? }

end CardShuffle.Json
