import CardShuffle.Decimal.Binary64
import CardShuffle.Text.Digit

/-!
# Numbers, dates and times of TOML

Integers are decimal with an optional sign, or have a base prefix and none; they
stay within 64 bits. A float has a fraction, an exponent or both, or is one of
the names of the values without digits. A single underscore may stand between
two digits. Dates and times are recognised, but nothing is made of them.
-/

namespace CardShuffle.Toml

/-- Go on reading a run of digits, each of which may have an underscore before
it. The result is the value, the number of digits and what follows them. -/
def spanMore (base : Nat) : (value count : Nat) -> List Char -> Nat × Nat × List Char
  | value, count, '_' :: char :: rest =>
      match Text.digitIn? base char with
      | some digit => spanMore base (base * value + digit) (count + 1) rest
      | none => (value, count, '_' :: char :: rest)
  | value, count, char :: rest =>
      match Text.digitIn? base char with
      | some digit => spanMore base (base * value + digit) (count + 1) rest
      | none => (value, count, char :: rest)
  | value, count, [] => (value, count, [])

/-- Read a run of digits that goes on from a value. -/
def readRun (base value : Nat) : List Char -> Option (Nat × Nat × List Char)
  | [] => none
  | char :: rest =>
      (Text.digitIn? base char).map fun digit => spanMore base (base * value + digit) 1 rest

/-- A number of either kind. -/
inductive Number where
  | integer (value : Int)
  | float (value : Float)

/-- Read digits before a point: a single zero, or a run that begins with another
digit. -/
def readWhole : List Char -> Option (Nat × List Char)
  | '0' :: rest => some (0, rest)
  | chars => (readRun 10 0 chars).map fun (value, _, rest) => (value, rest)

/-- Read an exponent after its mark, if there is a mark. -/
def readExponent : List Char -> Option (Option Int × List Char)
  | [] => some (none, [])
  | mark :: rest =>
      if mark = 'e' ∨ mark = 'E' then
        let (negative, rest) := Text.readSign rest
        (readRun 10 0 rest).map fun (value, _, rest) =>
          (some (if negative then -(value : Int) else value), rest)
      else
        some (none, mark :: rest)

/-- An integer within 64 bits. -/
def integer? (negative : Bool) (value : Nat) : Option Number :=
  if negative then
    if value ≤ 9223372036854775808 then some (.integer (-(value : Int))) else none
  else
    if value < 9223372036854775808 then some (.integer value) else none

/-- A float. Positive values too large for the format are refused. -/
def float? (negative : Bool) (digits : Nat) (exponent : Int) : Option Number :=
  if ¬ negative ∧ Binary64.infinityBits ≤ Binary64.nearestBits digits exponent then
    none
  else
    some (.float (Binary64.nearest negative digits exponent))

/-- Read a decimal number after its sign. -/
def readDecimal (negative : Bool) (chars : List Char) : Option (Number × List Char) := do
  let (whole, rest) ← readWhole chars
  match rest with
  | '.' :: rest =>
      let (digits, places, rest) ← readRun 10 whole rest
      let (exponent, rest) ← readExponent rest
      let value ← float? negative digits (exponent.getD 0 - places)
      return (value, rest)
  | rest =>
      let (exponent, rest) ← readExponent rest
      let value ←
        match exponent with
        | some exponent => float? negative whole exponent
        | none => integer? negative whole
      return (value, rest)

/-- Read an integer of a base after its prefix. -/
def readBased (base : Nat) (chars : List Char) : Option (Number × List Char) := do
  let (value, _, rest) ← readRun base 0 chars
  let value ← integer? false value
  return (value, rest)

/-- Read a number. -/
def readNumber (chars : List Char) : Option (Number × List Char) :=
  match chars with
  | '0' :: 'x' :: rest => readBased 16 rest
  | '0' :: 'o' :: rest => readBased 8 rest
  | '0' :: 'b' :: rest => readBased 2 rest
  | _ =>
      match Text.readSign chars with
      | (negative, 'i' :: 'n' :: 'f' :: rest) =>
          some (.float (if negative then -1.0 / 0.0 else 1.0 / 0.0), rest)
      | (_, 'n' :: 'a' :: 'n' :: rest) => some (.float (0.0 / 0.0), rest)
      | (negative, rest) => readDecimal negative rest

/-- Read a fixed number of digits whose value lies within bounds. -/
def readPart (count least most : Nat) (chars : List Char) : Option (Nat × List Char) := do
  let digits ← (chars.take count).mapM (Text.digitIn? 10)
  let value := digits.foldl (10 * · + ·) 0
  if digits.length = count ∧ least ≤ value ∧ value ≤ most then
    some (value, chars.drop count)
  else
    none

/-- What follows a character that has to come first. -/
def expect? (char : Char) : List Char -> Option (List Char)
  | first :: rest => if first = char then some rest else none
  | [] => none

/-- What follows a fraction of a second, if there is one. -/
def skipFraction (chars : List Char) : List Char :=
  match chars with
  | '.' :: rest =>
      match rest.takeWhile Char.isDigit with
      | [] => chars
      | _ => rest.dropWhile Char.isDigit
  | _ => chars

/-- What follows a time of day. -/
def skipTime? (chars : List Char) : Option (List Char) := do
  let (_, rest) ← readPart 2 0 23 chars
  let (_, rest) ← readPart 2 0 59 (← expect? ':' rest)
  let (_, rest) ← readPart 2 0 60 (← expect? ':' rest)
  return skipFraction rest

/-- What follows an offset from universal time. -/
def skipOffset? : List Char -> Option (List Char)
  | [] => none
  | sign :: rest =>
      if sign = 'Z' ∨ sign = 'z' then
        some rest
      else if sign = '+' ∨ sign = '-' then do
        let (_, rest) ← readPart 2 0 23 rest
        let (_, rest) ← readPart 2 0 59 (← expect? ':' rest)
        return rest
      else
        none

/-- The number of days of a month. -/
def daysIn (year month : Nat) : Nat :=
  let isLeap := year % 4 = 0 ∧ (year % 100 ≠ 0 ∨ year % 400 = 0)
  if month = 2 then (if isLeap then 29 else 28)
  else if month = 4 ∨ month = 6 ∨ month = 9 ∨ month = 11 then 30
  else 31

/-- What follows a date. -/
def skipDate? (chars : List Char) : Option (List Char) := do
  let (year, rest) ← readPart 4 0 9999 chars
  let (month, rest) ← readPart 2 1 12 (← expect? '-' rest)
  let (_, rest) ← readPart 2 1 (daysIn year month) (← expect? '-' rest)
  return rest

/-- What follows a date, a time or both, if one comes first. -/
def skipMoment? (chars : List Char) : Option (List Char) :=
  match skipDate? chars with
  | none => skipTime? chars
  | some [] => some []
  | some (delimiter :: rest) =>
      if delimiter = 'T' ∨ delimiter = 't' ∨ delimiter = ' ' then
        match skipTime? rest with
        | none => some (delimiter :: rest)
        | some rest => some ((skipOffset? rest).getD rest)
      else
        some (delimiter :: rest)

end CardShuffle.Toml
