import CardShuffle.Decimal.Binary64
import CardShuffle.Text.Case
import CardShuffle.Text.Digit
import CardShuffle.Word

/-!
# Reading numbers

A whole number is a run of decimal digits with a plus before it or nothing, and
has to be a word. A floating-point number is read in the widest form: a sign,
digits with a point before, between or behind them, and an exponent, or one of
the names `inf`, `infinity` and `nan` in any letter case. It becomes the nearest
number of its format, which is infinite for a value that is too large.
-/

namespace CardShuffle.Decimal

/-- The number a text of digits denotes, when it has digits and nothing else. -/
def readDigits? (chars : List Char) : Option Nat :=
  if chars ≠ [] ∧ chars.all Char.isDigit then some (Text.valueOf 0 chars) else none

/-- The word a text denotes. -/
def readWord? (text : String) : Option Nat := do
  let value ←
    match text.toList with
    | '+' :: digits => readDigits? digits
    | digits => readDigits? digits
  if value < Word.limit then some value else none

/-- The digits behind a point, if there is a point, and what follows them. -/
def readPlaces : List Char -> List Char × List Char
  | '.' :: rest => rest.span Char.isDigit
  | chars => ([], chars)

/-- The exponent a text ends with; it is zero when the text is empty. -/
def readExponent? : List Char -> Option Int
  | [] => some 0
  | mark :: rest =>
      if mark = 'e' ∨ mark = 'E' then
        let (negative, digits) := Text.readSign rest
        (readDigits? digits).map fun value => if negative then -(value : Int) else value
      else
        none

/-- The number that digits denote. -/
def readFinite? (negative : Bool) (chars : List Char) : Option Float := do
  let (whole, rest) := chars.span Char.isDigit
  let (places, rest) := readPlaces rest
  if whole = [] ∧ places = [] then
    none
  else
    let exponent ← readExponent? rest
    let digits := Text.valueOf (Text.valueOf 0 whole) places
    return Binary64.nearest negative digits (exponent - places.length)

/-- The number that a name denotes. -/
def readName? (negative : Bool) (name : String) : Option Float :=
  match Text.foldCase name with
  | "inf" | "infinity" => some (if negative then -1.0 / 0.0 else 1.0 / 0.0)
  | "nan" => some (0.0 / 0.0)
  | _ => none

/-- The floating-point number a text denotes. -/
def readFloat? (text : String) : Option Float :=
  let (negative, chars) := Text.readSign text.toList
  (readFinite? negative chars).or (readName? negative (String.ofList chars))

end CardShuffle.Decimal
