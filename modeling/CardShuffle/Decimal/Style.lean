import CardShuffle.Decimal.Shortest

/-!
# Number texts

`Decimal.Style` collects the choices a text makes about a number: where an
exponent begins, whether whole numbers show a point, and what stands for the
values that have no digits. Two styles are used: `Decimal.message` for numbers
in sentences and `Decimal.data` for numbers in JSON. `Decimal.fixed` writes a
number with a fixed count of decimal places.
-/

namespace CardShuffle.Decimal

/-- The choices a shortest text makes. -/
structure Style where
  /-- Which of two equally near shortest decimals is written. -/
  tie : Tie
  /-- Whether whole numbers end in a point and a zero. -/
  wholePoint : Bool
  /-- Whether a number is written without an exponent when its point stands
  that many places after its first digit's left side. -/
  positional : Int -> Bool

/-- Numbers in sentences never have an exponent, and whole ones have no point. -/
def message : Style :=
  { tie := .up, wholePoint := false, positional := fun _ => true }

/-- Numbers in JSON have an exponent below 0.00001 and from 10^16 on, and whole
ones end in a point and a zero. -/
def data : Style :=
  { tie := .even, wholePoint := true, positional := fun point => -5 < point && point ≤ 16 }

/-- A natural number in decimal digits. -/
def digitsOf (number : Nat) : List Char :=
  Nat.toDigits 10 number

/-- Digits with the point after `point` of them; zeros fill the gap when the
point lies outside. -/
def place (wholePoint : Bool) (digits : List Char) (point : Int) : List Char :=
  if point ≤ 0 then
    '0' :: '.' :: (List.replicate (-point).toNat '0' ++ digits)
  else if digits.length ≤ point.toNat then
    digits ++ List.replicate (point.toNat - digits.length) '0' ++
      (if wholePoint then ['.', '0'] else [])
  else
    digits.take point.toNat ++ '.' :: digits.drop point.toNat

/-- Digits with a point after the first and an exponent of ten. -/
def scientific (digits : List Char) (point : Int) : List Char :=
  let exponent := point - 1
  let sign := if exponent < 0 then ['e', '-'] else ['e', '+']
  digits.take 1 ++ (if digits.length ≤ 1 then [] else '.' :: digits.drop 1) ++
    sign ++ digitsOf exponent.natAbs

/-- Write a decimal in a style, without a sign. -/
def Style.write (style : Style) (decimal : Decimal) : List Char :=
  let digits := digitsOf decimal.digits
  let point := decimal.exponent + digits.length
  if style.positional point then
    if decimal.digits = 0 then place style.wholePoint digits 1
    else place style.wholePoint digits point
  else
    scientific digits point

/-- The shortest text of a finite number. -/
def Style.text (style : Style) (negative : Bool) (mantissa : Nat) (exponent : Int) : String :=
  let body := style.write (shortest style.tie mantissa exponent)
  String.ofList (if negative then '-' :: body else body)

/-- A number in a sentence. -/
def messageText (number : Float) : String :=
  match Binary64.ofFloat number with
  | .notANumber => "NaN"
  | .infinite negative => if negative then "-inf" else "inf"
  | .finite negative mantissa exponent => message.text negative mantissa exponent

/-- The digits of `mantissa * 2 ^ exponent` rounded to a count of decimal
places, a tie going to the even digit. -/
def fixedDigits (places mantissa : Nat) (exponent : Int) : List Char :=
  let (up, down) := Binary64.power 2 exponent
  let scaled := Binary64.roundHalfEven (mantissa * up * Nat.pow 10 places) down
  let fraction := digitsOf (scaled % Nat.pow 10 places)
  digitsOf (scaled / Nat.pow 10 places) ++
    (if places = 0 then []
      else '.' :: (List.replicate (places - fraction.length) '0' ++ fraction))

/-- A number with a fixed count of decimal places. A number without a minus
sign shows a plus sign if `plus` is set; the sign of a negative number stays
when it rounds to zero. -/
def fixed (places : Nat) (plus : Bool) (number : Float) : String :=
  let signed (negative : Bool) (body : List Char) : String :=
    String.ofList (if negative then '-' :: body else if plus then '+' :: body else body)
  match Binary64.ofFloat number with
  | .notANumber => "NaN"
  | .infinite negative => signed negative "inf".toList
  | .finite negative mantissa exponent =>
      signed negative (fixedDigits places mantissa exponent)

/-- A text moved to the right end of a field. -/
def alignRight (width : Nat) (text : String) : String :=
  String.ofList (List.replicate (width - text.length) ' ') ++ text

/-- A text at the left end of a field. -/
def alignLeft (width : Nat) (text : String) : String :=
  text ++ String.ofList (List.replicate (width - text.length) ' ')

end CardShuffle.Decimal
