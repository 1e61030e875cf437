/-!
# Digits and signs

The values of digits and of runs of digits, and the signs before them. Decimal
digits are those of ASCII; hexadecimal digits may be in either letter case.
-/

namespace CardShuffle.Text

/-- The value of a decimal digit. -/
def digitValue? (char : Char) : Option Nat :=
  if char.isDigit then some (char.toNat - '0'.toNat) else none

/-- The value of a character as a digit of a base, which is at most sixteen. -/
def digitIn? (base : Nat) (char : Char) : Option Nat :=
  let value :=
    if '0' ≤ char ∧ char ≤ '9' then char.toNat - '0'.toNat
    else if 'a' ≤ char ∧ char ≤ 'f' then char.toNat - 'a'.toNat + 10
    else if 'A' ≤ char ∧ char ≤ 'F' then char.toNat - 'A'.toNat + 10
    else 16
  if value < base then some value else none

/-- The number that hexadecimal digits denote. -/
def hexNumber? (digits : List Char) : Option Nat :=
  digits.foldlM (fun value digit => (digitIn? 16 digit).map (16 * value + ·)) 0

/-- The character with the code that hexadecimal digits denote. -/
def hexChar? (digits : List Char) : Option Char := do
  let code ← hexNumber? digits
  if code < 0xD800 ∨ (0xE000 ≤ code ∧ code < 0x110000) then some (Char.ofNat code) else none

/-- The number that a run of decimal digits goes on to from a number. -/
def valueOf (start : Nat) (digits : List Char) : Nat :=
  digits.foldl (fun value digit => 10 * value + (digit.toNat - '0'.toNat)) start

/-- The decimal digits of a number denote it. -/
theorem valueOf_toDigits (number : Nat) : valueOf 0 (Nat.toDigits 10 number) = number :=
  Nat.ofDigitChars_toDigits (by decide) (by decide)

/-- Whether there is a minus in front, and what follows the sign if there is one. -/
def readSign : List Char -> Bool × List Char
  | '-' :: rest => (true, rest)
  | '+' :: rest => (false, rest)
  | chars => (false, chars)

end CardShuffle.Text
