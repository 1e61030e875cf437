/-!
# Binary64 numbers as exact values

A finite number of the binary64 format is a natural mantissa times a power of
two, with a sign. `Binary64.decode` reads it from the bits, and
`Binary64.nearest` goes back from any decimal value to the bits of the nearest
number, a tie going to the even mantissa.
-/

namespace CardShuffle

/-- A number of the binary64 format, by what it denotes. -/
inductive Binary64 where
  | notANumber
  | infinite (negative : Bool)
  /-- The value `mantissa * 2 ^ exponent`, negated if `negative`. Zero keeps
  its sign. -/
  | finite (negative : Bool) (mantissa : Nat) (exponent : Int)
  deriving Repr, DecidableEq

namespace Binary64

/-- The number of mantissas of one exponent: `2 ^ 52`. -/
def hidden : Nat := 4503599627370496

/-- The weight of the bit that holds the sign: `2 ^ 63`. -/
def signWeight : Nat := 9223372036854775808

/-- Read a number from its 64 bits. -/
def decode (bits : Nat) : Binary64 :=
  let negative := bits / signWeight % 2 == 1
  let scale := bits / hidden % 2048
  let fraction := bits % hidden
  if scale = 2047 then
    if fraction = 0 then infinite negative else notANumber
  else if scale = 0 then
    finite negative fraction (-1074)
  else
    finite negative (hidden + fraction) (scale - 1075)

/-- Read the value of a floating-point number. -/
def ofFloat (number : Float) : Binary64 :=
  decode number.toBits.toNat

/-- The quotient rounded to the nearest natural number, a tie to the even one. -/
def roundHalfEven (numerator denominator : Nat) : Nat :=
  let quotient := numerator / denominator
  let doubled := 2 * (numerator % denominator)
  if doubled < denominator then quotient
  else if denominator < doubled then quotient + 1
  else quotient + quotient % 2

/-- The numerator and denominator of `base ^ exponent`. -/
def power (base : Nat) (exponent : Int) : Nat × Nat :=
  if 0 ≤ exponent then (base.pow exponent.toNat, 1) else (1, base.pow (-exponent).toNat)

/-- The bits of positive infinity. -/
def infinityBits : Nat := 2047 * hidden

/-- The bits of the number nearest to `numerator / denominator`, which is not
negative. A value past the largest finite number by half a step is infinity. -/
def nearestRatio (numerator denominator : Nat) : Nat :=
  if numerator = 0 then 0
  else
    let estimate : Int := numerator.log2 - denominator.log2
    let (up, down) := power 2 (52 - estimate)
    let short := numerator * up / (denominator * down) < hidden
    let exponent := max (if short then estimate - 53 else estimate - 52) (-1074)
    let (up, down) := power 2 (-exponent)
    let mantissa := roundHalfEven (numerator * up) (denominator * down)
    min infinityBits ((exponent + 1074).toNat * hidden + mantissa)

/-- The bits of the number nearest to `digits * 10 ^ exponent`. Values far
outside the range of the format are settled without forming the power. -/
def nearestBits (digits : Nat) (exponent : Int) : Nat :=
  if digits = 0 then 0
  else if 400 < exponent then infinityBits
  else if exponent + digits.log2 < -400 then 0
  else
    let (up, down) := power 10 exponent
    nearestRatio (digits * up) down

/-- The number nearest to `digits * 10 ^ exponent`, negated if `negative`. -/
def nearest (negative : Bool) (digits : Nat) (exponent : Int) : Float :=
  let bits := nearestBits digits exponent
  Float.ofBits (UInt64.ofNat (if negative then signWeight + bits else bits))

end Binary64

end CardShuffle
