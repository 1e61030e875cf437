/-!
# Blanks in JSON

Four characters may stand between the tokens of JSON text.
-/

namespace CardShuffle.Json

/-- The blanks between tokens. -/
def isBlank (char : Char) : Bool :=
  char == ' ' || char == '\t' || char == '\n' || char == '\r'

/-- What follows the blanks at the front of a text. -/
def skipBlanks (chars : List Char) : List Char :=
  chars.dropWhile isBlank

/-- No digit is a blank. -/
theorem skipBlanks_of_isDigit {first : Char} (digit : first.isDigit = true)
    (others : List Char) : skipBlanks (first :: others) = first :: others := by
  refine List.dropWhile_cons_of_neg fun blank => ?_
  simp only [isBlank, Bool.or_eq_true, beq_iff_eq] at blank
  rcases blank with ((rfl | rfl) | rfl) | rfl <;> exact absurd digit (by decide)

end CardShuffle.Json
