/-!
# Blanks, comments and line ends of TOML

A line of TOML ends with a line feed, a carriage return and a line feed, or the
end of the text. A comment runs from a number sign to the end of the line and
holds no control character but the tab. A carriage return on its own ends
nothing.
-/

namespace CardShuffle.Toml

/-- A blank within a line. -/
def isBlank (char : Char) : Bool :=
  char == ' ' || char == '\t'

/-- What follows the blanks at the front of a text. -/
def skipBlanks (chars : List Char) : List Char :=
  chars.dropWhile isBlank

/-- A character that is no control character, or a tab. -/
def isPrintable (char : Char) : Bool :=
  char == '\t' || (0x20 ≤ char.toNat && char.toNat != 0x7f)

/-- What follows a line end. -/
def newline? : List Char -> Option (List Char)
  | '\n' :: rest => some rest
  | '\r' :: '\n' :: rest => some rest
  | _ => none

/-- What follows a comment, if a comment comes first. -/
def skipComment : List Char -> List Char
  | '#' :: rest => rest.dropWhile isPrintable
  | chars => chars

/-- What follows the rest of a line that holds nothing more than blanks and a
comment. -/
def lineEnd? (chars : List Char) : Option (List Char) :=
  match skipComment (skipBlanks chars) with
  | [] => some []
  | rest => newline? rest

/-- What follows blanks, line ends and comments that each end their line. The
fuel bounds the number of lines. -/
def skipLines : (fuel : Nat) -> List Char -> List Char
  | 0, chars => skipBlanks chars
  | fuel + 1, chars =>
      let start := skipBlanks chars
      match newline? (skipComment start) with
      | some rest => skipLines fuel rest
      | none => start

end CardShuffle.Toml
