import CardShuffle.Text.Blank

/-!
# Modes of a pattern

Flags in a pattern change how the text behind them is read. Three of them decide
which texts are patterns at all; the others only change what is matched. In the
spaced mode blanks are passed over, and so are comments, which go from a hash to the
end of the line.
-/

namespace CardShuffle.Pattern

/-- How the text of a pattern is read. -/
structure Mode where
  /-- Blanks and comments are passed over. -/
  spaced : Bool := false
  /-- The case of letters does not matter. -/
  caseless : Bool := false
  /-- Characters are those of Unicode, otherwise bytes of ASCII. -/
  unicode : Bool := true
  deriving Repr, DecidableEq

/-- What follows blanks and comments. The text can begin inside a comment. -/
def passBlanks (inComment : Bool) : List Char -> List Char
  | [] => []
  | char :: rest =>
      if inComment then passBlanks (char != '\n') rest
      else if Text.isBlank char then passBlanks false rest
      else if char = '#' then passBlanks true rest
      else char :: rest

/-- The letters of the flags. -/
def flagLetters : List Char := ['i', 'm', 's', 'U', 'u', 'R', 'x']

namespace Mode

/-- Turn a flag on or off. -/
def set (mode : Mode) (on : Bool) : Char -> Mode
  | 'x' => { mode with spaced := on }
  | 'i' => { mode with caseless := on }
  | 'u' => { mode with unicode := on }
  | _ => mode

/-- The text from where it is read on. -/
def skip (mode : Mode) (chars : List Char) : List Char :=
  if mode.spaced then passBlanks false chars else chars

/-- The character that is next in sight. A comment hides its hash only, not its words. -/
def glance? (mode : Mode) (chars : List Char) : Option Char :=
  if mode.spaced then
    match chars.dropWhile Text.isBlank with
    | '#' :: comment => (comment.dropWhile Text.isBlank).head?
    | shown => shown.head?
  else
    chars.head?

/-- Whether letters of all scripts would have to be told apart from their other
cases. No table of them is kept, so this cannot be done. -/
def foldsUnicode (mode : Mode) : Bool :=
  mode.caseless && mode.unicode

/-- Read flags up to the mark behind them, which is a colon or a closing parenthesis.
A minus turns off the flags behind it. `seen` holds what was read, the last first:
nothing may stand there twice, and a minus may not be the last. -/
def readFlags (mode : Mode) (seen : List Char) : List Char -> Option (Mode × Char × List Char)
  | [] => none
  | char :: rest =>
      if char = ':' || char = ')' then
        if seen.head? = some '-' || (char = ')' && seen.isEmpty) then none
        else some (mode, char, rest)
      else if seen.contains char then
        none
      else if char = '-' then
        mode.readFlags (char :: seen) rest
      else if flagLetters.contains char then
        (mode.set (!seen.contains '-') char).readFlags (char :: seen) rest
      else
        none

end Mode

end CardShuffle.Pattern
