import CardShuffle.LogFilter.Pattern.Mode
import CardShuffle.Text.Digit

/-!
# Atoms of a pattern

An atom is a single character or an escape. Neither the cases of the letters of all
scripts nor the members of the classes that have one letter as their name are known
beyond ASCII, so what would need them is refused.
-/

namespace CardShuffle.Pattern

/-- What a character or an escape stands for. -/
inductive Atom where
  /-- A character, which is written as a byte of two hexadecimal digits or otherwise. -/
  | literal (char : Char) (isByte : Bool)
  /-- A class that has one letter as its name, or all that is not in it. -/
  | named (complement : Bool)
  /-- The start or the end of the text. -/
  | textEdge
  /-- An edge of a word, or a place that is none. -/
  | wordEdge
  deriving Repr, DecidableEq

/-- Read the code of a character in so many hexadecimal digits. `found` holds the
digits so far, the last first. -/
def readCode (mode : Mode) : (count : Nat) -> (found : List Char) -> List Char ->
    Option (Char × List Char)
  | 0, found, chars => (Text.hexChar? found.reverse).map (·, chars)
  | count + 1, found, chars =>
      match mode.skip chars with
      | [] => none
      | digit :: rest => readCode mode count (digit :: found) rest

/-- Whether an escaped character stands for itself: the marks of ASCII do. -/
def isMark (char : Char) : Bool :=
  char.toNat < 0x80 && !char.isAlphanum

namespace Atom

/-- Read what stands behind a backslash. -/
def ofEscape (mode : Mode) : List Char -> Option (Atom × List Char)
  | [] => none
  | 'x' :: rest => (readCode mode 2 [] rest).map fun (char, rest) => (literal char true, rest)
  | 'u' :: rest => (readCode mode 4 [] rest).map fun (char, rest) => (literal char false, rest)
  | 'U' :: rest => (readCode mode 8 [] rest).map fun (char, rest) => (literal char false, rest)
  | 'a' :: rest => some (literal '\x07' false, rest)
  | 'f' :: rest => some (literal '\x0c' false, rest)
  | 't' :: rest => some (literal '\t' false, rest)
  | 'n' :: rest => some (literal '\n' false, rest)
  | 'r' :: rest => some (literal '\r' false, rest)
  | 'v' :: rest => some (literal '\x0b' false, rest)
  | char :: rest =>
      if ['d', 's', 'w'].contains char then some (named false, rest)
      else if ['D', 'S', 'W'].contains char then some (named true, rest)
      else if ['A', 'z'].contains char then some (textEdge, rest)
      else if ['b', 'B', '<', '>'].contains char then some (wordEdge, rest)
      else if isMark char then some (literal char false, rest)
      else none

/-- Read an atom; a character that is no escape stands for itself. -/
def ofChars (mode : Mode) : List Char -> Option (Atom × List Char)
  | [] => none
  | '\\' :: rest => ofEscape mode rest
  | char :: rest => some (literal char false, rest)

/-- Whether an atom can stand outside classes. -/
def isAllowed (mode : Mode) : Atom -> Bool
  | literal char isByte =>
      if mode.unicode then !mode.caseless else !isByte || char.toNat < 0x80
  | named complement => !mode.unicode && !complement
  | textEdge => true
  | wordEdge => true

/-- Whether an atom can stand in a class. -/
def isMember (mode : Mode) : Atom -> Bool
  | literal char _ => if mode.unicode then !mode.caseless else char.toNat < 0x80
  | named complement => !mode.unicode && !complement
  | textEdge => false
  | wordEdge => false

end Atom

end CardShuffle.Pattern
