import CardShuffle.Text.Digit
import CardShuffle.Toml.Token

/-!
# Strings of TOML

Strings are basic, with escapes, or literal, without; each kind has a form on
one line and a form over several. In the forms over several lines a line end
right after the opening quotes is dropped and every other one stands for a line
feed. A backslash at the end of a line of a basic string drops the line end and
all blanks and line ends after it.
-/

namespace CardShuffle.Toml

/-- Read what follows a backslash and stands for a character. -/
def readEscape : List Char -> Option (Char × List Char)
  | 'b' :: rest => some ('\x08', rest)
  | 't' :: rest => some ('\t', rest)
  | 'n' :: rest => some ('\n', rest)
  | 'f' :: rest => some ('\x0c', rest)
  | 'r' :: rest => some ('\r', rest)
  | '"' :: rest => some ('"', rest)
  | '\\' :: rest => some ('\\', rest)
  | 'u' :: a :: b :: c :: d :: rest => (Text.hexChar? [a, b, c, d]).map (·, rest)
  | 'U' :: a :: b :: c :: d :: e :: f :: g :: h :: rest =>
      (Text.hexChar? [a, b, c, d, e, f, g, h]).map (·, rest)
  | _ => none

/-- Read a basic string on one line after its opening quote. `found` holds the
characters so far, the last one first. -/
def readBasic : (fuel : Nat) -> (found : List Char) -> List Char ->
    Option (List Char × List Char)
  | 0, _, _ => none
  | _ + 1, _, [] => none
  | _ + 1, found, '"' :: rest => some (found.reverse, rest)
  | fuel + 1, found, '\\' :: rest =>
      match readEscape rest with
      | some (char, rest) => readBasic fuel (char :: found) rest
      | none => none
  | fuel + 1, found, char :: rest =>
      if isPrintable char then readBasic fuel (char :: found) rest else none

/-- Read a literal string on one line after its opening quote. -/
def readLiteral (chars : List Char) : Option (List Char × List Char) :=
  let isBody (char : Char) : Bool := isPrintable char && char != '\''
  match chars.dropWhile isBody with
  | '\'' :: rest => some (chars.takeWhile isBody, rest)
  | _ => none

/-- What follows a line end that a backslash drops: the rest of the line has to
be blank, and blanks and line ends after it are dropped as well. -/
def skipContinuation? (chars : List Char) : Option (List Char) :=
  (newline? (skipBlanks chars)).map (skipFolded chars.length)
where
  /-- What follows blanks and line ends. -/
  skipFolded : (fuel : Nat) -> List Char -> List Char
    | 0, chars => chars
    | fuel + 1, chars =>
        match newline? (skipBlanks chars) with
        | some rest => skipFolded fuel rest
        | none => skipBlanks chars

/-- Read the body of a string over several lines. Three quotes close it; one or
two right before them belong to the body. -/
def readLong (quote : Char) (escapes : Bool) : (fuel : Nat) -> (found : List Char) ->
    List Char -> Option (List Char × List Char)
  | 0, _, _ => none
  | _ + 1, _, [] => none
  | fuel + 1, found, char :: rest =>
      if char = quote then
        match (rest.takeWhile (· == quote)).length with
        | 0 => readLong quote escapes fuel (quote :: found) rest
        | 1 => readLong quote escapes fuel (quote :: quote :: found) (rest.drop 1)
        | more =>
            let inside := min (more - 2) 2
            some ((List.replicate inside quote ++ found).reverse, rest.drop (inside + 2))
      else if char = '\\' ∧ escapes then
        match readEscape rest with
        | some (char, rest) => readLong quote escapes fuel (char :: found) rest
        | none =>
            match skipContinuation? rest with
            | some rest => readLong quote escapes fuel found rest
            | none => none
      else
        match newline? (char :: rest) with
        | some rest => readLong quote escapes fuel ('\n' :: found) rest
        | none =>
            if isPrintable char then readLong quote escapes fuel (char :: found) rest else none

/-- What follows a line end right after the opening quotes. -/
def dropFirstNewline (chars : List Char) : List Char :=
  (newline? chars).getD chars

/-- Read a string of any form, if one comes first. -/
def readText (chars : List Char) : Option (List Char × List Char) :=
  let fuel := chars.length
  match chars with
  | '"' :: '"' :: '"' :: rest => readLong '"' true fuel [] (dropFirstNewline rest)
  | '"' :: rest => readBasic fuel [] rest
  | '\'' :: '\'' :: '\'' :: rest => readLong '\'' false fuel [] (dropFirstNewline rest)
  | '\'' :: rest => readLiteral rest
  | _ => none

/-- A character of a bare key. -/
def isBareKey (char : Char) : Bool :=
  char.isAlphanum || char == '_' || char == '-'

/-- Read one part of a key: a string on one line, or bare. -/
def readKeyPart (chars : List Char) : Option (String × List Char) :=
  match chars with
  | '"' :: rest => (readBasic chars.length [] rest).map fun (key, rest) => (String.ofList key, rest)
  | '\'' :: rest => (readLiteral rest).map fun (key, rest) => (String.ofList key, rest)
  | _ =>
      match chars.takeWhile isBareKey with
      | [] => none
      | key => some (String.ofList key, chars.dropWhile isBareKey)

/-- Read a key: parts with points between them and blanks around them. -/
def readKey : (fuel : Nat) -> List Char -> Option (List String × List Char)
  | 0, _ => none
  | fuel + 1, chars => do
      let (part, rest) ← readKeyPart (skipBlanks chars)
      match skipBlanks rest with
      | '.' :: rest =>
          let (parts, rest) ← readKey fuel rest
          return (part :: parts, rest)
      | rest => return ([part], rest)

end CardShuffle.Toml
