import CardShuffle.Json.Blank
import CardShuffle.Json.Number

/-!
# JSON values

A reader for JSON text that keeps objects as lists of members in their order,
repeated names included. A string keeps its text only if its escapes name
characters; an unpaired half of a surrogate pair is well-formed JSON but has no
text.
-/

namespace CardShuffle.Json

/-- A JSON value. -/
inductive Value where
  | null
  | boolean (value : Bool)
  | number (number : Number)
  /-- A string, with its text unless it has none. -/
  | string (text : Option String)
  | array (items : List Value)
  | object (members : List (Option String × Value))
  deriving Inhabited

/-- The character a backslash and a letter stand for. -/
def escaped? : Char -> Option Char
  | '"' => some '"'
  | '\\' => some '\\'
  | '/' => some '/'
  | 'b' => some '\x08'
  | 'f' => some '\x0c'
  | 'n' => some '\n'
  | 'r' => some '\r'
  | 't' => some '\t'
  | _ => none

/-- The part of a string that was read: its characters, the last one first,
unless an escape has spoiled them, and the first half of a surrogate pair that
waits for the second. -/
structure StringState where
  found : Option (List Char) := some []
  high : Option Nat := none

namespace StringState

/-- Take in a character. A waiting half stays alone and spoils the text. -/
def push (state : StringState) (char : Char) : StringState :=
  match state.high with
  | some _ => { found := none }
  | none => { found := state.found.map (char :: ·) }

/-- Take in a code unit of UTF-16. -/
def pushUnit (state : StringState) (unit : Nat) : StringState :=
  let isHigh := 0xD800 ≤ unit ∧ unit < 0xDC00
  let isLow := 0xDC00 ≤ unit ∧ unit < 0xE000
  match state.high with
  | some high =>
      if isLow then
        let code := 0x10000 + (high - 0xD800) * 0x400 + (unit - 0xDC00)
        { found := state.found.map (Char.ofNat code :: ·) }
      else
        { found := none }
  | none =>
      if isHigh then { state with high := some unit }
      else if isLow then { found := none }
      else state.push (Char.ofNat unit)

/-- The text at the end of the string. -/
def text (state : StringState) : Option String :=
  match state.high with
  | some _ => none
  | none => state.found.map fun found => String.ofList found.reverse

end StringState

/-- Read a string after its opening quote. -/
def readString : StringState -> List Char -> Option (Option String × List Char)
  | _, [] => none
  | state, '"' :: rest => some (state.text, rest)
  | state, '\\' :: 'u' :: a :: b :: c :: d :: rest =>
      match Text.hexNumber? [a, b, c, d] with
      | some unit => readString (state.pushUnit unit) rest
      | none => none
  | _, '\\' :: [] => none
  | state, '\\' :: letter :: rest =>
      match escaped? letter with
      | some char => readString (state.push char) rest
      | none => none
  | state, char :: rest =>
      if char.toNat < 0x20 then none else readString (state.push char) rest

mutual

/-- Read a value after any blanks. -/
def readValue : (fuel : Nat) -> List Char -> Option (Value × List Char)
  | 0, _ => none
  | fuel + 1, chars =>
      match skipBlanks chars with
      | 'n' :: 'u' :: 'l' :: 'l' :: rest => some (.null, rest)
      | 't' :: 'r' :: 'u' :: 'e' :: rest => some (.boolean true, rest)
      | 'f' :: 'a' :: 'l' :: 's' :: 'e' :: rest => some (.boolean false, rest)
      | '"' :: rest => (readString {} rest).map fun (text, rest) => (.string text, rest)
      | '[' :: rest =>
          match skipBlanks rest with
          | ']' :: rest => some (.array [], rest)
          | rest => (readItems fuel rest).map fun (items, rest) => (.array items, rest)
      | '{' :: rest =>
          match skipBlanks rest with
          | '}' :: rest => some (.object [], rest)
          | rest => (readMembers fuel rest).map fun (members, rest) => (.object members, rest)
      | chars => (readNumber chars).map fun (number, rest) => (.number number, rest)

/-- Read the items of an array from one item on. -/
def readItems : (fuel : Nat) -> List Char -> Option (List Value × List Char)
  | 0, _ => none
  | fuel + 1, chars => do
      let (item, rest) ← readValue fuel chars
      match skipBlanks rest with
      | ',' :: rest =>
          let (items, rest) ← readItems fuel rest
          return (item :: items, rest)
      | ']' :: rest => return ([item], rest)
      | _ => none

/-- Read the members of an object from one member on. -/
def readMembers : (fuel : Nat) -> List Char -> Option (List (Option String × Value) × List Char)
  | 0, _ => none
  | fuel + 1, chars =>
      match skipBlanks chars with
      | '"' :: rest => do
          let (name, rest) ← readString {} rest
          match skipBlanks rest with
          | ':' :: rest =>
              let (value, rest) ← readValue fuel rest
              match skipBlanks rest with
              | ',' :: rest =>
                  let (members, rest) ← readMembers fuel rest
                  return ((name, value) :: members, rest)
              | '}' :: rest => return ([(name, value)], rest)
              | _ => none
          | _ => none
      | _ => none

end

/-- The value a text holds, with nothing but blanks around it. Each step of the
reader takes a character or begins one inside an array or object, so twice the
length bounds the steps. -/
def parse? (text : String) : Option Value :=
  let chars := text.toList
  match readValue (2 * chars.length + 2) chars with
  | some (value, rest) => if rest.all isBlank then some value else none
  | none => none

end CardShuffle.Json
