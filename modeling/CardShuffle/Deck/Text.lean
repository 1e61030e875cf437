import CardShuffle.Deck
import CardShuffle.Json.Blank
import CardShuffle.Text.Digit

/-!
# Deck texts

A deck is written as a bracketed list of ids, with a comma and a blank between
them for people and with a comma alone for JSON. Reading takes a JSON array of
ids in any layout of blanks, so it takes both forms. The reader goes through the
text once and keeps what it expects next as its state.
-/

namespace CardShuffle

namespace Deck

/-- The ids in brackets with a text between neighbours. -/
def write (separator : String) (deck : Deck) : String :=
  "[" ++ separator.intercalate (deck.cards.toList.map Card.text) ++ "]"

/-- The deck for people. -/
def display (deck : Deck) : String := deck.write ", "

/-- The deck in JSON. -/
def toJson (deck : Deck) : String := deck.write ","

end Deck

namespace CardList

open Json (isBlank)

/-- What a list of ids may go on with. -/
inductive Expect where
  /-- The bracket that opens the list. -/
  | opening
  /-- The first id or the closing bracket. -/
  | first
  /-- An id, after a comma. -/
  | id
  /-- More digits of an id, a comma or the closing bracket. -/
  | digits (value : Nat)
  /-- A comma or the closing bracket. -/
  | separator
  deriving Repr, DecidableEq

/-- The largest id of a card. -/
def maximumId : Nat := 65535

/-- One more digit of an id. Nothing follows a leading zero, and an id stays
within its range. -/
def extend? (value digit : Nat) : Option Nat :=
  if value ≠ 0 ∧ value * 10 + digit ≤ maximumId then some (value * 10 + digit) else none

/-- Read ids up to the closing bracket; `found` holds the ids so far, the last
one first. The result is the ids and the text after the bracket. -/
def read : Expect -> (found : List Nat) -> List Char -> Option (List Nat × List Char)
  | _, _, [] => none
  | .opening, found, char :: rest =>
      if isBlank char then read .opening found rest
      else if char = '[' then read .first found rest
      else none
  | .first, found, char :: rest =>
      if isBlank char then read .first found rest
      else if char = ']' then some (found.reverse, rest)
      else match Text.digitValue? char with
        | some digit => read (.digits digit) found rest
        | none => none
  | .id, found, char :: rest =>
      if isBlank char then read .id found rest
      else match Text.digitValue? char with
        | some digit => read (.digits digit) found rest
        | none => none
  | .digits value, found, char :: rest =>
      if isBlank char then read .separator (value :: found) rest
      else if char = ',' then read .id (value :: found) rest
      else if char = ']' then some ((value :: found).reverse, rest)
      else match Text.digitValue? char with
        | some digit =>
            match extend? value digit with
            | some value => read (.digits value) found rest
            | none => none
        | none => none
  | .separator, found, char :: rest =>
      if isBlank char then read .separator found rest
      else if char = ',' then read .id found rest
      else if char = ']' then some (found.reverse, rest)
      else none

/-- Read one id with nothing but blanks around it. -/
def readOne : Expect -> List Char -> Option Nat
  | .digits value, [] => some value
  | .digits value, char :: rest =>
      if isBlank char then
        if rest.all isBlank then some value else none
      else match Text.digitValue? char with
        | some digit =>
            match extend? value digit with
            | some value => readOne (.digits value) rest
            | none => none
        | none => none
  | _, [] => none
  | expect, char :: rest =>
      if isBlank char then readOne expect rest
      else match Text.digitValue? char with
        | some digit => readOne (.digits digit) rest
        | none => none

end CardList

/-- Why a text is no deck. -/
inductive DeckTextError where
  /-- The text is not a JSON array of ids. -/
  | malformed
  /-- The text begins with an array of ids that make no deck. -/
  | notDeck (error : DeckError)
  deriving Repr, DecidableEq

/-- The deck a JSON text holds. The ids are checked before what follows the
array, so a list that makes no deck is reported as that. -/
def Deck.ofJson (text : String) : Except DeckTextError Deck :=
  match CardList.read .opening [] text.toList with
  | none => .error .malformed
  | some (ids, rest) =>
      match Deck.ofIds ids with
      | .error error => .error (.notDeck error)
      | .ok deck => if rest.all Json.isBlank then .ok deck else .error .malformed

/-- The card a JSON text holds. -/
def Card.ofJson? (text : String) : Option Card :=
  (CardList.readOne .id text.toList).map Card.ofId

end CardShuffle
