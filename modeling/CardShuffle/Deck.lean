/-!
# Decks of distinct cards

A deck of `n` cards holds each of the ids `0, 1, …, n - 1` once, in some order.
Ids are stored in 16 bits, which sets the largest size. `Deck.ofIds` accepts
exactly the lists of ids that make a deck and otherwise names the first fault.
-/

namespace CardShuffle

/-- A card, known by its id. -/
structure Card where
  index : UInt16
  deriving Repr, DecidableEq, Inhabited

namespace Card

/-- The card with an id, of which 16 bits are kept. -/
def ofId (id : Nat) : Card := ⟨UInt16.ofNat id⟩

/-- The id of a card. -/
def id (card : Card) : Nat := card.index.toNat

/-- Cards are ordered by their ids. -/
instance : Ord Card where
  compare left right := compare left.id right.id

/-- The decimal digits of the id. -/
def text (card : Card) : String := toString card.id

/-- An id that fits in 16 bits is kept. -/
theorem id_ofId {id : Nat} (fits : id < 65536) : (ofId id).id = id := by
  simp [ofId, Card.id, UInt16.toNat_ofNat', Nat.mod_eq_of_lt fits]

end Card

/-- Why ids do not make a deck. -/
inductive DeckError where
  /-- An id is not below the number of ids. -/
  | cardOutOfRange (id size : Nat)
  /-- An id equals an earlier one. -/
  | duplicateCard (id : Nat)
  /-- There are more cards than ids. -/
  | tooLarge (size : Nat)
  deriving Repr, DecidableEq

/-- Cards in an order. -/
structure Deck where
  cards : Array Card
  deriving Repr, DecidableEq, Inhabited

namespace Deck

/-- The size of a deck of playing cards. -/
def standardSize : Nat := 52

/-- The size of the largest deck. -/
def maximumSize : Nat := 65536

/-- The deck of a size with its cards in ascending order. -/
def sorted (size : Nat) : Deck :=
  ⟨(Array.range size).map Card.ofId⟩

/-- The sorted deck of playing cards. -/
def standard : Deck := sorted standardSize

/-- The sorted deck of a size, unless it is too large. -/
def ofSize (size : Nat) : Except DeckError Deck :=
  if maximumSize < size then .error (.tooLarge size) else .ok (sorted size)

/-- Take up ids one by one. `seen` tells which ids came before. -/
def collect (size : Nat) : List Nat -> (seen : Array Bool) -> (cards : Array Card) ->
    Except DeckError Deck
  | [], _, cards => .ok ⟨cards⟩
  | id :: ids, seen, cards =>
      if size ≤ id then
        .error (.cardOutOfRange id size)
      else if seen.getD id false then
        .error (.duplicateCard id)
      else
        collect size ids (seen.setIfInBounds id true) (cards.push (Card.ofId id))

/-- The deck with its cards in the order of a list of ids. A list that is too
long is refused first; otherwise the first id at fault is reported. -/
def ofIds (ids : List Nat) : Except DeckError Deck :=
  let size := ids.length
  if maximumSize < size then
    .error (.tooLarge size)
  else
    collect size ids (Array.replicate size false) #[]

/-- The number of cards. -/
def size (deck : Deck) : Nat := deck.cards.size

/-- Whether there is no card. -/
def isEmpty (deck : Deck) : Bool := deck.cards.isEmpty

/-- The ids in order. -/
def ids (deck : Deck) : List Nat := deck.cards.toList.map Card.id

/-- Whether no number is above the one after it. -/
def ascending : List Nat -> Bool
  | first :: second :: rest => first ≤ second && ascending (second :: rest)
  | _ => true

/-- Whether the cards are in ascending order. -/
def isSorted (deck : Deck) : Bool := ascending deck.ids

/-- Whether two decks hold the same cards, each as often as the other. -/
def isPermutationOf (deck other : Deck) : Bool :=
  deck.size == other.size && deck.ids.mergeSort == other.ids.mergeSort

end Deck

namespace DeckError

/-- The sentence that reports the error. -/
def message : DeckError -> String
  | cardOutOfRange id size => s!"Card {id} is out of range for a deck of {size}"
  | duplicateCard id => s!"Card {id} appears more than once"
  | tooLarge size => s!"Deck size exceeds maximum: {size} > {Deck.maximumSize}"

end DeckError

end CardShuffle
