import CardShuffle.Drawing
import CardShuffle.Text.Case

/-!
# Fisher-Yates shuffles

Both forms draw a position from a range that shrinks or grows by one at each
step. `Shuffle.inPlace` goes from the last position down to the second and
swaps it with a drawn position at or before it. `Shuffle.insideOut` goes
through the items from front to back, appends each one and swaps it into a
drawn position at or before its own.

A sequence of `n` items takes `n - 1` draws, none when it is empty. An answer
outside its range ends the shuffle at once. The items are then still an
ordering of the items at the start, because every step either swaps two
positions or changes nothing.
-/

namespace CardShuffle

universe u

/-- The two forms of the shuffle. -/
inductive Variant where
  /-- Swaps in place, from the last position down. -/
  | durstenfeld
  /-- Builds the result from front to back. -/
  | insideOut
  deriving Repr, DecidableEq, Inhabited

namespace Variant

/-- The name of a form in settings, on the command line and in reports. -/
def name : Variant -> String
  | durstenfeld => "durstenfeld"
  | insideOut => "inside-out"

/-- The form with a name, written exactly so. -/
def ofName? (text : String) : Option Variant :=
  if text = durstenfeld.name then some durstenfeld
  else if text = insideOut.name then some insideOut
  else none

/-- The form a text names. The letter case of ASCII letters does not matter, and
the inside-out form may be spelled with a hyphen, an underscore or neither. -/
def ofText? (text : String) : Option Variant :=
  match Text.foldCase text with
  | "durstenfeld" => some durstenfeld
  | "inside-out" | "inside_out" | "insideout" => some insideOut
  | _ => none

end Variant

/-- An answer that is not below the bound it was asked for. -/
structure OutOfRange where
  drawn : Nat
  bound : Nat
  deriving Repr, DecidableEq

/-- What a shuffle leaves behind: the items in their last order, and either the
number of draws it took or the answer that ended it. -/
structure Shuffled (α : Type u) where
  items : Array α
  outcome : Except OutOfRange Nat

namespace Shuffle

variable {α : Type u}

/-- The in-place form with positions `position, position - 1, …, 1` still to be
settled, after `draws` accepted draws. -/
def settle : (position : Nat) -> (draws : Nat) -> Array α -> Drawing (Shuffled α)
  | 0, draws, items => .done ⟨items, .ok draws⟩
  | position + 1, draws, items =>
      .ask (position + 2) fun drawn =>
        if drawn < position + 2 then
          settle position (draws + 1) (items.swapIfInBounds (position + 1) drawn)
        else
          .done ⟨items, .error ⟨drawn, position + 2⟩⟩

/-- Shuffle in place. An answer outside its range leaves the items as the swaps
before it made them. -/
def inPlace (items : Array α) : Drawing (Shuffled α) :=
  settle (items.size - 1) 0 items

/-- The inside-out form with `placed` built so far and a list of items waiting,
after `draws` accepted draws. The first item is placed without a draw. -/
def place : (waiting : List α) -> (draws : Nat) -> (placed : Array α) ->
    Drawing (Except OutOfRange (Array α × Nat))
  | [], draws, placed => .done (.ok (placed, draws))
  | item :: waiting, draws, placed =>
      if placed.size = 0 then
        place waiting draws (placed.push item)
      else
        .ask (placed.size + 1) fun drawn =>
          if drawn < placed.size + 1 then
            place waiting (draws + 1)
              ((placed.push item).swapIfInBounds placed.size drawn)
          else
            .done (.error ⟨drawn, placed.size + 1⟩)

/-- Shuffle into a new sequence, with the number of draws taken. An answer
outside its range leaves no sequence. -/
def insideOut (items : List α) : Drawing (Except OutOfRange (Array α × Nat)) :=
  place items 0 #[]

/-- Keep the shuffled sequence, or the items as they were when there is none. -/
def writeBack (items : Array α) : Except OutOfRange (Array α × Nat) -> Shuffled α
  | .ok (placed, draws) => ⟨placed, .ok draws⟩
  | .error violation => ⟨items, .error violation⟩

/-- Shuffle with the requested form. The inside-out form builds its result
beside the items and replaces them only when it is complete. -/
def shuffle (variant : Variant) (items : Array α) : Drawing (Shuffled α) :=
  match variant with
  | .durstenfeld => inPlace items
  | .insideOut => (insideOut items.toList).map (writeBack items)

end Shuffle

end CardShuffle
