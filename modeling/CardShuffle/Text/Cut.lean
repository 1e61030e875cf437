/-!
# Cutting texts at byte positions

A position in a text is counted in bytes of UTF-8. A text can be cut in two at a
position between characters, and at no other.
-/

namespace CardShuffle.Text

/-- The number of bytes in a text. -/
def byteCount : List Char -> Nat
  | [] => 0
  | char :: chars => char.utf8Size + byteCount chars

/-- The two parts of a text on both sides of a position. -/
def cutAt? : Nat -> List Char -> Option (List Char × List Char)
  | 0, chars => some ([], chars)
  | _ + 1, [] => none
  | position + 1, char :: chars =>
      if char.utf8Size ≤ position + 1 then
        (cutAt? (position + 1 - char.utf8Size) chars).map fun (front, back) =>
          (char :: front, back)
      else
        none

/-- What stands behind a position. -/
def after? (position : Nat) (chars : List Char) : Option (List Char) :=
  (cutAt? position chars).map Prod.snd

/-- What stands between two positions. -/
def between? (start stop : Nat) (chars : List Char) : Option (List Char) := do
  let back ← after? start chars
  let (middle, _) ← cutAt? (stop - start) back
  return middle

end CardShuffle.Text
