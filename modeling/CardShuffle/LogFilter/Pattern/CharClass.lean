import CardShuffle.LogFilter.Pattern.Atom

/-!
# Classes of a pattern

A class is a set of characters in square brackets: characters, ranges, named classes
and other classes, and operators between sets of them. What matters of a class is
whether it is well formed and how deeply its parts are nested. A class of bytes
must not have a byte beyond ASCII, so nothing can be negated there.
-/

namespace CardShuffle.Pattern

/-- The depth of parts side by side, given theirs: two or more are one deeper than the
deepest of them. -/
def sideBySide : List Nat -> Nat
  | [] => 0
  | [depth] => depth
  | depths => depths.foldl max 0 + 1

/-- The names of the classes that are written with colons. -/
def classNames : List String := [
  "alnum", "alpha", "ascii", "blank", "cntrl", "digit", "graph", "lower", "print", "punct",
  "space", "upper", "word", "xdigit"]

/-- Read a named class behind its bracket, and whether it is negated. -/
def readNamedClass : List Char -> Option (Bool × List Char)
  | ':' :: '^' :: rest => (readName rest).map (true, ·)
  | ':' :: rest => (readName rest).map (false, ·)
  | _ => none
where
  readName (chars : List Char) : Option (List Char) :=
    let (name, close) := chars.span (· ≠ ':')
    match close with
    | ':' :: ']' :: rest => if classNames.contains (String.ofList name) then some rest else none
    | _ => none

/-- What follows an item of a class: an atom, or a range between two characters. A
hyphen with a closing bracket or another hyphen behind it makes no range. -/
def readItem (mode : Mode) (chars : List Char) : Option (List Char) := do
  let (first, rest) ← Atom.ofChars mode chars
  guard (first.isMember mode)
  match mode.skip rest with
  | '-' :: behind =>
      if mode.glance? behind = some ']' || mode.glance? behind = some '-' then
        return '-' :: behind
      else
        let (last, rest) ← Atom.ofChars mode (mode.skip behind)
        guard (last.isMember mode)
        match first, last with
        | .literal low _, .literal high _ => if low ≤ high then return rest else none
        | _, _ => none
  | rest => return rest

/-- A class whose bracket is open. -/
structure OpenClass where
  /-- Nothing but hyphens was read of it. -/
  isFresh : Bool := true
  /-- The depth of what stands before the last operator. -/
  left : Option Nat := none
  /-- The depths of the items behind it. -/
  items : List Nat := []

namespace OpenClass

/-- The depth of what was read of a class. -/
def depth (state : OpenClass) : Nat :=
  match state.left with
  | none => sideBySide state.items
  | some left => max left (sideBySide state.items) + 1

/-- Go on behind an item. -/
def push (state : OpenClass) (depth : Nat) : OpenClass :=
  { state with isFresh := false, items := depth :: state.items }

/-- Go on behind an operator. -/
def operate (state : OpenClass) : OpenClass :=
  { isFresh := false, left := some state.depth }

end OpenClass

/-- What follows the bracket of a class and the sign of negation, if there is one. -/
def openClass (mode : Mode) (chars : List Char) : Option (List Char) :=
  match mode.skip chars with
  | '^' :: rest => if mode.unicode then some rest else none
  | rest => some rest

/-- Read a class up to its closing bracket: its depth and what follows. Hyphens in
front stand for themselves, and so does a closing bracket that is the first of all. -/
def readClass (mode : Mode) : (fuel : Nat) -> OpenClass -> List Char -> Option (Nat × List Char)
  | 0, _, _ => none
  | fuel + 1, state, chars =>
      match state.isFresh, mode.skip chars with
      | _, [] => none
      | true, '-' :: rest =>
          if mode.foldsUnicode then none
          else readClass mode fuel { state with items := 0 :: state.items } rest
      | fresh, ']' :: rest =>
          if fresh && state.items.isEmpty then
            if mode.foldsUnicode then none else readClass mode fuel (state.push 0) rest
          else
            some (state.depth, rest)
      | _, '[' :: rest =>
          match readNamedClass rest with
          | some (negated, rest) =>
              if mode.foldsUnicode || (negated && !mode.unicode) then none
              else readClass mode fuel (state.push 0) rest
          | none => do
              let inside ← openClass mode rest
              let (depth, rest) ← readClass mode fuel {} inside
              readClass mode fuel (state.push (depth + 1)) rest
      | _, '&' :: '&' :: rest => readClass mode fuel state.operate rest
      | _, '-' :: '-' :: rest => readClass mode fuel state.operate rest
      | _, '~' :: '~' :: rest => readClass mode fuel state.operate rest
      | _, chars => do
          let rest ← readItem mode chars
          readClass mode fuel (state.push 0) rest

end CardShuffle.Pattern
