import CardShuffle.LogFilter.Pattern.CharClass
import CardShuffle.Text.Letter
import CardShuffle.Text.LetterOrDigit

/-!
# Patterns

A pattern is a regular expression that the values of fields are matched with. It is
made of branches with bars between them; a branch is a row of items, which are atoms,
classes, groups in parentheses and repetitions of these. Here it is settled which
texts are patterns. They may not be nested too deeply, and they may not look for the
edges of words of Unicode, because the automaton that matches goes by bytes.
-/

namespace CardShuffle

/-- Why a text is no pattern to match with. -/
inductive PatternFault where
  /-- It is not well formed, or it needs what is not known of characters. -/
  | malformed
  /-- It looks for edges of words of Unicode. -/
  | wordEdge
  deriving Repr, DecidableEq

/-- The words the fault is reported in. -/
def PatternFault.reason : PatternFault -> String
  | malformed => "error building NFA"
  | wordEdge =>
      "unsupported regex feature for DFAs: cannot build DFAs for regexes with Unicode word " ++
        "boundaries; switch to ASCII word boundaries, or heuristically enable Unicode word " ++
        "boundaries or use a different regex engine"

namespace Pattern

/-- How deeply the parts of a pattern can be nested. -/
def maxDepth : Nat := 250

/-- An item of a branch. -/
structure Item where
  depth : Nat := 0
  /-- It can be repeated; flags cannot. -/
  isRepeatable : Bool := true
  deriving Repr, DecidableEq

/-- A group whose parenthesis is open, or the pattern as a whole. -/
structure OpenGroup where
  /-- The depths of the branches before the open one. -/
  branches : List Nat := []
  /-- The items of the open branch, the last first. -/
  items : List Item := []
  /-- How its text is read on. -/
  mode : Mode := {}
  deriving Repr, DecidableEq

namespace OpenGroup

/-- The depth of the open branch. -/
def branchDepth (group : OpenGroup) : Nat :=
  sideBySide (group.items.map Item.depth)

/-- The depth of what was read of a group. -/
def depth (group : OpenGroup) : Nat :=
  sideBySide (group.branchDepth :: group.branches)

/-- Go on behind an item. -/
def push (group : OpenGroup) (item : Item) : OpenGroup :=
  { group with items := item :: group.items }

/-- Go on behind a bar. -/
def split (group : OpenGroup) : OpenGroup :=
  { group with branches := group.branchDepth :: group.branches, items := [] }

/-- Repeat the last item. -/
def repeatLast? (group : OpenGroup) : Option OpenGroup :=
  match group.items with
  | ⟨depth, true⟩ :: items => some { group with items := ⟨depth + 1, true⟩ :: items }
  | _ => none

end OpenGroup

/-- What was read of a pattern. -/
structure Reading where
  /-- The innermost open group. -/
  group : OpenGroup := {}
  /-- The groups around it, the nearest first. -/
  outer : List OpenGroup := []
  /-- The names of groups. -/
  names : List (List Char) := []
  /-- An edge of a word of Unicode is looked for. -/
  hasWordEdge : Bool := false
  deriving Repr, DecidableEq

/-- Whether characters are the name of a group. -/
def isGroupName : List Char -> Bool
  | [] => false
  | first :: more =>
      (first = '_' || Text.isLetter first) &&
        more.all fun char => ['_', '.', '[', ']'].contains char || Text.isLetterOrDigit char

namespace Reading

/-- Go on with the innermost group. -/
def withGroup (reading : Reading) (group : OpenGroup) : Reading :=
  { reading with group }

/-- Go on inside a group. -/
def enter (reading : Reading) (mode : Mode) : Reading :=
  { reading with group := { mode }, outer := reading.group :: reading.outer }

/-- Go on inside a group with a name. -/
def enterNamed (reading : Reading) (chars : List Char) : Option (Reading × List Char) :=
  let (name, close) := chars.span (· ≠ '>')
  match close with
  | [] => none
  | _ :: rest =>
      if isGroupName name && !reading.names.contains name then
        some ({ reading.enter reading.group.mode with names := name :: reading.names }, rest)
      else
        none

/-- Go on behind an opening parenthesis. Flags alone are an item and hold from there to
the end of the group around them; flags before a colon hold in the group they open. -/
def openGroup (reading : Reading) (chars : List Char) : Option (Reading × List Char) :=
  let mode := reading.group.mode
  match mode.skip chars with
  | '?' :: 'P' :: '<' :: rest => reading.enterNamed rest
  | '?' :: '<' :: rest => reading.enterNamed rest
  | '?' :: rest => do
      let (mode, mark, rest) ← mode.readFlags [] rest
      if mark = ':' then
        return (reading.enter mode, rest)
      else
        let item : Item := { isRepeatable := false }
        return (reading.withGroup { reading.group.push item with mode }, rest)
  | rest => some (reading.enter mode, rest)

/-- Go on behind a closing parenthesis. -/
def closeGroup (reading : Reading) : Option Reading :=
  match reading.outer with
  | [] => none
  | around :: outer =>
      let item : Item := { depth := reading.group.depth + 1 }
      some { reading with group := around.push item, outer }

/-- Go on behind an atom. -/
def pushAtom (reading : Reading) (atom : Atom) : Option Reading :=
  let mode := reading.group.mode
  if atom.isAllowed mode then
    some { reading.withGroup (reading.group.push {}) with
      hasWordEdge := reading.hasWordEdge || (mode.unicode && atom = .wordEdge) }
  else
    none

/-- Go on behind the first character of what follows. -/
def step (reading : Reading) (first : Char) (rest : List Char) :
    Option (Reading × List Char) :=
  let group := reading.group
  match first with
  | '(' => reading.openGroup rest
  | ')' => reading.closeGroup.map (·, rest)
  | '|' => some (reading.withGroup group.split, rest)
  | '[' => do
      let inside ← openClass group.mode rest
      let (depth, rest) ← readClass group.mode (inside.length + 1) {} inside
      return (reading.withGroup (group.push { depth := depth + 1 }), rest)
  | '?' | '*' | '+' => do
      let group ← group.repeatLast?
      return (reading.withGroup group, if rest.head? = some '?' then rest.tail else rest)
  | '\x7b' => none
  | '.' => if group.mode.unicode then some (reading.withGroup (group.push {}), rest) else none
  | '^' | '$' => some (reading.withGroup (group.push {}), rest)
  | _ => do
      let (atom, rest) ← Atom.ofChars group.mode (first :: rest)
      return (← reading.pushAtom atom, rest)

/-- Read to the end of the text. -/
def run : (fuel : Nat) -> Reading -> List Char -> Option Reading
  | 0, _, _ => none
  | fuel + 1, reading, chars =>
      match reading.group.mode.skip chars with
      | [] => some reading
      | first :: rest => do
          let (reading, rest) ← reading.step first rest
          run fuel reading rest

/-- Whether a pattern can end here: no group is open, and nothing is nested too deeply. -/
def isComplete (reading : Reading) : Bool :=
  reading.outer.isEmpty && reading.group.depth ≤ maxDepth

end Reading

/-- Why a text is no pattern to match with, if it is none. -/
def fault? (chars : List Char) : Option PatternFault :=
  match Reading.run (chars.length + 1) {} chars with
  | none => some .malformed
  | some reading =>
      if !reading.isComplete then some .malformed
      else if reading.hasWordEdge then some .wordEdge
      else none

end Pattern

end CardShuffle
