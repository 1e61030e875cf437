import CardShuffle.Toml.Number
import CardShuffle.Toml.Text

/-!
# TOML documents

A document is a list of statements, one a line: headers of tables and
assignments of values to keys. Values are strings, numbers, truth values, dates,
arrays and tables in braces. The reader keeps the order of the statements; what
they define together is for the user of the document to say.
-/

namespace CardShuffle.Toml

/-- A value of a key. -/
inductive Value where
  | string (text : String)
  | integer (value : Int)
  | float (value : Float)
  | boolean (value : Bool)
  /-- A date, a time of day or both. -/
  | moment
  | array (items : List Value)
  /-- A table in braces. -/
  | table (members : List (List String × Value))
  deriving Inhabited

/-- A line of a document. -/
inductive Statement where
  /-- The header of a table. -/
  | header (path : List String)
  /-- The header of one more table of an array. -/
  | arrayHeader (path : List String)
  | assign (path : List String) (value : Value)
  deriving Inhabited

/-- How deep arrays and tables in braces may stand within each other, and how
many parts a key may have. -/
def maximumDepth : Nat := 79

/-- Whether no key of a table is defined twice. A key also defines the tables
before its points, which nothing else may define as a value. -/
def distinctKeys : List (List String) -> Bool
  | [] => true
  | path :: paths =>
      paths.all (fun other => !path.isPrefixOf other && !other.isPrefixOf path) &&
        distinctKeys paths

/-- Read a key that is not too long. -/
def readPath (chars : List Char) : Option (List String × List Char) := do
  let (path, rest) ← readKey chars.length chars
  if path.length ≤ maximumDepth then some (path, rest) else none

/-- Read the part of an assignment before the value. -/
def readAssigned (chars : List Char) : Option (List String × List Char) := do
  let (path, rest) ← readPath chars
  match rest with
  | '=' :: rest => return (path, skipBlanks rest)
  | _ => none

/-- Read a value that is no array and no table. -/
def readScalar (chars : List Char) : Option (Value × List Char) :=
  match chars with
  | 't' :: 'r' :: 'u' :: 'e' :: rest => some (.boolean true, rest)
  | 'f' :: 'a' :: 'l' :: 's' :: 'e' :: rest => some (.boolean false, rest)
  | '"' :: _ | '\'' :: _ =>
      (readText chars).map fun (text, rest) => (.string (String.ofList text), rest)
  | _ =>
      match skipMoment? chars with
      | some rest => some (.moment, rest)
      | none =>
          (readNumber chars).map fun
            | (.integer value, rest) => (.integer value, rest)
            | (.float value, rest) => (.float value, rest)

mutual

/-- Read a value. `depth` is how much deeper arrays and tables may go. -/
def readValue : (fuel depth : Nat) -> List Char -> Option (Value × List Char)
  | 0, _, _ => none
  | fuel + 1, depth, chars =>
      match chars, depth with
      | '[' :: _, 0 => none
      | '{' :: _, 0 => none
      | '[' :: rest, depth + 1 =>
          match skipLines rest.length rest with
          | ']' :: rest => some (.array [], rest)
          | rest => (readItems fuel depth rest).map fun (items, rest) => (.array items, rest)
      | '{' :: rest, depth + 1 =>
          match skipBlanks rest with
          | '}' :: rest => some (.table [], rest)
          | rest =>
              match readMembers fuel depth rest with
              | some (members, rest) =>
                  if distinctKeys (members.map Prod.fst) then some (.table members, rest) else none
              | none => none
      | chars, _ => readScalar chars

/-- Read the items of an array from one item on. A comma may follow the last. -/
def readItems : (fuel depth : Nat) -> List Char -> Option (List Value × List Char)
  | 0, _, _ => none
  | fuel + 1, depth, chars => do
      let (item, rest) ← readValue fuel depth chars
      match skipLines rest.length rest with
      | ']' :: rest => return ([item], rest)
      | ',' :: rest =>
          match skipLines rest.length rest with
          | ']' :: rest => return ([item], rest)
          | rest =>
              let (items, rest) ← readItems fuel depth rest
              return (item :: items, rest)
      | _ => none

/-- Read the members of a table in braces from one member on. -/
def readMembers : (fuel depth : Nat) -> List Char ->
    Option (List (List String × Value) × List Char)
  | 0, _, _ => none
  | fuel + 1, depth, chars => do
      let (path, rest) ← readAssigned chars
      let (value, rest) ← readValue fuel depth rest
      match skipBlanks rest with
      | '}' :: rest => return ([(path, value)], rest)
      | ',' :: rest =>
          let (members, rest) ← readMembers fuel depth rest
          return ((path, value) :: members, rest)
      | _ => none

end

/-- Read an assignment. Each step of the reader of values takes a character or
begins one inside an array or table, so twice the length bounds the steps. -/
def readAssign (chars : List Char) : Option (Statement × List Char) := do
  let (path, rest) ← readAssigned chars
  let (value, rest) ← readValue (2 * rest.length + 2) maximumDepth rest
  return (.assign path value, rest)

/-- Read the header of a table, which begins with a bracket. -/
def readHeader (chars : List Char) : Option (Statement × List Char) :=
  match chars with
  | '[' :: '[' :: rest => do
      let (path, rest) ← readPath rest
      match rest with
      | ']' :: ']' :: rest => return (.arrayHeader path, rest)
      | _ => none
  | '[' :: rest => do
      let (path, rest) ← readPath rest
      match rest with
      | ']' :: rest => return (.header path, rest)
      | _ => none
  | _ => none

/-- Read the lines of a document. Lines without a statement are passed over. -/
def readLines : (fuel : Nat) -> List Char -> Option (List Statement)
  | 0, _ => none
  | fuel + 1, chars =>
      match skipBlanks chars with
      | [] => some []
      | '[' :: rest => do
          let (statement, rest) ← readHeader ('[' :: rest)
          let rest ← lineEnd? rest
          let statements ← readLines fuel rest
          return statement :: statements
      | first :: rest =>
          if first = '#' ∨ first = '\n' ∨ first = '\r' then
            match lineEnd? (first :: rest) with
            | some rest => readLines fuel rest
            | none => none
          else do
            let (statement, rest) ← readAssign (first :: rest)
            let rest ← lineEnd? rest
            let statements ← readLines fuel rest
            return statement :: statements

/-- The statements of a text. A mark of the byte order at its start is passed
over. -/
def parse? (text : String) : Option (List Statement) :=
  let chars := match text.toList with
    | '\uFEFF' :: rest => rest
    | chars => chars
  readLines (chars.length + 1) chars

end CardShuffle.Toml
