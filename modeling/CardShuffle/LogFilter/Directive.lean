import CardShuffle.Decimal.Reading
import CardShuffle.LogFilter.Level
import CardShuffle.LogFilter.Pattern
import CardShuffle.Text.Blank
import CardShuffle.Text.Cut
import CardShuffle.Text.LetterOrDigit
import CardShuffle.Word

/-!
# Directives of a log filter

A directive sets a level for all messages or for some: those of a target, those
within a span, those within spans with a certain field. It is a level alone, or a
target, a span in square brackets, an equals sign and a level, of which most can be
left out. Where no level is given everything is let through.

Blanks around a directive are passed over while its marks are looked for, and the
places of the marks are counted without them. The pieces between the marks are then
cut out of the directive with its blanks, so blanks in front shift every piece. A
cut that falls inside a character is a fault.
-/

namespace CardShuffle

/-- Why a text is no log filter. -/
inductive FilterFault where
  /-- A directive does not have the shape of one. -/
  | directive
  /-- What stands after an equals sign is no level. -/
  | level
  /-- What the values of a field have to match is no pattern. -/
  | pattern (fault : PatternFault)
  deriving Repr, DecidableEq

namespace FilterFault

/-- The words the fault is reported in. -/
def reason : FilterFault -> String
  | directive => "invalid filter directive"
  | level =>
      "error parsing level filter: expected one of " ++
        "\"off\", \"error\", \"warn\", \"info\", \"debug\", \"trace\", or a number 0-5"
  | pattern fault => "invalid field filter: " ++ fault.reason

/-- The sentence that reports the fault. -/
def message (fault : FilterFault) : String :=
  "Invalid log filter: " ++ fault.reason

end FilterFault

/-- What the values of a field have to match. -/
inductive ValueFilter where
  /-- They are equal to a number. -/
  | number (text : String)
  /-- They match a pattern. -/
  | pattern (text : String)
  deriving Repr, DecidableEq

/-- Read what values have to match: a text that reads as a number is one, and any other
text has to be a pattern. The words for true and false are patterns like others. -/
def ValueFilter.ofChars (chars : List Char) : Except FilterFault ValueFilter :=
  let text := String.ofList chars
  if (Decimal.readFloat? text).isSome then
    .ok (.number text)
  else
    match Pattern.fault? chars with
    | none => .ok (.pattern text)
    | some fault => .error (.pattern fault)

/-- A field that a span has to have, with any value or with values of one kind. -/
structure FieldFilter where
  name : String
  value : Option ValueFilter
  deriving Repr, DecidableEq

namespace FieldFilter

/-- Read a field. What follows a second equals sign is dropped. -/
def ofChars (chars : List Char) : Except FilterFault FieldFilter :=
  match chars.span (· ≠ '=') with
  | (name, []) => .ok ⟨String.ofList name, none⟩
  | (name, _ :: value) => do
      let filter ← ValueFilter.ofChars (value.takeWhile (· ≠ '='))
      return ⟨String.ofList name, some filter⟩

end FieldFilter

/-- One rule of a log filter. -/
structure Directive where
  /-- The target of the messages; without one it is any. -/
  target : Option String := none
  /-- The span the messages are in; without one it is any or none. -/
  span : Option String := none
  /-- The field the span has to have. -/
  field : Option FieldFilter := none
  level : LogLevel := .trace
  deriving Repr, DecidableEq

namespace Directive

/-- Whether a level or a target can begin with a character. -/
def isInitial (char : Char) : Bool :=
  Text.isLetterOrDigit char || char = '_' || char = '-' || char = ':'

/-- A piece between two places. -/
def piece (text : List Char) (start stop : Nat) : Except (Stop FilterFault) (List Char) :=
  Stop.require (Text.between? start stop text)

/-- The level from a place on. -/
def levelFrom (text : List Char) (start : Nat) : Except (Stop FilterFault) LogLevel := do
  let chars ← Stop.require (Text.after? start text)
  if chars.isEmpty then
    return .trace
  else
    match LogLevel.ofText? (String.ofList chars) with
    | some level => return level
    | none => Stop.report .level

/-- The level of what follows a span: `chars`, from the place `start` on. -/
def levelAfter (text : List Char) (start : Nat) (chars : List Char) :
    Except (Stop FilterFault) LogLevel :=
  match chars with
  | [] => .ok .trace
  | '=' :: _ => levelFrom text (start + 1)
  | _ => Stop.report .directive

/-- Go on behind the brace that opens the field of a span. There has to be something
between the braces. -/
def readField (directive : Directive) (text : List Char) (start : Nat) (chars : List Char) :
    Except (Stop FilterFault) Directive :=
  let (inside, close) := chars.span (· ≠ '\x7d')
  let stop := start + Text.byteCount inside
  match close with
  | [] => Stop.report .directive
  | _ :: outside => do
      let inside ← piece text start stop
      if inside.isEmpty then
        Stop.report .directive
      else
        let field ← Stop.lift (FieldFilter.ofChars inside)
        match outside with
        | ']' :: rest =>
            let level ← levelAfter text (stop + 2) rest
            return { directive with field := some field, level }
        | _ => Stop.report .directive

/-- Go on behind the bracket that opens a span. -/
def readSpan (directive : Directive) (text : List Char) (start : Nat) (chars : List Char) :
    Except (Stop FilterFault) Directive :=
  let (inside, close) := chars.span fun char => char ≠ ']' && char ≠ '\x7b'
  let stop := start + Text.byteCount inside
  match close with
  | [] => Stop.report .directive
  | ']' :: outside => do
      let name ← piece text start stop
      let level ← levelAfter text (stop + 1) outside
      return { directive with span := some (String.ofList name), level }
  | _ :: field => do
      let name ← piece text start stop
      let span := if name.isEmpty then none else some (String.ofList name)
      readField { directive with span } text (stop + 1) field

/-- A directive without marks: a level, or else a target. -/
def ofWord (word : String) : Directive :=
  match LogLevel.ofText? word with
  | some level => { level }
  | none => { target := some word }

/-- Read a directive. -/
def ofChars (text : List Char) : Except (Stop FilterFault) Directive :=
  match Text.trimBlanks text with
  | [] => Stop.report .directive
  | '[' :: inside => readSpan {} text 1 inside
  | first :: more =>
      if isInitial first then
        let (word, close) := (first :: more).span fun char => char ≠ '=' && char ≠ '['
        let stop := Text.byteCount word
        match close with
        | [] => .ok (ofWord (String.ofList text))
        | '=' :: _ => do
            let target ← piece text 0 stop
            let level ← levelFrom text (stop + 1)
            return { target := some (String.ofList target), level }
        | _ :: inside => do
            let target ← piece text 0 stop
            readSpan { target := some (String.ofList target) } text (stop + 1) inside
      else
        Stop.report .directive

/-- Whether a directive looks at the value of a field. -/
def readsValue (directive : Directive) : Bool :=
  directive.field.any fun field => field.value.isSome

end Directive

end CardShuffle
