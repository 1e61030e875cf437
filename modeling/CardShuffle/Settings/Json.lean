import CardShuffle.Json.Value
import CardShuffle.Settings

/-!
# Settings in JSON

Settings are written as an object with every field, in the order in which the
fields are declared. Reading fills fields that are missing with their defaults
and passes over fields it does not know. An array of the fields in that order is
read as well; a short one leaves the last fields at their defaults. Nothing is
validated here.

The tolerance is the only number that is not a word. It is written and read in a
`Json.FloatFormat`, and in the exact one when no other is named.
-/

namespace CardShuffle

namespace AnalysisSettings

/-- The names of the fields in order. -/
def fieldNames : List String := ["items", "trials", "chunks", "tolerance", "seed"]

end AnalysisSettings

namespace Settings

/-- The names of the fields in order. -/
def fieldNames : List String := ["deck_size", "variant", "seed", "analysis"]

/-- A text in quotes. Only texts without quotes, backslashes and control
characters are written here. -/
def quoted (text : String) : List Char :=
  '"' :: (text.toList ++ ['"'])

/-- A member of an object. -/
def member (name : String) (value : List Char) : List Char :=
  quoted name ++ ':' :: value

/-- A tolerance, or `null` when it is no finite number. -/
def toleranceText (format : Json.FloatFormat) (tolerance : Float) : List Char :=
  match Binary64.ofFloat tolerance with
  | .finite negative mantissa exponent => (format.write negative mantissa exponent).toList
  | .notANumber | .infinite _ => "null".toList

/-- The analysis settings as an object. -/
def analysisText (format : Json.FloatFormat) (settings : AnalysisSettings) : List Char :=
  '{' :: (member "items" (Decimal.digitsOf settings.items) ++
    ',' :: (member "trials" (Decimal.digitsOf settings.trials) ++
    ',' :: (member "chunks" (Decimal.digitsOf settings.chunks) ++
    ',' :: (member "tolerance" (toleranceText format settings.tolerance) ++
    ',' :: (member "seed" (Decimal.digitsOf settings.seed) ++ ['}'])))))

/-- A seed, or `null` when there is none. -/
def seedText : Option Nat -> List Char
  | some seed => Decimal.digitsOf seed
  | none => "null".toList

/-- The settings as an object. -/
def text (format : Json.FloatFormat) (settings : Settings) : List Char :=
  '{' :: (member "deck_size" (Decimal.digitsOf settings.deckSize) ++
    ',' :: (member "variant" (quoted settings.variant.name) ++
    ',' :: (member "seed" (seedText settings.seed) ++
    ',' :: (member "analysis" (analysisText format settings.analysis) ++ ['}']))))

/-- The settings in JSON. -/
def toJson (settings : Settings) (format : Json.FloatFormat := .exact) : String :=
  String.ofList (settings.text format)

/-- The values of a field among the members of an object: none, one, or no
answer when the field is repeated. -/
def fieldOf? (members : List (Option String × Json.Value)) (name : String) :
    Option (Option Json.Value) :=
  match members.filter fun member => member.1 == some name with
  | [] => some none
  | [(_, value)] => some (some value)
  | _ => none

/-- The values of named fields, each present or missing. Every name in an object
has to have a text, and an array has no more items than there are fields. -/
def fieldsOf? (names : List String) : Json.Value -> Option (List (Option Json.Value))
  | .object members =>
      if members.all fun member => member.1.isSome then names.mapM (fieldOf? members) else none
  | .array items =>
      if items.length ≤ names.length then
        some (items.map some ++ List.replicate (names.length - items.length) none)
      else
        none
  | _ => none

/-- Read a field that is present, or take its default. -/
def orDefault {α : Type} (default : α) (read : Json.Value -> Option α) :
    Option Json.Value -> Option α
  | some value => read value
  | none => some default

/-- A word. -/
def readWord? : Json.Value -> Option Nat
  | .number number => number.word?
  | _ => none

/-- A floating-point number. -/
def readFloat? (format : Json.FloatFormat) : Json.Value -> Option Float
  | .number number => format.read? number
  | _ => none

/-- A seed, or `null` for none. -/
def readSeed? : Json.Value -> Option (Option Nat)
  | .null => some none
  | value => (readWord? value).map some

/-- A form of the shuffle: its name, or an object with the name and `null`. -/
def readVariant? : Json.Value -> Option Variant
  | .string (some name) => Variant.ofName? name
  | .object [(some name, .null)] => Variant.ofName? name
  | _ => none

/-- Analysis settings. -/
def readAnalysis? (format : Json.FloatFormat) (value : Json.Value) : Option AnalysisSettings := do
  match ← fieldsOf? AnalysisSettings.fieldNames value with
  | [items, trials, chunks, tolerance, seed] =>
      let base : AnalysisSettings := {}
      return {
        items := ← orDefault base.items readWord? items
        trials := ← orDefault base.trials readWord? trials
        chunks := ← orDefault base.chunks readWord? chunks
        tolerance := ← orDefault base.tolerance (readFloat? format) tolerance
        seed := ← orDefault base.seed readWord? seed }
  | _ => none

/-- Settings as a value. -/
def ofValue? (format : Json.FloatFormat) (value : Json.Value) : Option Settings := do
  match ← fieldsOf? Settings.fieldNames value with
  | [deckSize, variant, seed, analysis] =>
      let base : Settings := {}
      return {
        deckSize := ← orDefault base.deckSize readWord? deckSize
        variant := ← orDefault base.variant readVariant? variant
        seed := ← orDefault base.seed readSeed? seed
        analysis := ← orDefault base.analysis (readAnalysis? format) analysis }
  | _ => none

/-- The settings a JSON text holds. -/
def ofJson? (text : String) (format : Json.FloatFormat := .exact) : Option Settings := do
  ofValue? format (← Json.parse? text)

end Settings

end CardShuffle
