import CardShuffle.Settings.Overlay
import CardShuffle.Toml.Document

/-!
# Settings files

A settings file is a TOML document with two sections, `shuffle` and `analysis`.
A section is a table under its header, keys with its name before a point, a
table in braces, or an array with every field in order. The file may leave out
sections and fields, but holds no others.
-/

namespace CardShuffle

namespace SettingsFile

/-- The sections of a settings file. -/
inductive Section where
  | shuffle
  | analysis
  deriving Repr, DecidableEq

namespace Section

/-- The section with a name. -/
def ofName? (name : String) : Option Section :=
  if name = "shuffle" then some shuffle
  else if name = "analysis" then some analysis
  else none

/-- The names of the fields of a section in order. -/
def fieldNames : Section -> List String
  | shuffle => ["deck_size", "variant", "seed"]
  | analysis => ["items", "trials", "chunks", "tolerance", "seed"]

end Section

/-- Keep a field that has not been set. -/
def once {α : Type} (old : Option α) (new : α) : Option (Option α) :=
  match old with
  | none => some (some new)
  | some _ => none

/-- A number that is not negative. -/
def natural? : Toml.Value -> Option Nat
  | .integer value => if 0 ≤ value then some value.toNat else none
  | _ => none

/-- A floating-point number; an integer stands for the nearest one. -/
def float? : Toml.Value -> Option Float
  | .float value => some value
  | .integer value => some (Binary64.nearest (value < 0) value.natAbs 0)
  | _ => none

/-- A string. -/
def string? : Toml.Value -> Option String
  | .string text => some text
  | _ => none

/-- Set a field of a section. It has to exist, to be unset, and to have the right
kind of value. -/
def set? (file : SettingsFile) (part : Section) (field : String) (value : Toml.Value) :
    Option SettingsFile :=
  match part, field with
  | .shuffle, "deck_size" => do
      return { file with deckSize := ← once file.deckSize (← natural? value) }
  | .shuffle, "variant" => do
      return { file with variant := ← once file.variant (← string? value) }
  | .shuffle, "seed" => do
      return { file with seed := ← once file.seed (← natural? value) }
  | .analysis, "items" => do
      return { file with items := ← once file.items (← natural? value) }
  | .analysis, "trials" => do
      return { file with trials := ← once file.trials (← natural? value) }
  | .analysis, "chunks" => do
      return { file with chunks := ← once file.chunks (← natural? value) }
  | .analysis, "tolerance" => do
      return { file with tolerance := ← once file.tolerance (← float? value) }
  | .analysis, "seed" => do
      return { file with analysisSeed := ← once file.analysisSeed (← natural? value) }
  | _, _ => none

/-- Set fields one after the other. -/
def setAll? (file : SettingsFile) (part : Section) (fields : List (String × Toml.Value)) :
    Option SettingsFile :=
  fields.foldlM (fun file (field, value) => file.set? part field value) file

/-- How a section has been defined so far. -/
inductive Form where
  | missing
  /-- By keys with its name before a point, which others may follow. -/
  | dotted
  /-- By a header or a value, which nothing may add to from outside. -/
  | closed
  deriving Repr, DecidableEq

/-- A settings file of which some statements have been read. -/
structure Draft where
  file : SettingsFile := {}
  shuffle : Form := .missing
  analysis : Form := .missing
  /-- The section whose header was read last. -/
  current : Option Section := none

namespace Draft

/-- How a section has been defined. -/
def form (draft : Draft) : Section -> Form
  | .shuffle => draft.shuffle
  | .analysis => draft.analysis

/-- Note how a section is defined from now on. -/
def mark (draft : Draft) (part : Section) (form : Form) : Draft :=
  match part with
  | .shuffle => { draft with shuffle := form }
  | .analysis => { draft with analysis := form }

/-- Set fields of a section. -/
def setAll? (draft : Draft) (part : Section) (fields : List (String × Toml.Value)) :
    Option Draft :=
  (draft.file.setAll? part fields).map fun file => { draft with file }

/-- Define a whole section by a value. An array has at least the fields of the
section; what comes after them is passed over. -/
def define? (draft : Draft) (part : Section) (value : Toml.Value) : Option Draft :=
  if draft.form part = .missing then
    let draft := draft.mark part .closed
    match value with
    | .table members => do
        let fields ← members.mapM fun (path, value) =>
          match path with
          | [field] => some (field, value)
          | _ => none
        draft.setAll? part fields
    | .array items =>
        if part.fieldNames.length ≤ items.length then
          draft.setAll? part (part.fieldNames.zip items)
        else
          none
    | _ => none
  else
    none

/-- Take in one statement. -/
def step? (draft : Draft) : Toml.Statement -> Option Draft
  | .header [name] => do
      let part ← Section.ofName? name
      if draft.form part = .missing then
        some { draft.mark part .closed with current := some part }
      else
        none
  | .assign path value =>
      match draft.current, path with
      | some part, [field] => draft.setAll? part [(field, value)]
      | none, [name] => do draft.define? (← Section.ofName? name) value
      | none, [name, field] => do
          let part ← Section.ofName? name
          if draft.form part = .closed then
            none
          else
            (draft.mark part .dotted).setAll? part [(field, value)]
      | _, _ => none
  | _ => none

end Draft

/-- What the statements of a document say about settings. -/
def ofStatements? (statements : List Toml.Statement) : Option SettingsFile :=
  (statements.foldlM Draft.step? {}).map Draft.file

/-- What the text of a settings file says. -/
def parse? (text : String) : Option SettingsFile := do
  ofStatements? (← Toml.parse? text)

end SettingsFile

namespace Settings

/-- The settings that the text of a settings file chooses. -/
def ofToml (text : String) : Except SettingsError Settings :=
  match SettingsFile.parse? text with
  | none => .error .malformed
  | some file => file.settings

/-- The settings in the file at a path. -/
def load (files : Files) (path : String) : Except SettingsError Settings :=
  match files.readText path with
  | .error failure => .error (.unreadable path failure)
  | .ok text => ofToml text

end Settings

end CardShuffle
