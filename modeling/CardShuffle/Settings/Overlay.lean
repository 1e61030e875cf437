import CardShuffle.Settings

/-!
# Settings from several places

Settings come from the defaults, a settings file and the command line, and a
later place goes before an earlier one. Whatever is put together is validated as
a whole.
-/

namespace CardShuffle

/-- What a settings file says. A choice it does not make keeps its default. -/
structure SettingsFile where
  deckSize : Option Nat := none
  /-- The name of the form of the shuffle, as it is written. -/
  variant : Option String := none
  seed : Option Nat := none
  items : Option Nat := none
  trials : Option Nat := none
  chunks : Option Nat := none
  tolerance : Option Float := none
  /-- The seed of the analysis. -/
  analysisSeed : Option Nat := none
  deriving Repr, Inhabited

namespace SettingsFile

/-- The form of the shuffle a file chooses. -/
def variantOf (file : SettingsFile) : Except SettingsError Variant :=
  match file.variant with
  | none => .ok ({} : Settings).variant
  | some name =>
      match Variant.ofText? name with
      | some variant => .ok variant
      | none => .error (.unknownVariant (Text.foldCase name))

/-- The choices of a file over the defaults, with a form of the shuffle. -/
def overlay (file : SettingsFile) (variant : Variant) : Settings :=
  let base : AnalysisSettings := {}
  { deckSize := file.deckSize.getD ({} : Settings).deckSize
    variant
    seed := file.seed
    analysis :=
      { items := file.items.getD base.items
        trials := file.trials.getD base.trials
        chunks := file.chunks.getD base.chunks
        tolerance := file.tolerance.getD base.tolerance
        seed := file.analysisSeed.getD base.seed } }

/-- The settings of a file. An unknown form of the shuffle is reported before
anything that validation reports. -/
def settings (file : SettingsFile) : Except SettingsError Settings := do
  let variant ← file.variantOf
  (file.overlay variant).validated

end SettingsFile

/-- Choices to be made over the defaults. -/
structure Overrides where
  deckSize : Option Nat := none
  variant : Option Variant := none
  seed : Option Nat := none
  analysis : Option AnalysisSettings := none
  deriving Repr, Inhabited

namespace Overrides

/-- Every choice of some settings. -/
def ofSettings (settings : Settings) : Overrides :=
  { deckSize := some settings.deckSize
    variant := some settings.variant
    seed := settings.seed
    analysis := some settings.analysis }

/-- The choices over the defaults. -/
def settings (overrides : Overrides) : Settings :=
  let base : Settings := {}
  { deckSize := overrides.deckSize.getD base.deckSize
    variant := overrides.variant.getD base.variant
    seed := overrides.seed.or base.seed
    analysis := overrides.analysis.getD base.analysis }

/-- The choices over the defaults, when they can be carried out. -/
def build (overrides : Overrides) : Except SettingsError Settings :=
  overrides.settings.validated

end Overrides

/-- Choices for a deal, made on the command line. -/
structure ShuffleFlags where
  size : Option Nat := none
  seed : Option Nat := none
  variant : Option Variant := none
  json : Bool := false
  deriving Repr, DecidableEq, Inhabited

/-- Choices for an analysis, made on the command line. -/
structure AnalyzeFlags where
  items : Option Nat := none
  trials : Option Nat := none
  seed : Option Nat := none
  chunks : Option Nat := none
  tolerance : Option Float := none
  variant : Option Variant := none
  deriving Repr, Inhabited

/-- The settings for a deal: flags over a base. -/
def ShuffleFlags.resolve (flags : ShuffleFlags) (base : Settings) :
    Except SettingsError Settings :=
  let overrides := Overrides.ofSettings base
  Overrides.build
    { overrides with
      deckSize := flags.size.or overrides.deckSize
      seed := flags.seed.or overrides.seed
      variant := flags.variant.or overrides.variant }

/-- The settings for an analysis: flags over a base. The seed goes to the
analysis alone. -/
def AnalyzeFlags.resolve (flags : AnalyzeFlags) (base : Settings) :
    Except SettingsError Settings :=
  let file := base.analysis
  let overrides := Overrides.ofSettings base
  Overrides.build
    { overrides with
      analysis := some
        { items := flags.items.getD file.items
          trials := flags.trials.getD file.trials
          chunks := flags.chunks.getD file.chunks
          tolerance := flags.tolerance.getD file.tolerance
          seed := flags.seed.getD file.seed }
      variant := flags.variant.or overrides.variant }

end CardShuffle
