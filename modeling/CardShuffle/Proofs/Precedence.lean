import CardShuffle.Proofs.Validated

/-!
# Flags over a base

Settings are put together from defaults, a settings file and flags. `overlay` says what
precedence means: a field has the value of its flag where the flag is given, and keeps
its own elsewhere. `resolve` goes through a record of choices over the defaults instead,
and `resolve_eq` says that it answers with the same settings, when they can be carried out.

Whatever comes from `loadBase` has been accepted (`loadBase_accepted`). Flags for a deal
leave the analysis as it is, and flags for an analysis leave the deck, so a fault in what
is put together is always in the part the flags belong to.
-/

namespace CardShuffle

/-! ## Accepted settings -/

namespace Settings

/-- The defaults can be carried out. -/
theorem validate_default : ({} : Settings).validate = .ok () := by
  rw [validate_eq_ok_iff, AnalysisSettings.validate_eq_ok_iff]
  decide

/-- Settings that are accepted come back as they are. -/
theorem validated_eq_ok_iff {settings result : Settings} :
    settings.validated = .ok result ↔ settings.validate = .ok () ∧ result = settings := by
  unfold validated
  cases settings.validate with
  | error error => simp [Except.map]
  | ok accepted => simp [Except.map, eq_comm]

/-- Settings that are not accepted are refused for what validation finds. -/
theorem validated_eq_error_iff {settings : Settings} {error : SettingsError} :
    settings.validated = .error error ↔ settings.validate = .error error := by
  unfold validated
  cases settings.validate <;> simp [Except.map]

/-- Settings that are accepted with some choices are accepted with the same ones again. -/
theorem validated_again {choose : Settings -> Settings}
    (again : ∀ settings, choose (choose settings) = choose settings) {base settings : Settings}
    (answered : (choose base).validated = .ok settings) :
    (choose settings).validated = .ok settings := by
  obtain ⟨accepted, rfl⟩ := validated_eq_ok_iff.mp answered
  rw [again]
  exact answered

/-- Only the deck is at fault where the analysis is accepted. -/
theorem validate_eq_error_iff_of_analysis {settings : Settings} {error : SettingsError}
    (accepted : settings.analysis.validate = .ok ()) :
    settings.validate = .error error ↔
      Deck.maximumSize < settings.deckSize ∧ error = .deckSize settings.deckSize := by
  unfold validate
  rw [accepted]
  split_ifs with large
  · simp [large, eq_comm]
  · simp [large, Except.mapError]

/-- Only the analysis is at fault where the deck is not too large. -/
theorem validate_eq_error_iff_of_deckSize {settings : Settings} {error : SettingsError}
    (fits : settings.deckSize ≤ Deck.maximumSize) :
    settings.validate = .error error ↔
      ∃ fault, settings.analysis.validate = .error fault ∧ error = .analysis fault := by
  unfold validate
  rw [if_neg (Nat.not_lt.mpr fits)]
  cases settings.analysis.validate with
  | error fault => simp [Except.mapError, eq_comm]
  | ok accepted => simp [Except.mapError]

end Settings

/-- What a settings file says can be carried out, or the file is refused. -/
theorem SettingsFile.accepted_of_settings {file : SettingsFile} {settings : Settings}
    (read : file.settings = .ok settings) : settings.validate = .ok () := by
  unfold SettingsFile.settings at read
  cases form : file.variantOf with
  | error error =>
      rw [form] at read
      cases read
  | ok variant =>
      rw [form] at read
      obtain ⟨accepted, rfl⟩ := Settings.validated_eq_ok_iff.mp read
      exact accepted

/-- Settings are loaded exactly from a file whose text is read as what some settings file
says. -/
theorem Settings.load_eq_ok_iff {files : Files} {path : String} {settings : Settings} :
    load files path = .ok settings ↔
      ∃ text file, files.readText path = .ok text ∧ SettingsFile.parse? text = some file ∧
        file.settings = .ok settings := by
  unfold load ofToml
  cases files.readText path with
  | error failure => simp
  | ok text =>
      cases parsed : SettingsFile.parse? text with
      | none => simp [parsed]
      | some file => simp [parsed]

/-- A base is accepted, whether it is the defaults or a settings file. -/
theorem loadBase_accepted {files : Files} {path : Option String} {base : Settings}
    (loaded : loadBase files path = .ok base) : base.validate = .ok () := by
  cases path with
  | none =>
      cases loaded
      exact Settings.validate_default
  | some path =>
      obtain ⟨text, file, -, -, read⟩ := Settings.load_eq_ok_iff.mp (mapError_eq_ok_iff.mp loaded)
      exact SettingsFile.accepted_of_settings read

/-! ## Flags for a deal -/

namespace ShuffleFlags

/-- Settings with the choices of the flags in place of their own. -/
def overlay (flags : ShuffleFlags) (base : Settings) : Settings :=
  { base with
    deckSize := flags.size.getD base.deckSize
    seed := flags.seed.or base.seed
    variant := flags.variant.getD base.variant }

/-- Resolving flags answers with the settings that have their choices, when these can be
carried out. -/
theorem resolve_eq (flags : ShuffleFlags) (base : Settings) :
    flags.resolve base = (flags.overlay base).validated := by
  obtain ⟨size, seed, variant, json⟩ := flags
  cases size <;> cases variant <;>
    simp [resolve, overlay, Overrides.build, Overrides.settings, Overrides.ofSettings]

/-- Choices that have been made are not changed by making them again. -/
theorem overlay_overlay (flags : ShuffleFlags) (base : Settings) :
    flags.overlay (flags.overlay base) = flags.overlay base := by
  obtain ⟨size, seed, variant, json⟩ := flags
  cases size <;> cases seed <;> cases variant <;> rfl

/-- There is an answer exactly when the settings with the choices are accepted, and it is
these settings. -/
theorem resolve_eq_ok_iff {flags : ShuffleFlags} {base settings : Settings} :
    flags.resolve base = .ok settings ↔
      (flags.overlay base).validate = .ok () ∧ settings = flags.overlay base := by
  rw [resolve_eq, Settings.validated_eq_ok_iff]

/-- Over an accepted base only a size that is chosen can be at fault. -/
theorem resolve_eq_error_iff {flags : ShuffleFlags} {base : Settings} {error : SettingsError}
    (accepted : base.validate = .ok ()) :
    flags.resolve base = .error error ↔
      ∃ size, flags.size = some size ∧ Deck.maximumSize < size ∧ error = .deckSize size := by
  obtain ⟨fits, analysis⟩ := Settings.validate_eq_ok_iff.mp accepted
  have merged : (flags.overlay base).analysis.validate = .ok () := analysis
  rw [resolve_eq, Settings.validated_eq_error_iff,
    Settings.validate_eq_error_iff_of_analysis merged]
  cases chosen : flags.size with
  | none => simp [overlay, chosen, Nat.not_lt.mpr fits]
  | some size => simp [overlay, chosen]

end ShuffleFlags

/-! ## Flags for an analysis -/

namespace AnalyzeFlags

/-- Settings with the choices of the flags in place of their own. The seed is that of the
analysis. -/
def overlay (flags : AnalyzeFlags) (base : Settings) : Settings :=
  { base with
    variant := flags.variant.getD base.variant
    analysis :=
      { items := flags.items.getD base.analysis.items
        trials := flags.trials.getD base.analysis.trials
        chunks := flags.chunks.getD base.analysis.chunks
        tolerance := flags.tolerance.getD base.analysis.tolerance
        seed := flags.seed.getD base.analysis.seed } }

/-- Resolving flags answers with the settings that have their choices, when these can be
carried out. -/
theorem resolve_eq (flags : AnalyzeFlags) (base : Settings) :
    flags.resolve base = (flags.overlay base).validated := by
  cases chosen : flags.variant <;>
    simp [resolve, overlay, Overrides.build, Overrides.settings, Overrides.ofSettings, chosen]

/-- Choices that have been made are not changed by making them again. -/
theorem overlay_overlay (flags : AnalyzeFlags) (base : Settings) :
    flags.overlay (flags.overlay base) = flags.overlay base := by
  have again : ∀ {α : Type} (choice : Option α) (own : α),
      choice.getD (choice.getD own) = choice.getD own := by
    intro α choice own
    cases choice <;> rfl
  simp [overlay, again]

/-- There is an answer exactly when the settings with the choices are accepted, and it is
these settings. -/
theorem resolve_eq_ok_iff {flags : AnalyzeFlags} {base settings : Settings} :
    flags.resolve base = .ok settings ↔
      (flags.overlay base).validate = .ok () ∧ settings = flags.overlay base := by
  rw [resolve_eq, Settings.validated_eq_ok_iff]

/-- Over an accepted base only the analysis that is put together can be at fault. -/
theorem resolve_eq_error_iff {flags : AnalyzeFlags} {base : Settings} {error : SettingsError}
    (accepted : base.validate = .ok ()) :
    flags.resolve base = .error error ↔
      ∃ fault, (flags.overlay base).analysis.validate = .error fault ∧ error = .analysis fault := by
  have fits : (flags.overlay base).deckSize ≤ Deck.maximumSize :=
    (Settings.validate_eq_ok_iff.mp accepted).1
  rw [resolve_eq, Settings.validated_eq_error_iff,
    Settings.validate_eq_error_iff_of_deckSize fits]

end AnalyzeFlags

/-! ## Precedence -/

/-- Flags are laid over a base, which is the defaults or an accepted settings file. For
either command the answer is exactly the base with the choices of the flags in it, and
there is one exactly when these settings can be carried out.

Flags for a deal can fail only for a size that is too large, and leave the analysis as it
is. Flags for an analysis can fail only for a fault of the analysis, and leave the size
and the seed of the deck; their seed is that of the analysis. Flags that choose nothing
give the base, and flags laid over their own result change nothing. -/
theorem flags_over_base {files : Files} {path : Option String} {base : Settings}
    (loaded : loadBase files path = .ok base) :
    (∀ flags : ShuffleFlags,
      (∀ settings, flags.resolve base = .ok settings ↔
        (flags.overlay base).validate = .ok () ∧ settings = flags.overlay base) ∧
      (∀ error, flags.resolve base = .error error ↔
        ∃ size, flags.size = some size ∧ Deck.maximumSize < size ∧ error = .deckSize size) ∧
      ∀ settings, flags.resolve base = .ok settings →
        settings.analysis = base.analysis ∧ flags.resolve settings = .ok settings) ∧
    (∀ flags : AnalyzeFlags,
      (∀ settings, flags.resolve base = .ok settings ↔
        (flags.overlay base).validate = .ok () ∧ settings = flags.overlay base) ∧
      (∀ error, flags.resolve base = .error error ↔
        ∃ fault, (flags.overlay base).analysis.validate = .error fault ∧ error = .analysis fault) ∧
      ∀ settings, flags.resolve base = .ok settings →
        settings.deckSize = base.deckSize ∧ settings.seed = base.seed ∧
          settings.analysis.seed = flags.seed.getD base.analysis.seed ∧
          flags.resolve settings = .ok settings) ∧
    (∀ json, ({ json } : ShuffleFlags).resolve base = .ok base) ∧
    ({} : AnalyzeFlags).resolve base = .ok base := by
  have accepted := loadBase_accepted loaded
  refine ⟨fun flags => ?_, fun flags => ?_, fun json => ?_, ?_⟩
  · refine ⟨fun settings => ShuffleFlags.resolve_eq_ok_iff,
      fun error => ShuffleFlags.resolve_eq_error_iff accepted, ?_⟩
    intro settings answered
    obtain ⟨-, rfl⟩ := ShuffleFlags.resolve_eq_ok_iff.mp answered
    rw [flags.resolve_eq] at answered ⊢
    exact ⟨rfl, Settings.validated_again flags.overlay_overlay answered⟩
  · refine ⟨fun settings => AnalyzeFlags.resolve_eq_ok_iff,
      fun error => AnalyzeFlags.resolve_eq_error_iff accepted, ?_⟩
    intro settings answered
    obtain ⟨-, rfl⟩ := AnalyzeFlags.resolve_eq_ok_iff.mp answered
    rw [flags.resolve_eq] at answered ⊢
    exact ⟨rfl, rfl, rfl, Settings.validated_again flags.overlay_overlay answered⟩
  · exact ShuffleFlags.resolve_eq_ok_iff.mpr ⟨accepted, rfl⟩
  · exact AnalyzeFlags.resolve_eq_ok_iff.mpr ⟨accepted, rfl⟩

/-- A file sets the size of the deck, and flags set the seed and a size that is too large
in turn. -/
theorem flags_over_base_small_deck :
    let files : Files := fun path =>
      if path = "deck.toml" then .ok "[shuffle]\ndeck_size = 20\n".toUTF8 else .error .notFound
    ∃ base settings, loadBase files (some "deck.toml") = .ok base ∧
      ({ seed := some 9 } : ShuffleFlags).resolve base = .ok settings ∧
      settings.deckSize = 20 ∧ settings.seed = some 9 ∧
      ({ size := some 70000 } : ShuffleFlags).resolve base = .error (.deckSize 70000) ∧
      ({} : AnalyzeFlags).resolve base = .ok base := by
  intro files
  have read : ((loadBase files (some "deck.toml")).toOption.map fun base => base.deckSize) =
      some 20 := by decide +kernel
  cases loaded : loadBase files (some "deck.toml") with
  | error error => simp [loaded, Except.toOption] at read
  | ok base =>
      have size : base.deckSize = 20 := by simpa [loaded, Except.toOption] using read
      obtain ⟨deals, -, -, kept⟩ := flags_over_base loaded
      have accepted := loadBase_accepted loaded
      have acceptedAgain : (ShuffleFlags.overlay { seed := some 9 } base).validate = .ok () :=
        accepted
      refine ⟨base, _, rfl, ((deals { seed := some 9 }).1 _).mpr ⟨acceptedAgain, rfl⟩, size, rfl,
        ?_, kept⟩
      exact ((deals { size := some 70000 }).2.1 _).mpr ⟨70000, rfl, by decide, rfl⟩

end CardShuffle
