import CardShuffle.Proofs.Precedence
import CardShuffle.Settings.Toml

/-!
# What a settings file comes to

A settings file makes some of eight choices. Each is a `Choice`: it replaces one field of the
settings and leaves the others (`Choice.applyTo`), and it can be at fault on its own
(`Choice.fault?`). `SettingsFile.choices` lists those that a file makes, in the order in which
faults are reported.

Validation goes through five fields of finished settings, whether these were chosen or are
defaults. No default is at fault (`fault?_of_mem_checked_default`), so what validation finds in the
choices over the defaults is what is at fault among the choices (`SettingsFile.settings_eq`),
after a name that no form of the shuffle has.
-/

namespace CardShuffle

deriving instance DecidableEq for SettingsFile

/-! ## Names of the forms -/

namespace Variant

/-- The spellings of a form in lower case. -/
def spellings : Variant -> List String
  | durstenfeld => ["durstenfeld"]
  | insideOut => ["inside-out", "inside_out", "insideout"]

/-- A text names the form of which it is a spelling, in any letter case. -/
theorem ofText?_eq_some_iff {text : String} {form : Variant} :
    ofText? text = some form ↔ Text.foldCase text ∈ form.spellings := by
  unfold ofText?
  split <;> cases form <;> simp_all [spellings]

end Variant

/-! ## Choices -/

namespace SettingsFile

/-- A choice that a settings file makes. -/
inductive Choice where
  /-- The form of the shuffle with a name. -/
  | variant (name : String)
  | deckSize (size : Nat)
  | seed (seed : Nat)
  | items (items : Nat)
  | trials (trials : Nat)
  | chunks (chunks : Nat)
  | tolerance (tolerance : Float)
  | analysisSeed (seed : Nat)

namespace Choice

/-- The settings with the choice in place of their own. A name that no form has changes
nothing. -/
def applyTo (settings : Settings) : Choice -> Settings
  | variant name => { settings with variant := (Variant.ofText? name).getD settings.variant }
  | deckSize value => { settings with deckSize := value }
  | seed value => { settings with seed := some value }
  | items value => { settings with analysis := { settings.analysis with items := value } }
  | trials value => { settings with analysis := { settings.analysis with trials := value } }
  | chunks value => { settings with analysis := { settings.analysis with chunks := value } }
  | tolerance value => { settings with analysis := { settings.analysis with tolerance := value } }
  | analysisSeed value => { settings with analysis := { settings.analysis with seed := value } }

/-- What is wrong with a choice, whatever the others are. -/
def fault? : Choice -> Option SettingsError
  | variant name =>
      if (Variant.ofText? name).isNone then some (.unknownVariant (Text.foldCase name)) else none
  | deckSize value => if Deck.maximumSize < value then some (.deckSize value) else none
  | items value =>
      if value = 0 ∨ maximumItems < value then some (.analysis (.items value)) else none
  | trials value => if value = 0 then some (.analysis .noTrials) else none
  | chunks value => if value = 0 then some (.analysis .noChunks) else none
  | tolerance value =>
      if 0.0 < value ∧ value < 1.0 then none else some (.analysis (.tolerance value))
  | seed _ | analysisSeed _ => none

/-- The statement by which a section makes the choice. -/
def statement : Choice -> Toml.Statement
  | variant name => .assign ["variant"] (.string name)
  | deckSize value => .assign ["deck_size"] (.integer value)
  | seed value => .assign ["seed"] (.integer value)
  | items value => .assign ["items"] (.integer value)
  | trials value => .assign ["trials"] (.integer value)
  | chunks value => .assign ["chunks"] (.integer value)
  | tolerance value => .assign ["tolerance"] (.float value)
  | analysisSeed value => .assign ["seed"] (.integer value)

/-- The faults of a field that may be chosen are those of its choice. -/
theorem filterMap_fault?_toList {α : Type} (make : α -> Choice) (chosen : Option α) :
    (chosen.toList.map make).filterMap fault? =
      (chosen.bind fun value => (make value).fault?).toList := by
  cases chosen with
  | none => rfl
  | some value => cases found : (make value).fault? <;> simp [found]

/-- A field with a default that is not at fault is at fault exactly when it is chosen so. -/
theorem bind_fault? {α : Type} {make : α -> Choice} {default : α}
    (faultless : (make default).fault? = none) (chosen : Option α) :
    (chosen.bind fun value => (make value).fault?) = (make (chosen.getD default)).fault? := by
  cases chosen with
  | none => exact faultless.symm
  | some value => rfl

end Choice

/-! ## Choices of a file -/

/-- What a file chooses in the section of the deck. -/
def shuffleChoices (file : SettingsFile) : List Choice :=
  file.variant.toList.map .variant ++ file.deckSize.toList.map .deckSize ++
    file.seed.toList.map .seed

/-- What a file chooses in the section of the analysis. -/
def analysisChoices (file : SettingsFile) : List Choice :=
  file.items.toList.map .items ++ file.trials.toList.map .trials ++
    file.chunks.toList.map .chunks ++ file.tolerance.toList.map .tolerance ++
    file.analysisSeed.toList.map .analysisSeed

/-- What a file chooses, in the order in which faults are reported. -/
def choices (file : SettingsFile) : List Choice :=
  file.shuffleChoices ++ file.analysisChoices

/-- A document that makes the choices of a file, section by section. -/
def statements (file : SettingsFile) : List Toml.Statement :=
  .header ["shuffle"] :: file.shuffleChoices.map Choice.statement ++
    .header ["analysis"] :: file.analysisChoices.map Choice.statement

/-- The defaults with the choices of a file. -/
def overDefaults (file : SettingsFile) : Settings :=
  file.choices.foldl Choice.applyTo {}

/-- What is wrong with the choices of a file. -/
def faults (file : SettingsFile) : List SettingsError :=
  file.choices.filterMap Choice.fault?

/-! ## Reading a file -/

/-- A value that is accepted when there are no faults, and refused for the first one. -/
def accept {ε α : Type} (value : α) : List ε -> Except ε α
  | [] => .ok value
  | fault :: _ => .error fault

/-- What is accepted is the value itself, and there are no faults. -/
theorem accept_eq_ok_iff {ε α : Type} {value result : α} {faults : List ε} :
    accept value faults = .ok result ↔ faults = [] ∧ result = value := by
  cases faults <;> simp [accept, eq_comm]

/-- What a value is refused for is its first fault. -/
theorem accept_eq_error_iff {ε α : Type} {value : α} {faults : List ε} {error : ε} :
    accept value faults = .error error ↔ faults.head? = some error := by
  cases faults <;> simp [accept]

/-- The statements of a field that may be chosen: none, or the one that sets it. -/
theorem foldlM_toList {α : Type} {make : α -> Choice} {draft : Draft} (next : Option α -> Draft)
    (kept : next none = draft)
    (set : ∀ value, draft.step? (make value).statement = some (next (some value)))
    (chosen : Option α) :
    ((chosen.toList.map make).map Choice.statement).foldlM Draft.step? draft =
      some (next chosen) := by
  cases chosen with
  | none => simp [kept]
  | some value => simp [set]

/-- A draft whose last header is that of the deck. -/
def inShuffle (file : SettingsFile) : Draft :=
  { file, shuffle := .closed, current := some .shuffle }

/-- A draft whose last header is that of the analysis, after that of the deck. -/
def inAnalysis (file : SettingsFile) : Draft :=
  { file, shuffle := .closed, analysis := .closed, current := some .analysis }

/-- Under its header, the section of the deck sets the fields that are chosen. -/
theorem foldlM_shuffleChoices (file : SettingsFile) :
    (file.shuffleChoices.map Choice.statement).foldlM Draft.step? (inShuffle {}) =
      some (inShuffle
        { deckSize := file.deckSize, variant := file.variant, seed := file.seed }) := by
  unfold shuffleChoices
  simp only [List.map_append, List.foldlM_append, Option.bind_eq_bind]
  rw [foldlM_toList (fun variant => inShuffle { variant }) rfl fun _ => rfl, Option.bind_some,
    foldlM_toList (fun deckSize => inShuffle { deckSize, variant := file.variant }) rfl
      fun _ => rfl, Option.bind_some,
    foldlM_toList
      (fun seed => inShuffle { deckSize := file.deckSize, variant := file.variant, seed }) rfl
      fun _ => rfl]

/-- Under its header, the section of the analysis sets the fields that are chosen. -/
theorem foldlM_analysisChoices (file : SettingsFile) :
    (file.analysisChoices.map Choice.statement).foldlM Draft.step?
        (inAnalysis { deckSize := file.deckSize, variant := file.variant, seed := file.seed }) =
      some (inAnalysis file) := by
  obtain ⟨deckSize, variant, seed, items, trials, chunks, tolerance, analysisSeed⟩ := file
  unfold analysisChoices
  simp only [List.map_append, List.foldlM_append, Option.bind_eq_bind]
  rw [foldlM_toList (fun items => inAnalysis { deckSize, variant, seed, items }) rfl
      fun _ => rfl, Option.bind_some,
    foldlM_toList (fun trials => inAnalysis { deckSize, variant, seed, items, trials }) rfl
      fun _ => rfl, Option.bind_some,
    foldlM_toList (fun chunks => inAnalysis { deckSize, variant, seed, items, trials, chunks })
      rfl fun _ => rfl, Option.bind_some,
    foldlM_toList (fun tolerance =>
      inAnalysis { deckSize, variant, seed, items, trials, chunks, tolerance }) rfl
      fun _ => rfl, Option.bind_some,
    foldlM_toList (fun analysisSeed =>
      inAnalysis { deckSize, variant, seed, items, trials, chunks, tolerance, analysisSeed }) rfl
      fun _ => rfl]

/-- The document that makes the choices of a file is read as this file. -/
theorem ofStatements?_statements (file : SettingsFile) :
    ofStatements? file.statements = some file := by
  have deck : Draft.step? {} (.header ["shuffle"]) = some (inShuffle {}) := rfl
  have analysis : ∀ file, (inShuffle file).step? (.header ["analysis"]) =
      some (inAnalysis file) := fun _ => rfl
  unfold ofStatements? statements
  simp only [List.cons_append, List.foldlM_cons, List.foldlM_append, deck, analysis,
    Option.bind_eq_bind, Option.bind_some, foldlM_shuffleChoices, foldlM_analysisChoices]
  rfl

end SettingsFile

/-- The fields that validation goes through, as the choices that make them. -/
def Settings.checked (settings : Settings) : List SettingsFile.Choice :=
  [.deckSize settings.deckSize, .items settings.analysis.items,
    .trials settings.analysis.trials, .chunks settings.analysis.chunks,
    .tolerance settings.analysis.tolerance]

/-- Validation finds the first fault among the fields that it goes through. -/
theorem Settings.validate_eq_accept (settings : Settings) :
    settings.validate =
      SettingsFile.accept () (settings.checked.filterMap SettingsFile.Choice.fault?) := by
  unfold validate checked
  rw [AnalysisSettings.validate_eq]
  simp only [List.filterMap_cons, SettingsFile.Choice.fault?]
  by_cases deck : Deck.maximumSize < settings.deckSize
  · simp only [deck, if_true]
    rfl
  by_cases items : settings.analysis.items = 0 ∨ maximumItems < settings.analysis.items
  · simp only [deck, items, if_true, if_false]
    rfl
  by_cases trials : settings.analysis.trials = 0
  · simp only [deck, items, trials, if_true, if_false]
    rfl
  by_cases chunks : settings.analysis.chunks = 0
  · simp only [deck, items, trials, chunks, if_true, if_false]
    rfl
  by_cases tolerance : 0.0 < settings.analysis.tolerance ∧ settings.analysis.tolerance < 1.0
  · simp only [deck, items, trials, chunks, tolerance, and_self, if_true, if_false]
    rfl
  · simp only [deck, items, trials, chunks, tolerance, if_false]
    rfl

namespace SettingsFile

/-- The choices of a field that may be chosen: none, or the one that replaces it. -/
theorem foldl_toList {α : Type} {make : α -> Choice} {settings : Settings}
    (next : Option α -> Settings) (kept : next none = settings)
    (set : ∀ value, Choice.applyTo settings (make value) = next (some value))
    (chosen : Option α) :
    (chosen.toList.map make).foldl Choice.applyTo settings = next chosen := by
  cases chosen with
  | none => exact kept.symm
  | some value => exact set value

/-- The choices of a file change the defaults field by field. -/
theorem overDefaults_eq (file : SettingsFile) :
    file.overDefaults =
      file.overlay ((file.variant.bind Variant.ofText?).getD ({} : Settings).variant) := by
  obtain ⟨deckSize, name, seed, items, trials, chunks, tolerance, analysisSeed⟩ := file
  simp only [overDefaults, choices, shuffleChoices, analysisChoices, List.foldl_append]
  have base : ({} : Settings) = overlay {} ((none.bind Variant.ofText?).getD .durstenfeld) := rfl
  rw [base, foldl_toList
      (fun name => overlay {} ((name.bind Variant.ofText?).getD ({} : Settings).variant)) rfl
      fun _ => rfl,
    foldl_toList (fun deckSize => overlay { deckSize } _) rfl fun _ => rfl,
    foldl_toList (fun seed => overlay { deckSize, seed } _) rfl fun _ => rfl,
    foldl_toList (fun items => overlay { deckSize, seed, items } _) rfl fun _ => rfl,
    foldl_toList (fun trials => overlay { deckSize, seed, items, trials } _) rfl fun _ => rfl,
    foldl_toList (fun chunks => overlay { deckSize, seed, items, trials, chunks } _) rfl
      fun _ => rfl,
    foldl_toList (fun tolerance =>
      overlay { deckSize, seed, items, trials, chunks, tolerance } _) rfl fun _ => rfl,
    foldl_toList (fun analysisSeed =>
      overlay { deckSize, seed, items, trials, chunks, tolerance, analysisSeed } _) rfl
      fun _ => rfl]
  rfl

/-- No default is at fault. -/
theorem fault?_of_mem_checked_default :
    ∀ choice ∈ ({} : Settings).checked, choice.fault? = none := by
  simp only [Settings.checked, List.forall_mem_cons]
  decide

/-- What is wrong with the choices of a file is a name that no form has, and then what
validation finds in the choices over the defaults. -/
theorem faults_eq (file : SettingsFile) :
    file.faults = (file.variant.bind fun name => (Choice.variant name).fault?).toList ++
      file.overDefaults.checked.filterMap Choice.fault? := by
  have faultless := fault?_of_mem_checked_default
  simp only [Settings.checked, List.forall_mem_cons] at faultless
  obtain ⟨deckSize, items, trials, chunks, tolerance, -⟩ := faultless
  have seeds : ∀ chosen : Option Nat,
      (chosen.bind fun seed => (Choice.seed seed).fault?) = none ∧
        (chosen.bind fun seed => (Choice.analysisSeed seed).fault?) = none := by
    intro chosen
    cases chosen <;> exact ⟨rfl, rfl⟩
  rw [overDefaults_eq, faults, choices, shuffleChoices, analysisChoices]
  simp only [List.filterMap_append, Choice.filterMap_fault?_toList, Choice.bind_fault? deckSize,
    Choice.bind_fault? items, Choice.bind_fault? trials, Choice.bind_fault? chunks,
    Choice.bind_fault? tolerance, (seeds _).1, (seeds _).2, Settings.checked, overlay,
    Option.toList_none, List.nil_append, List.append_nil, List.append_assoc]
  simp only [List.filterMap_eq_flatMap_toList, List.flatMap_cons, List.flatMap_nil,
    List.append_nil]

/-- A name that no form has is refused, and without a name the form is the default. -/
theorem variantOf_eq (file : SettingsFile) :
    file.variantOf =
      accept ((file.variant.bind Variant.ofText?).getD ({} : Settings).variant)
        (file.variant.bind fun name => (Choice.variant name).fault?).toList := by
  unfold variantOf
  cases file.variant with
  | none => rfl
  | some name => cases found : Variant.ofText? name <;> simp [Choice.fault?, found, accept]

/-- The settings of a file are the defaults with its choices, unless one of these is at
fault. -/
theorem settings_eq (file : SettingsFile) :
    file.settings = accept file.overDefaults file.faults := by
  rw [settings, variantOf_eq, faults_eq]
  cases file.variant.bind fun name => (Choice.variant name).fault? with
  | some error => rfl
  | none =>
      change (file.overlay _).validated =
        accept file.overDefaults (file.overDefaults.checked.filterMap Choice.fault?)
      rw [← overDefaults_eq, Settings.validated, Settings.validate_eq_accept]
      cases file.overDefaults.checked.filterMap Choice.fault? <;> rfl

/-- No choice is at fault exactly when the name is a spelling of a form, if there is one, and
validation accepts the choices over the defaults. -/
theorem faults_eq_nil_iff {file : SettingsFile} :
    file.faults = [] ↔
      (∀ name, file.variant = some name →
        ∃ form : Variant, Text.foldCase name ∈ form.spellings) ∧
        file.overDefaults.validate = .ok () := by
  have named : (file.variant.bind fun name => (Choice.variant name).fault?) = none ↔
      ∀ name, file.variant = some name →
        ∃ form : Variant, Text.foldCase name ∈ form.spellings := by
    simp only [← Variant.ofText?_eq_some_iff, ← Option.isSome_iff_exists]
    cases file.variant with
    | none => simp
    | some name => simp [Choice.fault?, Option.isSome_iff_ne_none]
  rw [Settings.validate_eq_accept, accept_eq_ok_iff, ← named, faults_eq, List.append_eq_nil_iff,
    Option.toList_eq_nil_iff]
  simp

end SettingsFile

/-- A settings file makes some of eight choices, each with any value, and a document that
makes them in its two sections is read as this file. Whatever text is read as the file, its
settings are the defaults with the choices over them. They are had exactly when the name of
the form, where one is given, is a spelling of a form in some letter case and validation
accepts the choices over the defaults.

So settings that are had are accepted, the seed of the deck is the one of the file or none,
and the seed of the analysis the one of the file or the default. Where settings are not had,
the error is the first fault among the choices, in the order form, size of the deck, items,
trials, chunks, tolerance. -/
theorem Settings.ofToml_of_choices (file : SettingsFile) :
    SettingsFile.ofStatements? file.statements = some file ∧
      ∀ text, SettingsFile.parse? text = some file →
        (∀ settings, ofToml text = .ok settings ↔
          (∀ name, file.variant = some name →
            ∃ form : Variant, Text.foldCase name ∈ form.spellings) ∧
            file.overDefaults.validate = .ok () ∧ settings = file.overDefaults) ∧
        (∀ settings, ofToml text = .ok settings →
          settings.validate = .ok () ∧
            (∀ name, file.variant = some name →
              Text.foldCase name ∈ settings.variant.spellings) ∧
            settings.seed = file.seed ∧
            settings.analysis.seed = file.analysisSeed.getD ({} : AnalysisSettings).seed) ∧
        ∀ error, ofToml text = .error error ↔ file.faults.head? = some error := by
  refine ⟨SettingsFile.ofStatements?_statements file, fun text parsed => ?_⟩
  have read : ofToml text = SettingsFile.accept file.overDefaults file.faults := by
    rw [ofToml, parsed]
    exact file.settings_eq
  have had : ∀ settings, ofToml text = .ok settings ↔
      (∀ name, file.variant = some name →
        ∃ form : Variant, Text.foldCase name ∈ form.spellings) ∧
        file.overDefaults.validate = .ok () ∧ settings = file.overDefaults := by
    intro settings
    rw [read, SettingsFile.accept_eq_ok_iff, SettingsFile.faults_eq_nil_iff, and_assoc]
  refine ⟨had, fun settings answered => ?_, fun error => ?_⟩
  · obtain ⟨named, accepted, rfl⟩ := (had settings).mp answered
    refine ⟨accepted, fun name chosen => ?_, ?_, ?_⟩
    · obtain ⟨form, spelling⟩ := named name chosen
      rw [← Variant.ofText?_eq_some_iff] at spelling ⊢
      rw [file.overDefaults_eq, chosen, Option.bind_some, spelling]
      rfl
    · rw [file.overDefaults_eq]
      rfl
    · rw [file.overDefaults_eq]
      rfl
  · rw [read, SettingsFile.accept_eq_error_iff]

/-- One text chooses the form of the shuffle and the seed of the deck. Of the three faults of
another the size of the deck is reported, though it stands last. -/
theorem Settings.ofToml_of_choices_two_files :
    let good := "[shuffle]\nvariant = \"Inside_Out\"\nseed = 9\n"
    let bad := "[analysis]\ntolerance = nan\nitems = 9\n[shuffle]\ndeck_size = 70000\n"
    (∃ settings, ofToml good = .ok settings ∧ settings.validate = .ok () ∧
      settings.variant = .insideOut ∧ settings.seed = some 9 ∧
      settings.analysis.seed = 24301) ∧
    ofToml bad = .error (.deckSize 70000) := by
  intro good bad
  have goodRead : SettingsFile.parse? good =
      some { variant := some "Inside_Out", seed := some 9 } := by decide +kernel
  have badRead : SettingsFile.parse? bad =
      some { deckSize := some 70000, items := some 9, tolerance := some (0.0 / 0.0) } := by
    decide +kernel
  obtain ⟨had, -, -⟩ := (ofToml_of_choices _).2 good goodRead
  obtain ⟨-, -, refused⟩ := (ofToml_of_choices _).2 bad badRead
  refine ⟨⟨_, (had _).mpr ⟨?_, validate_default, rfl⟩, validate_default, by decide +kernel,
    rfl, rfl⟩, (refused _).mpr rfl⟩
  rintro name ⟨rfl⟩
  exact ⟨.insideOut, by decide +kernel⟩

end CardShuffle
