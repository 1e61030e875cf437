import CardShuffle.Program
import CardShuffle.Proofs.Verdicts

/-!
# How a run ends

A run of a command line that was read goes through its steps in order: the log filter, the
base settings, the settings for the command, the command. `Program.Ends` says which
endings there are and which step leads to each; `ends_iff` says that `Program.execute` ends
so and in no other way. What a run prints, its exit code and what it reports are then read
off the step that decides the ending.

`run_ends` puts this together. A run succeeds and prints the text of its result, or it
fails and prints nothing, or it is an analysis that prints its table and fails. For an
analysis the exit code, the last line and the tolerance agree, and what is reported is the
fault of the first step that fails.
-/

namespace CardShuffle

open scoped Nat
open CommandLine (Invocation)

universe u

/-- What keeps a source from dealing is an error of dealing. -/
theorem Run.exists_of_dealFrom_eq_error {σ : Type u} [RandomSource σ] {source : σ}
    {settings : Settings} {error : RunError} (refused : dealFrom source settings = .error error) :
    ∃ reason, error = .dealing reason := by
  unfold dealFrom at refused
  cases dealt : (Service.deal settings 0 (⟨source, {}⟩ : Session σ)).1 with
  | error reason =>
      rw [dealt] at refused
      exact ⟨reason, (Except.error.inj refused).symm⟩
  | ok answer =>
      rw [dealt] at refused
      cases refused

/-- A deal that has no text reports an error of dealing. -/
theorem Run.exists_of_shuffle_eq_error {σ : Type u} [RandomSource σ] {entropy : σ}
    {settings : Settings} {json : Bool} {error : RunError}
    (refused : shuffle entropy settings json = .error error) :
    ∃ reason, error = .dealing reason := by
  cases dealt : deal entropy settings with
  | ok deck => simp [shuffle, dealt, Except.map] at refused
  | error other =>
      obtain rfl : other = error := by simpa [shuffle, dealt, Except.map] using refused
      unfold deal at dealt
      cases seeded : settings.seed with
      | none =>
          rw [seeded] at dealt
          exact exists_of_dealFrom_eq_error dealt
      | some seed =>
          rw [seeded] at dealt
          exact exists_of_dealFrom_eq_error dealt

/-- An analysis that has no verdict and no fault reports the error of analysing. -/
theorem Run.exists_of_analyze_eq_error {settings : Settings} {error : RunError}
    (refused : analyze settings = .error (.error error)) :
    ∃ reason, error = .analysing reason := by
  obtain ⟨reason, -, rfl⟩ := Stop.restate_eq_error_iff.mp (analyze_eq_error_iff.mp refused)
  exact ⟨reason, rfl⟩

namespace Program

/-! ## The steps of a run -/

/-- The log filter of a run, from its environment and its options. -/
def filterOf (environment : Environment) (invocation : Invocation) :
    Except (Stop FilterFault) LogFilter :=
  ((Telemetry.ofEnvironment environment).withLogLevel invocation.logLevel).filter environment

section

variable (environment : Environment) (files : Files) (invocation : Invocation)

/-- The log is set up and the base settings are loaded, so that the command is next. -/
structure Ready (base : Settings) : Prop where
  filtered : ∃ filter, filterOf environment invocation = .ok filter
  loaded : loadBase files invocation.config = .ok base

/-- A deal is next, under settings that have been accepted. -/
structure Deals (flags : ShuffleFlags) (settings : Settings) : Prop where
  called : invocation.command = .shuffle flags
  resolved : ∃ base, Ready environment files invocation base ∧ flags.resolve base = .ok settings

/-- An analysis is next, under settings that have been accepted. -/
structure Analyses (flags : AnalyzeFlags) (settings : Settings) : Prop where
  called : invocation.command = .analyze flags
  resolved : ∃ base, Ready environment files invocation base ∧ flags.resolve base = .ok settings

variable {σ : Type u} [RandomSource σ] (entropy : σ)

/-- The endings of a run, each with the step that decides it. -/
inductive Ends : Ending -> Prop where
  /-- Reading a log filter has no result. -/
  | noFilter (stopped : filterOf environment invocation = .error .fault) : Ends .fault
  /-- The log filter is refused. -/
  | logging {fault : FilterFault}
      (refused : filterOf environment invocation = .error (.error fault)) :
      Ends (.failed "" (.logging fault))
  /-- The settings file is refused. -/
  | loading {filter : LogFilter} {path : String} {error : SettingsError}
      (filtered : filterOf environment invocation = .ok filter)
      (named : invocation.config = some path) (refused : Settings.load files path = .error error) :
      Ends (.failed "" (.loading path error))
  /-- The settings for a deal are refused. -/
  | shuffleSettings {base : Settings} {flags : ShuffleFlags} {error : SettingsError}
      (ready : Ready environment files invocation base)
      (called : invocation.command = .shuffle flags) (refused : flags.resolve base = .error error) :
      Ends (.failed "" (.shuffleSettings error))
  /-- The settings for an analysis are refused. -/
  | analysisSettings {base : Settings} {flags : AnalyzeFlags} {error : SettingsError}
      (ready : Ready environment files invocation base)
      (called : invocation.command = .analyze flags) (refused : flags.resolve base = .error error) :
      Ends (.failed "" (.analysisSettings error))
  /-- No deck is dealt. -/
  | dealing {flags : ShuffleFlags} {settings : Settings} {error : ShuffleError}
      (deals : Deals environment files invocation flags settings)
      (refused : Run.shuffle entropy settings flags.json = .error (.dealing error)) :
      Ends (.failed "" (.dealing error))
  /-- A deck is dealt. -/
  | dealt {flags : ShuffleFlags} {settings : Settings} {text : String}
      (deals : Deals environment files invocation flags settings)
      (answered : Run.shuffle entropy settings flags.json = .ok text) :
      Ends (.finished (text ++ "\n"))
  /-- A number of the analysis is no word. -/
  | noReport {flags : AnalyzeFlags} {settings : Settings}
      (analyses : Analyses environment files invocation flags settings)
      (stopped : Run.analyze settings = .error .fault) : Ends .fault
  /-- The analysis fails. -/
  | analysing {flags : AnalyzeFlags} {settings : Settings} {error : ShuffleError}
      (analyses : Analyses environment files invocation flags settings)
      (refused : Run.analyze settings = .error (.error (.analysing error))) :
      Ends (.failed "" (.analysing error))
  /-- The shuffle is within the tolerance. -/
  | passed {flags : AnalyzeFlags} {settings : Settings} {text : String}
      (analyses : Analyses environment files invocation flags settings)
      (answered : Run.analyze settings = .ok ⟨text, true⟩) : Ends (.finished (text ++ "\n"))
  /-- The shuffle is outside the tolerance. -/
  | biased {flags : AnalyzeFlags} {settings : Settings} {text : String}
      (analyses : Analyses environment files invocation flags settings)
      (answered : Run.analyze settings = .ok ⟨text, false⟩) :
      Ends (.failed (text ++ "\n") .outsideTolerance)

end

section

variable {environment : Environment} {files : Files} {invocation : Invocation} {base : Settings}
variable {σ : Type u} [RandomSource σ] {entropy : σ}

/-- The log of a run is set up with its log filter. -/
theorem logFilter_eq (environment : Environment) (invocation : Invocation) :
    logFilter environment invocation.logLevel =
      Stop.restate .logging (filterOf environment invocation) :=
  rfl

/-- A run that has come to its command carries it out. -/
theorem Ready.execute_eq (ready : Ready environment files invocation base) (entropy : σ) :
    execute environment files entropy invocation = carryOut entropy base invocation.command := by
  obtain ⟨⟨filter, filtered⟩, loaded⟩ := ready
  simp [execute, logFilter_eq, filtered, loaded, Stop.restate]

/-- Settings for a deal that are refused end the run. -/
theorem carryOut_shuffle_of_refused {flags : ShuffleFlags} {error : SettingsError}
    (refused : flags.resolve base = .error error) :
    carryOut entropy base (.shuffle flags) = .failed "" (.shuffleSettings error) := by
  simp [carryOut, shuffle, refused, Except.mapError, bind, Except.bind]

/-- Under accepted settings the text of a deal is printed, or its error reported. -/
theorem carryOut_shuffle {flags : ShuffleFlags} {settings : Settings}
    (resolved : flags.resolve base = .ok settings) :
    carryOut entropy base (.shuffle flags) =
      match Run.shuffle entropy settings flags.json with
      | .ok text => printed text
      | .error error => .failed "" error := by
  cases answered : Run.shuffle entropy settings flags.json with
  | error error =>
      simp [carryOut, shuffle, resolved, answered, Except.mapError, bind, Except.bind]
  | ok text =>
      simp [carryOut, shuffle, resolved, answered, Except.mapError, bind, Except.bind]

/-- Settings for an analysis that are refused end the run. -/
theorem carryOut_analyze_of_refused {flags : AnalyzeFlags} {error : SettingsError}
    (refused : flags.resolve base = .error error) :
    carryOut entropy base (.analyze flags) = .failed "" (.analysisSettings error) := by
  simp [carryOut, analyze, refused, Except.mapError, Stop.lift, Stop.report, Ending.stopped,
    bind, Except.bind]

/-- Under accepted settings the verdict of an analysis is passed on, or the analysis stops. -/
theorem carryOut_analyze {flags : AnalyzeFlags} {settings : Settings}
    (resolved : flags.resolve base = .ok settings) :
    carryOut entropy base (.analyze flags) =
      match Run.analyze settings with
      | .ok verdict => concluded verdict
      | .error stop => .stopped stop := by
  cases answered : Run.analyze settings with
  | error stop =>
      simp [carryOut, analyze, resolved, answered, Except.mapError, Stop.lift, bind, Except.bind]
  | ok verdict =>
      simp [carryOut, analyze, resolved, answered, Except.mapError, Stop.lift, bind, Except.bind]

/-- A run that deals prints the text of the deal, or reports its error. -/
theorem Deals.execute_eq {flags : ShuffleFlags} {settings : Settings}
    (deals : Deals environment files invocation flags settings) (entropy : σ) :
    execute environment files entropy invocation =
      match Run.shuffle entropy settings flags.json with
      | .ok text => printed text
      | .error error => .failed "" error := by
  obtain ⟨called, base, ready, resolved⟩ := deals
  rw [ready.execute_eq, called, carryOut_shuffle resolved]

/-- A run that analyses passes the verdict on, or stops with the analysis. -/
theorem Analyses.execute_eq {flags : AnalyzeFlags} {settings : Settings}
    (analyses : Analyses environment files invocation flags settings) (entropy : σ) :
    execute environment files entropy invocation =
      match Run.analyze settings with
      | .ok verdict => concluded verdict
      | .error stop => .stopped stop := by
  obtain ⟨called, base, ready, resolved⟩ := analyses
  rw [ready.execute_eq, called, carryOut_analyze resolved]

/-- A run that has come to its command ends in one of the ways there are. -/
theorem Ready.ends (ready : Ready environment files invocation base) (entropy : σ) :
    Ends environment files invocation entropy (execute environment files entropy invocation) := by
  cases called : invocation.command with
  | shuffle flags =>
      cases resolved : flags.resolve base with
      | error error =>
          rw [ready.execute_eq, called, carryOut_shuffle_of_refused resolved]
          exact .shuffleSettings ready called resolved
      | ok settings =>
          have deals : Deals environment files invocation flags settings :=
            ⟨called, base, ready, resolved⟩
          rw [deals.execute_eq]
          cases answered : Run.shuffle entropy settings flags.json with
          | error error =>
              obtain ⟨reason, rfl⟩ := Run.exists_of_shuffle_eq_error answered
              exact .dealing deals answered
          | ok text => exact .dealt deals answered
  | analyze flags =>
      cases resolved : flags.resolve base with
      | error error =>
          rw [ready.execute_eq, called, carryOut_analyze_of_refused resolved]
          exact .analysisSettings ready called resolved
      | ok settings =>
          have analyses : Analyses environment files invocation flags settings :=
            ⟨called, base, ready, resolved⟩
          rw [analyses.execute_eq]
          rcases answered : Run.analyze settings with (_ | error) | ⟨text, _ | _⟩
          · exact .noReport analyses answered
          · obtain ⟨reason, rfl⟩ := Run.exists_of_analyze_eq_error answered
            exact .analysing analyses answered
          · exact .biased analyses answered
          · exact .passed analyses answered

/-- A run ends in one of the ways there are. -/
theorem ends_execute :
    Ends environment files invocation entropy (execute environment files entropy invocation) := by
  cases filtered : filterOf environment invocation with
  | error stop =>
      rw [execute, logFilter_eq, filtered]
      cases stop with
      | fault => exact .noFilter filtered
      | error fault => exact .logging filtered
  | ok filter =>
      cases loaded : loadBase files invocation.config with
      | error error =>
          rw [execute, logFilter_eq, filtered]
          simp only [Stop.restate, loaded]
          cases named : invocation.config with
          | none => simp [named, loadBase] at loaded
          | some path =>
              rw [named] at loaded
              obtain ⟨reason, refused, rfl⟩ := mapError_eq_error_iff.mp loaded
              exact .loading filtered named refused
      | ok base =>
          have ready : Ready environment files invocation base := ⟨⟨filter, filtered⟩, loaded⟩
          exact ready.ends entropy

/-- What a step leads to is how the run ends. -/
theorem Ends.eq_execute {ending : Ending}
    (ends : Ends environment files invocation entropy ending) :
    ending = execute environment files entropy invocation := by
  cases ends with
  | noFilter stopped =>
      rw [execute, logFilter_eq, stopped]
      rfl
  | logging refused =>
      rw [execute, logFilter_eq, refused]
      rfl
  | loading filtered named refused =>
      rw [execute, logFilter_eq, filtered, named]
      simp [Stop.restate, loadBase, refused, Except.mapError]
  | shuffleSettings ready called refused =>
      rw [ready.execute_eq, called, carryOut_shuffle_of_refused refused]
  | analysisSettings ready called refused =>
      rw [ready.execute_eq, called, carryOut_analyze_of_refused refused]
  | dealing deals refused =>
      rw [deals.execute_eq, refused]
  | dealt deals answered =>
      rw [deals.execute_eq, answered]
      rfl
  | noReport analyses stopped =>
      rw [analyses.execute_eq, stopped]
      rfl
  | analysing analyses refused =>
      rw [analyses.execute_eq, refused]
      rfl
  | passed analyses answered =>
      rw [analyses.execute_eq, answered]
      rfl
  | biased analyses answered =>
      rw [analyses.execute_eq, answered]
      rfl

/-- A run ends in the ways there are, and in no other way. -/
theorem ends_iff {ending : Ending} :
    Ends environment files invocation entropy ending ↔
      ending = execute environment files entropy invocation := by
  constructor
  · intro ends
    exact ends.eq_execute
  · rintro rfl
    exact ends_execute

end

/-! ## Ways of ending -/

/-- The ways a run can end, as they are seen from outside. -/
inductive Way where
  /-- The result is printed. -/
  | done
  /-- Nothing is printed, and the run fails. -/
  | silent
  /-- The table of an analysis is printed, and the run fails. -/
  | biased
  deriving DecidableEq

section

variable (environment : Environment) (files : Files) (invocation : Invocation)
variable {σ : Type u} [RandomSource σ] (entropy : σ)

/-- A text is the result of a command that succeeds. -/
inductive Answers (text : String) : Prop where
  | deal {flags : ShuffleFlags} {settings : Settings}
      (deals : Deals environment files invocation flags settings)
      (answered : Run.shuffle entropy settings flags.json = .ok text)
  | analysis {flags : AnalyzeFlags} {settings : Settings}
      (analyses : Analyses environment files invocation flags settings)
      (answered : Run.analyze settings = .ok ⟨text, true⟩)

/-- What is seen of a run that ends in a way. -/
def Way.Shows (ending : Ending) : Way -> Prop
  | done =>
      ending.exitCode = 0 ∧
        ∃ text, Answers environment files invocation entropy text ∧ ending.output = text ++ "\n"
  | silent => ending.exitCode ≠ 0 ∧ ending.output = ""
  | biased =>
      ending.exitCode ≠ 0 ∧
        ∃ flags settings text, Analyses environment files invocation flags settings ∧
          Run.analyze settings = .ok ⟨text, false⟩ ∧ ending.output = text ++ "\n" ∧
          TableLines settings.analysis.items "BIASED" (outputLines ending.output)

/-- An analysis has a report, which is within the tolerance of the settings for it. -/
def Within (flags : AnalyzeFlags) : Prop :=
  ∃ settings report, Analyses environment files invocation flags settings ∧
    (Service.analyze settings settings.analysis {}).1 = .ok report ∧
    report.isWithin settings.analysis.tolerance = true

/-- A step before the command is blamed exactly when it fails and the steps before it do
not, and then nothing is printed. -/
structure Blames (ending : Ending) : Prop where
  logging : ∀ output fault, ending = .failed output (.logging fault) ↔
    output = "" ∧ filterOf environment invocation = .error (.error fault)
  loading : ∀ output path error, ending = .failed output (.loading path error) ↔
    output = "" ∧ (∃ filter, filterOf environment invocation = .ok filter) ∧
      invocation.config = some path ∧ Settings.load files path = .error error
  shuffleSettings : ∀ output error, ending = .failed output (.shuffleSettings error) ↔
    output = "" ∧ ∃ base flags, Ready environment files invocation base ∧
      invocation.command = .shuffle flags ∧ flags.resolve base = .error error
  analysisSettings : ∀ output error, ending = .failed output (.analysisSettings error) ↔
    output = "" ∧ ∃ base flags, Ready environment files invocation base ∧
      invocation.command = .analyze flags ∧ flags.resolve base = .error error

end

section

variable {environment : Environment} {files : Files} {invocation : Invocation}
variable {σ : Type u} [RandomSource σ] {entropy : σ} {ending : Ending}

/-- What is seen of a run tells the way it ends. -/
theorem Way.eq_of_shows {way other : Way}
    (shows : way.Shows environment files invocation entropy ending)
    (showsOther : other.Shows environment files invocation entropy ending) : way = other := by
  have printed : ∀ text : String, text ++ "\n" ≠ "" := by simp
  cases way with
  | done =>
      cases other with
      | done => rfl
      | silent => exact absurd shows.1 showsOther.1
      | biased => exact absurd shows.1 showsOther.1
  | silent =>
      cases other with
      | done => exact absurd showsOther.1 shows.1
      | silent => rfl
      | biased =>
          obtain ⟨-, flags, settings, text, -, -, output, -⟩ := showsOther
          exact absurd (output.symm.trans shows.2) (printed text)
  | biased =>
      cases other with
      | done => exact absurd showsOther.1 shows.1
      | silent =>
          obtain ⟨-, flags, settings, text, -, -, output, -⟩ := shows
          exact absurd (output.symm.trans showsOther.2) (printed text)
      | biased => rfl

/-- Every run ends in a way. -/
theorem Ends.exists_way (ends : Ends environment files invocation entropy ending) :
    ∃ way : Way, way.Shows environment files invocation entropy ending := by
  cases ends with
  | noFilter | noReport => exact ⟨.silent, by decide, rfl⟩
  | logging | loading | shuffleSettings | analysisSettings | dealing | analysing =>
      exact ⟨.silent, Nat.one_ne_zero, rfl⟩
  | dealt deals answered => exact ⟨.done, rfl, _, .deal deals answered, rfl⟩
  | passed analyses answered => exact ⟨.done, rfl, _, .analysis analyses answered, rfl⟩
  | @biased flags settings text analyses answered =>
      obtain ⟨report, reported, -, written⟩ := Run.analyze_eq_ok_iff.mp answered
      obtain ⟨table, writtenAgain, complete⟩ := Run.exists_table_of_report reported false
      obtain rfl : text = table := Option.some.inj (written.symm.trans writtenAgain)
      exact ⟨.biased, Nat.one_ne_zero, flags, settings, text, analyses, answered, rfl, complete⟩

/-- The step that is decisive is the one that is blamed. -/
theorem Ends.blames (ends : Ends environment files invocation entropy ending) :
    Blames environment files invocation ending where
  logging output fault := by
    constructor
    · rintro rfl
      cases ends with
      | logging refused => exact ⟨rfl, refused⟩
    · rintro ⟨rfl, refused⟩
      rw [ends.eq_execute]
      exact (Ends.logging refused).eq_execute.symm
  loading output path error := by
    constructor
    · rintro rfl
      cases ends with
      | loading filtered named refused => exact ⟨rfl, ⟨_, filtered⟩, named, refused⟩
    · rintro ⟨rfl, ⟨filter, filtered⟩, named, refused⟩
      rw [ends.eq_execute]
      exact (Ends.loading filtered named refused).eq_execute.symm
  shuffleSettings output error := by
    constructor
    · rintro rfl
      cases ends with
      | shuffleSettings ready called refused => exact ⟨rfl, _, _, ready, called, refused⟩
    · rintro ⟨rfl, base, flags, ready, called, refused⟩
      rw [ends.eq_execute]
      exact (Ends.shuffleSettings ready called refused).eq_execute.symm
  analysisSettings output error := by
    constructor
    · rintro rfl
      cases ends with
      | analysisSettings ready called refused => exact ⟨rfl, _, _, ready, called, refused⟩
    · rintro ⟨rfl, base, flags, ready, called, refused⟩
      rw [ends.eq_execute]
      exact (Ends.analysisSettings ready called refused).eq_execute.symm

/-- An analysis within the tolerance succeeds, and the last line says that it is uniform. -/
theorem Ends.of_within {flags : AnalyzeFlags}
    (ends : Ends environment files invocation entropy ending)
    (within : Within environment files invocation flags) :
    ending.exitCode = 0 ∧ (outputLines ending.output).getLast? = some "UNIFORM" := by
  obtain ⟨settings, report, analyses, reported, passes⟩ := within
  obtain ⟨text, written, table⟩ := Run.exists_table_of_report reported true
  have answered : Run.analyze settings = .ok ⟨text, true⟩ :=
    Run.analyze_eq_ok_iff.mpr ⟨report, reported, passes, written⟩
  obtain rfl : ending = .finished (text ++ "\n") :=
    ends.eq_execute.trans (Ends.passed analyses answered).eq_execute.symm
  exact ⟨rfl, table.getLast?_eq⟩

/-- An analysis that is not within the tolerance fails, and the last line does not say that
it is uniform. -/
theorem Ends.within {flags : AnalyzeFlags} (ends : Ends environment files invocation entropy ending)
    (called : invocation.command = .analyze flags)
    (seen : ending.exitCode = 0 ∨ (outputLines ending.output).getLast? = some "UNIFORM") :
    Within environment files invocation flags := by
  obtain ⟨way, shows⟩ := ends.exists_way
  cases way with
  | done =>
      obtain ⟨-, text, answers, -⟩ := shows
      cases answers with
      | deal deals answered => cases called.symm.trans deals.called
      | @analysis flags settings analyses answered =>
          cases called.symm.trans analyses.called
          obtain ⟨report, reported, passes, -⟩ := Run.analyze_eq_ok_iff.mp answered
          exact ⟨settings, report, analyses, reported, passes⟩
  | silent =>
      obtain ⟨failed, silent⟩ := shows
      rw [silent] at seen
      exact absurd seen (by simp [failed, outputLines])
  | biased =>
      obtain ⟨failed, flags, settings, text, -, -, -, table⟩ := shows
      rw [table.getLast?_eq] at seen
      exact absurd seen (by simp [failed])

/-- A run of a command line that was read ends in exactly one of three ways. Its exit code
is zero and its output is the text of the result and a line break; or the exit code is
another one and there is no output; or the exit code is another one and the output is the
complete table of an analysis, with `BIASED` as its last line.

An analysis has the exit code zero exactly when the last line is `UNIFORM`, and exactly when
there is a report, which is within the tolerance of the settings that the flags were
resolved to. A log filter that is refused is blamed before a settings file, and a settings
file before the flags, and nothing is printed then. -/
theorem run_ends {arguments : List String} (entropy : σ)
    (parsed : Program.invocation environment arguments = .ok invocation) :
    let ending := run environment files entropy arguments
    (∃! way : Way, way.Shows environment files invocation entropy ending) ∧
      (∀ flags, invocation.command = .analyze flags →
        (ending.exitCode = 0 ↔ (outputLines ending.output).getLast? = some "UNIFORM") ∧
        (ending.exitCode = 0 ↔ Within environment files invocation flags)) ∧
      Blames environment files invocation ending := by
  intro ending
  have ends : Ends environment files invocation entropy ending := by
    have carried : ending = execute environment files entropy invocation := by
      simp only [ending, run, parsed]
    exact ends_iff.mpr carried
  obtain ⟨way, shows⟩ := ends.exists_way
  refine ⟨⟨way, shows, fun other showsOther => Way.eq_of_shows showsOther shows⟩, ?_, ends.blames⟩
  intro flags called
  refine ⟨⟨fun zero => ?_, fun last => ?_⟩, fun zero => ?_, fun within => ?_⟩
  · exact (ends.of_within (ends.within called (.inl zero))).2
  · exact (ends.of_within (ends.within called (.inr last))).1
  · exact ends.within called (.inl zero)
  · exact (ends.of_within within).1

/-- A log filter, a settings file and a number of items are all at fault. -/
theorem run_ends_three_faults :
    let environment : Environment := fun _ => none
    let files : Files := fun _ => .error .notFound
    let arguments :=
      ["--config", "missing.toml", "--log-level", "[", "analyze", "--items", "20"]
    let invocation : Invocation :=
      ⟨some "missing.toml", some "[", .analyze { items := some 20 }⟩
    Program.invocation environment arguments = .ok invocation ∧
      run environment files FixedSource.first arguments = .failed "" (.logging .directive) ∧
      (run environment files FixedSource.first arguments).exitCode ≠ 0 := by
  intro environment files arguments invocation
  have parsed : Program.invocation environment arguments = .ok invocation := rfl
  have refused : filterOf environment invocation = .error (.error .directive) :=
    (rfl : LogFilter.ofText "[" = .error (.error .directive))
  have blames : Blames environment files invocation
      (run environment files FixedSource.first arguments) :=
    (run_ends FixedSource.first parsed).2.2
  have blamed := (blames.logging "" .directive).mpr ⟨rfl, refused⟩
  refine ⟨parsed, blamed, ?_⟩
  rw [blamed]
  decide

end

end Program

end CardShuffle
