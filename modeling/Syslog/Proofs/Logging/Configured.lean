import Syslog.Logging.Emission
import Syslog.Proofs.Event.Composed

namespace Syslog

/-!
# How logging is set up

Setting logging up changes the settings, the pipeline of the structured path, the level of the
root and of other loggers, and the handlers, one after the other.  All ways in which a call can end
are spelt out here, with all that it has changed by then (`Process.Configures`,
`Process.SetsUp`), and nothing that is said of such calls elsewhere looks into the steps again.

The renderers of a call are told an application and a facility, and no name for the element of
parameters.  The name they fall back on is valid under any cap, and so it does not matter that the
settings may have changed between the first renderer and the one for the file: what the first
one was given suits the second as well.
-/

namespace Renderer

variable {identity : Identity} {settings : Settings} {given facility : Value} {renderer : Renderer}
  {fault : ConfigurationFault}

/-- What a renderer holds that has been told an application and a facility only. -/
structure IsNamed (identity : Identity) (given facility : Value) (renderer : Renderer) : Prop where
  appName : given.orText identity.appName = .text renderer.appName.text
  hostname : identity.hostname = renderer.hostname.text
  facility : renderer.facility = facility
  elementId : renderer.elementId.text = defaultElementId
  allowLongNames : renderer.allowLongNames = none

/-- The name that keeps such a renderer from being built: that of the application, or else that of
the machine. -/
inductive Refuses (identity : Identity) (given : Value) : ConfigurationFault → Prop
  | appName (improper : ¬(given.orText identity.appName).IsToken 48) :
      Refuses identity given (.rendererHeader "app_name" 48 (given.orText identity.appName))
  | hostname (proper : (given.orText identity.appName).IsToken 48)
      (improper : ¬(Value.text identity.hostname).IsToken 255) :
      Refuses identity given (.rendererHeader "hostname" 255 (.text identity.hostname))

theorem isName_defaultElementId (allowLong : Bool) : defaultElementId.isName allowLong = true := by
  cases allowLong <;> decide

theorem isNamed_iff :
    IsNamed identity given facility renderer ↔
      IsBuilt identity settings { appName := given, facility } renderer := by
  constructor
  · rintro ⟨appName, hostname, isFacility, elementId, allowLongNames⟩
    exact {
      appName
      hostname := congrArg Value.text hostname
      facility := isFacility
      elementId := congrArg Value.text elementId.symm
      isName := by
        rw [elementId]
        exact isName_defaultElementId _
      allowLongNames }
  · rintro ⟨appName, hostname, isFacility, elementId, _, allowLongNames⟩
    exact {
      appName
      hostname := Value.text.inj hostname
      facility := isFacility
      elementId := (Value.text.inj elementId).symm
      allowLongNames }

/-- Whether a renderer is built does not depend on the settings of the moment. -/
theorem ofOptions_eq_ok_iff_isNamed :
    ofOptions identity settings { appName := given, facility } = .ok renderer ↔
      IsNamed identity given facility renderer := by
  rw [ofOptions_eq_ok_iff, ← isNamed_iff]

theorem IsNamed.unique {other : Renderer} (named : IsNamed identity given facility renderer)
    (otherNamed : IsNamed identity given facility other) : renderer = other := by
  have built := @ofOptions_eq_ok_iff_isNamed identity {} given facility
  exact Except.ok.inj ((built.mpr named).symm.trans (built.mpr otherNamed))

theorem headerField_eq_error_iff {name : Text} {limit : Nat} {ofProcess : Text} :
    headerField name limit given ofProcess = .error fault ↔
      ¬(given.orText ofProcess).IsToken limit ∧
        fault = .rendererHeader name limit (given.orText ofProcess) := by
  rw [← Token.ofValue?_isSome_iff]
  cases given <;>
    · dsimp only [headerField, Value.orText]
      split
      · next found => simp [found]
      · next missing => simp [missing, eq_comm]

theorem exists_headerField_iff {name : Text} {limit : Nat} {ofProcess : Text} :
    (∃ token, headerField name limit given ofProcess = .ok token) ↔
      (given.orText ofProcess).IsToken limit := by
  simp only [headerField_eq_ok_iff, ← Token.ofValue?_isSome_iff, Option.isSome_iff_exists,
    Token.ofValue?_eq_some_iff]

/-- A renderer that is not built is refused for one of the two names. -/
theorem ofOptions_eq_error_iff :
    ofOptions identity settings { appName := given, facility } = .error fault ↔
      Refuses identity given fault := by
  rw [ofOptions, bind_eq_error_iff]
  constructor
  · rintro (refused | ⟨appName, isAppName, failed⟩)
    · rcases headerField_eq_error_iff.mp refused with ⟨improper, rfl⟩
      exact .appName improper
    · have proper := exists_headerField_iff.mp ⟨appName, isAppName⟩
      rcases bind_eq_error_iff.mp failed with refused | ⟨hostname, isHostname, failed⟩
      · rcases headerField_eq_error_iff.mp refused with ⟨improper, rfl⟩
        exact .hostname proper improper
      · split at failed
        · next missing =>
            rw [Name.ofValue?, dif_pos (isName_defaultElementId _)] at missing
            cases missing
        · cases failed
  · intro refuses
    cases refuses with
    | appName improper => exact Or.inl (headerField_eq_error_iff.mpr ⟨improper, rfl⟩)
    | hostname proper improper =>
        rcases exists_headerField_iff.mpr proper with ⟨appName, isAppName⟩
        refine Or.inr ⟨appName, isAppName, bind_eq_error_iff.mpr (Or.inl ?_)⟩
        exact headerField_eq_error_iff.mpr ⟨improper, rfl⟩

end Renderer

/-- The facility that the variables of a process name, if they name one. -/
def Environment.facility? (environment : Environment) : Option Facility :=
  Facility.ofKeyword? ((environment.get? "SYSLOG_FACILITY").getD "user")

/-- The path of the file to write to; without a file it is empty. -/
def Environment.logPath (environment : Environment) : Text :=
  (environment.get? "LOG_PATH").getD []

/-- What an application asks for, together with what the variables of its process say. -/
def SetupOptions.loggingOptions (environment : Environment) (facility : Facility)
    (options : SetupOptions) : LoggingOptions where
  appName := options.appName
  level := .text ((environment.get? "LOG_LEVEL").getD "INFO")
  facility := .int facility.code
  allowLongNames := some (Settings.ofEnvironment environment).allowLongNames

namespace Process

/-- Gives each of the loggers the level of warnings. -/
def quieted (process : Process) (names : List Text) : Process :=
  { process with loggers := names.foldl (·.setLevel · Level.warning) process.loggers }

/-- The process whose logging has been configured, with the renderer and the threshold that the
options led to. -/
def configured (process : Process) (options : LoggingOptions) (renderer : Renderer)
    (threshold : Nat) : Process where
  settings := process.settings.configure options.allowLongNames
  pipeline := some { threshold, appName := renderer.appName.text }
  loggers := { process.loggers with rootLevel := threshold }
  handlers := (if options.clearHandlers then [] else process.handlers) ++
    [{ sink := options.sink, renderer, appName := renderer.appName.text }]

/-- The ways in which the configuration ends: refused for a name, with the process as it was;
without a threshold, when only the settings have changed; or completed. -/
inductive Configures (identity : Identity) (process : Process) (options : LoggingOptions) :
    Except Fault Unit → Process → Prop
  | refused {cause : ConfigurationFault}
      (refuses : Renderer.Refuses identity options.appName cause) :
      Configures identity process options (.error (.configuration cause)) process
  | levelless {renderer : Renderer} {fault : Fault}
      (named : renderer.IsNamed identity options.appName options.facility)
      (noLevel : thresholdOf options.level = .error fault) :
      Configures identity process options (.error fault)
        { process with settings := process.settings.configure options.allowLongNames }
  | completed {renderer : Renderer} {threshold : Nat}
      (named : renderer.IsNamed identity options.appName options.facility)
      (level : thresholdOf options.level = .ok threshold) :
      Configures identity process options (.ok ())
        (process.configured options renderer threshold)

/-- The ways in which the set-up by an application ends.  The file comes last, and is not refused
for a name any more. -/
inductive SetsUp (identity : Identity) (environment : Environment) (process : Process)
    (options : SetupOptions) : Except Fault Unit → Process → Prop
  | unknown (unknown : environment.facility? = none) :
      SetsUp identity environment process options
        (.error (.configuration (.unknownFacility
          ((environment.get? "SYSLOG_FACILITY").getD "user")))) process
  | failed {facility : Facility} {fault : Fault} {next : Process}
      (known : environment.facility? = some facility)
      (fails : Configures identity process (options.loggingOptions environment facility)
        (.error fault) next) :
      SetsUp identity environment process options (.error fault) next
  | completed {facility : Facility} {next : Process}
      (known : environment.facility? = some facility)
      (configures : Configures identity process (options.loggingOptions environment facility)
        (.ok ()) next)
      (noFile : environment.logPath = []) :
      SetsUp identity environment process options (.ok ()) (next.quieted options.quietLoggers)
  | fileless {facility : Facility} {next : Process}
      (known : environment.facility? = some facility)
      (configures : Configures identity process (options.loggingOptions environment facility)
        (.ok ()) next)
      (isFile : environment.logPath ≠ [])
      (unwritable : options.isWritable environment.logPath = false) :
      SetsUp identity environment process options (.error (.missingFile environment.logPath))
        (next.quieted options.quietLoggers)
  | filed {facility : Facility} {next : Process} {renderer : Renderer}
      (known : environment.facility? = some facility)
      (configures : Configures identity process (options.loggingOptions environment facility)
        (.ok ()) next)
      (isFile : environment.logPath ≠ [])
      (writable : options.isWritable environment.logPath = true)
      (named : renderer.IsNamed identity options.appName (.int facility.code)) :
      SetsUp identity environment process options (.ok ())
        { next.quieted options.quietLoggers with
          handlers := next.handlers ++ [{
            sink := .file
            renderer
            appName :=
              if options.appName.isEmpty then identity.appName else renderer.appName.text }] }

variable {identity : Identity} {environment : Environment} {process : Process}

/-- What goes wrong with a level is never put down to the configuration. -/
theorem ne_configuration_of_thresholdOf {level : Value} {fault : Fault}
    (failed : thresholdOf level = .error fault) (cause : ConfigurationFault) :
    fault ≠ .configuration cause := by
  rintro rfl
  rcases bind_eq_error_iff.mp failed with meaningless | ⟨meaning, _, failed⟩
  · cases level with
    | octets kind _ => cases kind <;> cases meaningless
    | _ => cases meaningless
  · cases meaning <;> cases failed

theorem configures (identity : Identity) (process : Process) (options : LoggingOptions) :
    Configures identity process options (process.configure identity options).1
      (process.configure identity options).2 := by
  rw [configure]
  cases built : Renderer.ofOptions identity process.settings
      { appName := options.appName, facility := options.facility } with
  | error fault => exact .refused (Renderer.ofOptions_eq_error_iff.mp built)
  | ok renderer =>
      have named := Renderer.ofOptions_eq_ok_iff_isNamed.mp built
      dsimp only
      cases level : thresholdOf options.level with
      | error fault => exact .levelless named level
      | ok threshold => exact .completed named level

theorem setsUp (identity : Identity) (environment : Environment) (process : Process)
    (options : SetupOptions) :
    SetsUp identity environment process options
      (process.setUp identity environment options).1
      (process.setUp identity environment options).2 := by
  rw [setUp]
  dsimp only
  split
  · next unknown => exact .unknown unknown
  · next facility known =>
      have configures := process.configures identity (options.loggingOptions environment facility)
      dsimp only [SetupOptions.loggingOptions] at configures
      split
      · next fault next outcome =>
          rw [outcome] at configures
          exact .failed known configures
      · next next outcome =>
          rw [outcome] at configures
          split
          · next noFile => exact .completed known configures (List.isEmpty_iff.mp noFile)
          · next isFile =>
              have isFile := fun noFile => isFile (List.isEmpty_iff.mpr noFile)
              split
              · next writable =>
                  have named : ∃ renderer,
                      Renderer.IsNamed identity options.appName (.int facility.code) renderer := by
                    cases configures with
                    | completed named _ => exact ⟨_, named⟩
                  rcases named with ⟨renderer, named⟩
                  rw [addFile, Renderer.ofOptions_eq_ok_iff_isNamed.mpr named]
                  exact .filed known configures isFile writable named
              · next unwritable =>
                  exact .fileless known configures isFile (Bool.eq_false_iff.mpr unwritable)

end Process

/-- A call that sets logging up. -/
inductive SetUpCall
  | configure (options : LoggingOptions)
  | setUp (environment : Environment) (options : SetupOptions)

namespace SetUpCall

def perform (identity : Identity) (process : Process) : SetUpCall → Except Fault Unit × Process
  | .configure options => process.configure identity options
  | .setUp environment options => process.setUp identity environment options

end SetUpCall

end Syslog
