import Syslog.Event.Renderer
import Syslog.Logging.LoggerTree

namespace Syslog

/-!
The logging of a process, and how it is set up.

There are two paths to the handlers.  On the structured path entries are events from the start
and pass a threshold and a preparation shared by all handlers; on the plain path entries are
texts, and each handler prepares them itself.  A set-up call that is rejected because of a
name leaves everything as it was.
-/

/-- Where lines go. -/
inductive Sink
  | stream (number : Nat)
  | standardOutput
  | file
deriving DecidableEq

/-- The kind of handler that writes to a sink; files are rotated. -/
def Sink.handlerName : Sink → Text
  | .stream _ => "StreamHandler"
  | .standardOutput => "StreamHandler"
  | .file => "RotatingFileHandler"

/-- A handler, with the application that it ascribes plain entries to. -/
structure Handler where
  sink : Sink
  renderer : Renderer
  appName : Text

/-- What structured entries go through before they reach the handlers. -/
structure Pipeline where
  threshold : Nat
  appName : Text

structure Process where
  settings : Settings := {}
  /-- Without a pipeline, structured entries are written for people to read. -/
  pipeline : Option Pipeline := none
  handlers : List Handler := []
  loggers : LoggerTree := {}

/-- What can be asked for when logging is configured. -/
structure LoggingOptions where
  appName : Value := .null
  level : Value := .text "INFO"
  facility : Value := .int Facility.user.code
  sink : Sink := .standardOutput
  clearHandlers : Bool := true
  allowLongNames : Option Bool := none

/-- What an application asks for; all else comes from the variables of the process. -/
structure SetupOptions where
  appName : Value := .null
  quietLoggers : List Text := []
  /-- Whether the file of a path can be written to. -/
  isWritable : Text → Bool := fun _ => true

namespace Process

/-- The level that structured entries must have, if the name of the level stands for one. -/
def thresholdOf (name : Value) : Except Fault Nat := do
  match ← name.levelMeaning with
  | .number level => return level
  | .template text => .error (.missingKey (.text text))
  | .styles => .error (.unhashable "dict")

/-- Configures both paths and adds a handler.  The settings change before the level is known. -/
def configure (identity : Identity) (process : Process) (options : LoggingOptions) :
    Except Fault Unit × Process :=
  let rendererOptions := { appName := options.appName, facility := options.facility }
  match Renderer.ofOptions identity process.settings rendererOptions with
  | .error fault => (.error (.configuration fault), process)
  | .ok renderer =>
    let process := { process with settings := process.settings.configure options.allowLongNames }
    match thresholdOf options.level with
    | .error fault => (.error fault, process)
    | .ok threshold =>
      let appName := renderer.appName.text
      let kept := if options.clearHandlers then [] else process.handlers
      (.ok (), { process with
        pipeline := some { threshold, appName }
        loggers := { process.loggers with rootLevel := threshold }
        handlers := kept ++ [{ sink := options.sink, renderer, appName }] })

/-- Adds a handler for a file.  Plain entries are ascribed to the process if the name is empty. -/
def addFile (identity : Identity) (process : Process) (appName facility : Value) :
    Except Fault Unit × Process :=
  match Renderer.ofOptions identity process.settings { appName, facility } with
  | .error fault => (.error (.configuration fault), process)
  | .ok renderer =>
    let ascribed := if appName.isEmpty then identity.appName else renderer.appName.text
    (.ok (), { process with
      handlers := process.handlers ++ [{ sink := .file, renderer, appName := ascribed }] })

/-- Sets logging up from the variables of the process: level, facility, settings and file. -/
def setUp (identity : Identity) (environment : Environment) (process : Process)
    (options : SetupOptions) : Except Fault Unit × Process :=
  let keyword := (environment.get? "SYSLOG_FACILITY").getD "user"
  match Facility.ofKeyword? keyword with
  | none => (.error (.configuration (.unknownFacility keyword)), process)
  | some facility =>
    let facility := Value.int facility.code
    let settings := Settings.ofEnvironment environment
    let configured := process.configure identity {
      appName := options.appName
      level := .text ((environment.get? "LOG_LEVEL").getD "INFO")
      facility
      allowLongNames := some settings.allowLongNames }
    match configured with
    | (.error fault, process) => (.error fault, process)
    | (.ok (), process) =>
      let loggers := options.quietLoggers.foldl (·.setLevel · Level.warning) process.loggers
      let process := { process with loggers }
      let path := (environment.get? "LOG_PATH").getD []
      if path.isEmpty then (.ok (), process)
      else if options.isWritable path then process.addFile identity options.appName facility
      else (.error (.missingFile path), process)

end Process

end Syslog
