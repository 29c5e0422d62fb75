import Syslog.Logging.Emission
import Syslog.Record.Registry

namespace Syslog

/-!
A session: one process that configures, encodes, reflects and logs.

The state of a session is what later answers can depend on.  There are two registries, one of
the session's own and one that is shared by the whole process; the reflector of the own one
notes which types it is asked for, and may be *re-entrant*: it then first asks the registry for
the very type that it was asked for.
-/

/-- A field map that has been derived; two derivations differ in their serial numbers. -/
structure Reflected where
  serial : Nat
  map : FieldMap
deriving DecidableEq

/-- The registry that a request is about. -/
inductive RegistryChoice
  | own
  | shared
deriving DecidableEq

/-- The logger that reports derivations. -/
def reflectionLogger : Text := "structsyslog.reflection"

structure Session where
  origin : Origin
  types : List Classifier := []
  reentrant : Bool := false
  /-- At first there is no logger but the one for derivations. -/
  process : Process := { loggers := ({} : LoggerTree).create reflectionLogger }
  own : Registry Nat Reflected := .empty
  shared : Registry Nat Reflected := .empty
  /-- The types that the own reflector was asked for. -/
  calls : List Nat := []
  /-- The serial number of the next derivation. -/
  nextSerial : Nat := 0
  /-- The serial numbers of derivations in the order in which they became known. -/
  known : List Nat := []
  renderers : List (Text × Renderer) := []
  /-- How many streams have been opened. -/
  streams : Nat := 0
  /-- What has been logged by the present request. -/
  emission : Emission := {}

inductive Request
  | settings
  | configure (allowLongNames : Option Bool)
  | reset
  | environment (environment : Environment)
  | validate (message : Message) (allowLongNames : Option Bool)
  | marshal (message : Message) (allowLongNames : Option Bool)
  | marshalRecord (choice : RegistryChoice) (type : Nat) (values : List Value)
      (allowLongNames : Option Bool)
  | fieldMap (choice : RegistryChoice) (type : Nat)
  | register (choice : RegistryChoice) (type : Nat)
  | contains (choice : RegistryChoice) (type : Nat)
  | size (choice : RegistryChoice)
  | clear (choice : RegistryChoice)
  | calls
  | buildRenderer (name : Text) (options : RendererOptions)
  | render (name : Text) (method : Text) (event : Event)
  | configureLogging (options : LoggingOptions) (toStandardOutput : Bool)
  | setUpLogging (environment : Environment) (options : SetupOptions)
  | state
  | logStructured (entry : StructuredEntry)
  | logPlain (entry : PlainEntry)

/-- The visible state of logging. -/
structure LoggingState where
  rootLevel : Nat
  handlers : List Text
  allowLongNames : Bool

inductive Answer
  | done
  | settings (settings : Settings)
  | octets (octets : Bytes)
  | fieldMap (number : Nat) (map : FieldMap)
  | truth (value : Bool)
  | count (value : Nat)
  | types (types : List Nat)
  | line (line : Text)
  | state (state : LoggingState)
  /-- The state, and the levels of the loggers that were to be quiet. -/
  | setUp (state : LoggingState) (levels : List Nat)

def Process.visibleState (process : Process) : LoggingState where
  rootLevel := process.loggers.rootLevel
  handlers := process.handlers.map (·.sink.handlerName)
  allowLongNames := process.settings.allowLongNames

namespace Session

def classifier (session : Session) (type : Nat) : Classifier :=
  session.types[type]?.getD (.other [])

/-- Derives the field map of a type, and reports it on the plain path. -/
def reflect (session : Session) (type : Nat) : Except Fault Reflected × Session :=
  match (session.classifier type).reflect session.origin.identity with
  | .error fault => (.error (.configuration fault), session)
  | .ok map =>
    let report := session.process.logPlain session.origin {
      logger := reflectionLogger
      level := Level.debug
      message := .text map.summary }
    (.ok ⟨session.nextSerial, map⟩, { session with
      nextSerial := session.nextSerial + 1
      emission := .joined [session.emission, report] })

/-- Makes a derivation known, unless it is. -/
def noteSerial (session : Session) (serial : Nat) : Session :=
  if session.known.contains serial then session
  else { session with known := session.known ++ [serial] }

/-- The own reflector without re-entrance: it notes the call, and makes its answer known. -/
def reflectNoted (type : Nat) (session : Session) : Except Fault Reflected × Session :=
  match reflect { session with calls := session.calls ++ [type] } type with
  | (.error fault, session) => (.error fault, session)
  | (.ok found, session) => (.ok found, session.noteSerial found.serial)

def ownLookUp (reflector : Nat → Session → Except Fault Reflected × Session) (type : Nat)
    (session : Session) : Except Fault Reflected × Session :=
  Registry.lookUp own (fun registry session => { session with own := registry }) reflector type
    session

/-- The own reflector when it is re-entrant: before it derives, it looks the type up. -/
def reflectAgain (type : Nat) (session : Session) : Except Fault Reflected × Session :=
  match ownLookUp reflectNoted type { session with calls := session.calls ++ [type] } with
  | (.error fault, session) => (.error fault, session)
  | (.ok _, session) =>
    match session.reflect type with
    | (.error fault, session) => (.error fault, session)
    | (.ok found, session) => (.ok found, session.noteSerial found.serial)

/-- Looks a type up in one of the registries. -/
def lookUp (choice : RegistryChoice) (type : Nat) (session : Session) :
    Except Fault Reflected × Session :=
  match choice with
  | .own => ownLookUp (if session.reentrant then reflectAgain else reflectNoted) type session
  | .shared =>
    Registry.lookUp shared (fun registry session => { session with shared := registry })
      (fun type session => session.reflect type) type session

def registry (session : Session) : RegistryChoice → Registry Nat Reflected
  | .own => session.own
  | .shared => session.shared

/-- The subject that has the given values in the fields of a type. -/
def subject (classifier : Classifier) (values : List Value) : Except Fault Subject :=
  match classifier with
  | .record type =>
    match Record.ofValues? type values with
    | some record => .ok (.record record)
    | none => .error (.valueCount type values.length)
  | .recordItself record => .ok (.record record)
  | .value found => .ok (.value found)
  | .other name => .ok (.plain name)

/-- The message of a record of a type that is looked up. -/
def message (choice : RegistryChoice) (type : Nat) (values : List Value) (session : Session) :
    Except Fault Message × Session :=
  match subject (session.classifier type) values with
  | .error fault => (.error fault, session)
  | .ok subject =>
    let (found, session) := session.lookUp choice type
    let composed := do
      let reflected ← found
      subject.toMessage session.origin reflected.map
    (composed, session)

/-- The octets of such a message. -/
def marshalRecord (choice : RegistryChoice) (type : Nat) (values : List Value)
    (allowLongNames : Option Bool) (session : Session) : Except Fault Answer × Session :=
  let (composed, session) := session.message choice type values
  let answer := do
    let message ← composed
    let octets ← (message.marshal (session.process.settings.longNames allowLongNames)).mapError
      Fault.invalid
    return Answer.octets octets
  (answer, session)

def withProcess (session : Session) (answer : Except Fault Answer) (process : Process) :
    Except Fault Answer × Session :=
  (answer, { session with process })

def configureLogging (options : LoggingOptions) (toStandardOutput : Bool) (session : Session) :
    Except Fault Answer × Session :=
  let (sink, streams) :=
    if toStandardOutput then (Sink.standardOutput, session.streams)
    else (.stream session.streams, session.streams + 1)
  let (outcome, process) :=
    session.process.configure session.origin.identity { options with sink }
  (outcome.map fun () => .state process.visibleState, { session with process, streams })

def setUpLogging (environment : Environment) (options : SetupOptions) (session : Session) :
    Except Fault Answer × Session :=
  let (outcome, process) := session.process.setUp session.origin.identity environment options
  let levels := options.quietLoggers.map process.loggers.ownLevel
  session.withProcess (outcome.map fun () => .setUp process.visibleState levels) process

/-- Binds a logger, which may create it, and hands the entry to it. -/
def logStructured (session : Session) (entry : StructuredEntry) :
    Except Fault Answer × Session :=
  match entry.checkBound with
  | .error fault => (.error fault, session)
  | .ok () =>
    let session := { session with process := session.process.openStructured entry.logger }
    match session.process.logStructured session.origin entry with
    | .error fault => (.error fault, session)
    | .ok emission => (.ok .done, { session with emission })

/-- Answers a request. -/
def answer (session : Session) : Request → Except Fault Answer × Session
  | .settings => (.ok (.settings session.process.settings), session)
  | .configure allowLongNames =>
    let settings := session.process.settings.configure allowLongNames
    session.withProcess (.ok (.settings settings)) { session.process with settings }
  | .reset => session.withProcess (.ok (.settings {})) { session.process with settings := {} }
  | .environment given => (.ok (.settings (.ofEnvironment given)), session)
  | .validate message allowLongNames =>
    let allowLong := session.process.settings.longNames allowLongNames
    (((message.validate allowLong).mapError Fault.invalid).map fun () => .done, session)
  | .marshal message allowLongNames =>
    let allowLong := session.process.settings.longNames allowLongNames
    (((message.marshal allowLong).mapError Fault.invalid).map .octets, session)
  | .marshalRecord choice type values allowLongNames =>
    session.marshalRecord choice type values allowLongNames
  | .fieldMap choice type =>
    match session.lookUp choice type with
    | (.error fault, session) => (.error fault, session)
    | (.ok found, session) =>
      let session := session.noteSerial found.serial
      (.ok (.fieldMap (session.known.idxOf found.serial) found.map), session)
  | .register choice type =>
    let (found, session) := session.lookUp choice type
    (found.map fun _ => .truth true, session)
  | .contains choice type => (.ok (.truth ((session.registry choice).contains type)), session)
  | .size choice => (.ok (.count (session.registry choice).size), session)
  | .clear .own => (.ok .done, { session with own := session.own.clear })
  | .clear .shared => (.ok .done, { session with shared := session.shared.clear })
  | .calls => (.ok (.types session.calls), session)
  | .buildRenderer name options =>
    match Renderer.ofOptions session.origin.identity session.process.settings options with
    | .error fault => (.error (.configuration fault), session)
    | .ok renderer =>
      (.ok .done, { session with renderers := (name, renderer) :: session.renderers })
  | .render name method event =>
    match session.renderers.lookup name with
    | none => (.error (.missingKey (.text name)), session)
    | some renderer =>
      ((renderer.render session.origin session.process.settings method event).map .line, session)
  | .configureLogging options toStandardOutput =>
    session.configureLogging options toStandardOutput
  | .setUpLogging environment options => session.setUpLogging environment options
  | .state => (.ok (.state session.process.visibleState), session)
  | .logStructured entry => session.logStructured entry
  | .logPlain entry =>
    let process := session.process.openPlain entry.logger
    (.ok .done, { session with process, emission := process.logPlain session.origin entry })

/-- A request's answer, and what was logged while it was dealt with. -/
def step (session : Session) (request : Request) :
    (Except Fault Answer × Emission) × Session :=
  let (outcome, session) := answer { session with emission := {} } request
  ((outcome, session.emission), session)

/-- The answers to requests that are made in turn. -/
def run (session : Session) : List Request → List (Except Fault Answer × Emission)
  | [] => []
  | request :: rest =>
    let (result, session) := session.step request
    result :: session.run rest

end Session

end Syslog
