import Syslog.Event.Enrichment
import Syslog.Record.ToMessage
import Syslog.Settings
import Syslog.Time.Iso8601

namespace Syslog

/-!
Events as lines of RFC 5424.

Entries with a meaning of their own fill the head of the message and its body; of the others
those whose key is a name become parameters of a single element, in the order of the event.
-/

/-- What a renderer can be given; what is absent is taken from the process. -/
structure RendererOptions where
  appName : Value := .null
  hostname : Value := .null
  facility : Value := .int Facility.user.code
  elementId : Value := .text defaultElementId
  allowLongNames : Option Bool := none

/-- A renderer whose own names have been checked; its facility is left to the messages. -/
structure Renderer where
  appName : Token appNameLimit
  hostname : Token hostnameLimit
  facility : Value
  elementId : Name
  allowLongNames : Option Bool

namespace Renderer

/-- A header field from what is given, or else from the process. -/
def headerField (name : Text) (limit : Nat) (given : Value) (ofProcess : Text) :
    Except ConfigurationFault (Token limit) :=
  let value := match given with
    | .null => .text ofProcess
    | value => value
  match Token.ofValue? limit value with
  | some token => .ok token
  | none => .error (.rendererHeader name limit value)

/-- Builds a renderer under the settings of the moment. -/
def ofOptions (identity : Identity) (settings : Settings) (options : RendererOptions) :
    Except ConfigurationFault Renderer := do
  let appName ← headerField "app_name" appNameLimit options.appName identity.appName
  let hostname ← headerField "hostname" hostnameLimit options.hostname identity.hostname
  match Name.ofValue? (settings.longNames options.allowLongNames) options.elementId with
  | none => .error (.rendererElementId options.elementId)
  | some elementId =>
    return {
      appName, hostname, elementId
      facility := options.facility
      allowLongNames := options.allowLongNames }

/-- The keys of entries that are never parameters. -/
def reservedKeys : List Text :=
  ["level", "severity", "message", "event", "timestamp", "app_name", "msg_id"]

/-- The name of the parameter that an entry becomes, if it becomes one. -/
def parameterName? (allowLong : Bool) (key : Value) : Option Text :=
  match key with
  | .text name => if !reservedKeys.contains name && name.isName allowLong then some name else none
  | _ => none

/-- The parameters of an event, in its order. -/
def parameters (allowLong : Bool) : Event → Except Fault (List Parameter)
  | [] => .ok []
  | (key, value) :: rest =>
    match parameterName? allowLong key with
    | none => parameters allowLong rest
    | some name => do
      let text ← value.parameterText
      return ⟨.text name, .text text⟩ :: (← parameters allowLong rest)

/-- An integer under `severity`, or else what the level stands for. -/
def severity (method : Text) (event : Event) : Except WordsFault Int :=
  match (event.valueOf? "severity").bind Value.int? with
  | some code => .ok code
  | none =>
    (Severity.ofLevel ((event.valueOf? "level").getD (.text method))).map fun found => found.code

/--
The time of a value: a time itself, seconds from the epoch, or a written time.  The letter `Z`
counts as an offset of zero wherever it stands.
-/
def time? : Value → Option DateTime
  | .time dateTime => some dateTime
  | .int seconds => DateTime.ofSeconds? seconds
  | .float seconds => DateTime.ofBinary64? seconds
  | .text written => Iso8601.read? (written.replacing 'Z' "+00:00")
  | _ => none

/-- The displayed form of an entry that is there and not empty, or else a default. -/
def textOf (event : Event) (key : String) (default : Text) : Except WordsFault Text :=
  match event.valueOf? key with
  | some value => if value.isEmpty then .ok default else value.inWords Value.shown
  | none => .ok default

/-- What the body shows: the message, or else the event. -/
def bodyValue (event : Event) : Value :=
  match (event.valueOf? "message").getD .null with
  | .null => (event.valueOf? "event").getD .null
  | value => value

/-- The octets of the body; nothing has none. -/
def body (event : Event) : Except Fault Bytes :=
  match bodyValue event with
  | .null => .ok []
  | value => do
    let text ← (value.inWords Value.shown).mapError .words
    text.encode.mapError .surrogates

/-- The message of an event that was logged by the given method. -/
def message (origin : Origin) (allowLong : Bool) (renderer : Renderer) (method : Text)
    (event : Event) : Except Fault Message := do
  let severity ← (severity method event).mapError Fault.words
  let parameters ← parameters allowLong event
  let appName ← (textOf event "app_name" renderer.appName.text).mapError Fault.words
  let messageId ← (textOf event "msg_id" []).mapError Fault.words
  let body ← body event
  return {
    timestamp := .time (((event.valueOf? "timestamp").bind time?).getD origin.now)
    severity := .int severity
    facility := renderer.facility
    hostname := .text renderer.hostname.text
    appName := .text appName
    processId := .text origin.identity.processId
    messageId := .text messageId
    structuredData :=
      if parameters.isEmpty then [] else [⟨.text renderer.elementId.text, parameters⟩]
    body := .octets .fixed body }

/-- The line of an event; names are capped as the renderer or else the settings have it. -/
def render (origin : Origin) (settings : Settings) (renderer : Renderer) (method : Text)
    (event : Event) : Except Fault Text := do
  let allowLong := settings.longNames renderer.allowLongNames
  let message ← renderer.message origin allowLong method event
  let octets ← (message.marshal allowLong).mapError Fault.invalid
  return Utf8.decodeReplacing octets

end Renderer

end Syslog
