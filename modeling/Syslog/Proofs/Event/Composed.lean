import Syslog.Proofs.Event.Meaning
import Syslog.Proofs.Value.Json

namespace Syslog

/-!
# The message of an event

A renderer is built from options, which it checks, and it composes the message of an event from
what it was built with and from what the event says.  Both steps are inverted here once and for
all: what a renderer holds is what its options and its process give
(`Renderer.ofOptions_eq_ok_iff`), and a line is the octets of one composed message
(`Renderer.render_eq_ok_iff`).

Of a composed message only some parts can be invalid (`Renderer.isValid_composed_iff`).  Its
time is always one, its host name has been checked, its names have been chosen among the keys
for being names, and its body is octets.
-/

/-- A value that is given, or else a text of the process. -/
def Value.orText (given : Value) (ofProcess : Text) : Value :=
  match given with
  | .null => .text ofProcess
  | value => value

/-- The process id is written as a number. -/
def Identity.HasNumber (identity : Identity) : Prop :=
  ∃ number : Nat, number < Nat.pow 2 64 ∧ identity.processId = Text.ofNat number

namespace Renderer

/-- What a renderer holds once its options have passed. -/
structure IsBuilt (identity : Identity) (settings : Settings) (options : RendererOptions)
    (renderer : Renderer) : Prop where
  appName : options.appName.orText identity.appName = .text renderer.appName.text
  hostname : options.hostname.orText identity.hostname = .text renderer.hostname.text
  facility : renderer.facility = options.facility
  elementId : options.elementId = .text renderer.elementId.text
  isName : renderer.elementId.text.isName (settings.longNames options.allowLongNames) = true
  allowLongNames : renderer.allowLongNames = options.allowLongNames

theorem headerField_eq_ok_iff {name : Text} {limit : Nat} {given : Value} {ofProcess : Text}
    {token : Token limit} :
    headerField name limit given ofProcess = .ok token ↔
      given.orText ofProcess = .text token.text := by
  rw [← Token.ofValue?_eq_some_iff]
  cases given <;>
    · dsimp only [headerField, Value.orText]
      split
      · next found => simp [found]
      · next missing => simp [missing]

/-- A renderer is built if the names that it is given are valid, under the cap of the moment. -/
theorem ofOptions_eq_ok_iff {identity : Identity} {settings : Settings}
    {options : RendererOptions} {renderer : Renderer} :
    ofOptions identity settings options = .ok renderer ↔
      IsBuilt identity settings options renderer := by
  simp only [ofOptions, bind_eq_ok_iff, headerField_eq_ok_iff]
  constructor
  · rintro ⟨appName, isAppName, hostname, isHostname, built⟩
    split at built
    · cases built
    · next elementId found =>
        rcases Name.ofValue?_eq_some_iff.mp found with ⟨isElementId, within⟩
        cases built
        exact ⟨isAppName, isHostname, rfl, isElementId, within, rfl⟩
  · intro built
    refine ⟨renderer.appName, built.appName, renderer.hostname, built.hostname, ?_⟩
    have found := Name.ofValue?_eq_some_iff.mpr ⟨built.elementId, built.isName⟩
    rw [found]
    rcases renderer with ⟨appName, hostname, facility, elementId, allowLongNames⟩
    cases built.facility
    cases built.allowLongNames
    rfl

variable {origin : Origin} {settings : Settings} {allowLong : Bool} {renderer : Renderer}
  {method : Text} {event : Event}

/-- What an event can say for the head of its message, apart from the time. -/
structure Head where
  severity : Int
  appName : Text
  messageId : Text

/-- That an event says so to a renderer. -/
structure HasHead (renderer : Renderer) (method : Text) (event : Event) (head : Head) : Prop where
  severity : event.HasSeverity method head.severity
  appName : event.Displays "app_name" renderer.appName.text head.appName
  messageId : event.Displays "msg_id" [] head.messageId

theorem hasHead_iff {head : Head} : renderer.HasHead method event head ↔
    severity method event = .ok head.severity ∧
      textOf event "app_name" renderer.appName.text = .ok head.appName ∧
      textOf event "msg_id" [] = .ok head.messageId := by
  rw [← Event.hasSeverity_iff, ← Event.displays_iff, ← Event.displays_iff]
  exact ⟨fun has => ⟨has.severity, has.appName, has.messageId⟩,
    fun ⟨severity, appName, messageId⟩ => ⟨severity, appName, messageId⟩⟩

theorem HasHead.unique {head other : Head} (hasHead : renderer.HasHead method event head)
    (hasOther : renderer.HasHead method event other) : head = other := by
  rcases hasHead_iff.mp hasHead with ⟨severity, appName, messageId⟩
  rcases hasHead_iff.mp hasOther with ⟨severityToo, appNameToo, messageIdToo⟩
  rcases head with ⟨_, _, _⟩
  cases severity.symm.trans severityToo
  cases appName.symm.trans appNameToo
  cases messageId.symm.trans messageIdToo
  rfl

/-- The message of an event whose head, parameters and body are known. -/
def composed (origin : Origin) (renderer : Renderer) (event : Event) (head : Head)
    (parameters : List Parameter) (body : Bytes) : Message where
  timestamp := .time (((event.valueOf? "timestamp").bind time?).getD origin.now)
  severity := .int head.severity
  facility := renderer.facility
  hostname := .text renderer.hostname.text
  appName := .text head.appName
  processId := .text origin.identity.processId
  messageId := .text head.messageId
  structuredData :=
    if parameters.isEmpty then [] else [⟨.text renderer.elementId.text, parameters⟩]
  body := .octets .fixed body

theorem message_eq_ok_iff {message : Message} :
    renderer.message origin allowLong method event = .ok message ↔
      ∃ head parameters octets, renderer.HasHead method event head ∧
        event.Writes allowLong parameters ∧ body event = .ok octets ∧
        renderer.composed origin event head parameters octets = message := by
  simp only [Renderer.message, bind_eq_ok_iff, mapError_eq_ok_iff, ← Event.writes_iff,
    ← Event.hasSeverity_iff, ← Event.displays_iff]
  constructor
  · rintro ⟨severity, hasSeverity, parameters, writes, appName, isAppName, messageId, isMessageId,
      octets, isBody, same⟩
    exact ⟨⟨severity, appName, messageId⟩, parameters, octets,
      ⟨hasSeverity, isAppName, isMessageId⟩, writes, isBody, Except.ok.inj same⟩
  · rintro ⟨head, parameters, octets, hasHead, writes, isBody, same⟩
    exact ⟨_, hasHead.severity, parameters, writes, _, hasHead.appName, _, hasHead.messageId,
      octets, isBody, congrArg Except.ok same⟩

theorem render_eq_ok_iff {line : Text} :
    renderer.render origin settings method event = .ok line ↔
      ∃ message octets,
        renderer.message origin (settings.longNames renderer.allowLongNames) method event =
          .ok message ∧
        message.marshal (settings.longNames renderer.allowLongNames) = .ok octets ∧
        Utf8.decodeReplacing octets = line := by
  simp only [render, bind_eq_ok_iff, mapError_eq_ok_iff]
  constructor
  · rintro ⟨message, isMessage, octets, isOctets, same⟩
    exact ⟨message, octets, isMessage, isOctets, Except.ok.inj same⟩
  · rintro ⟨message, octets, isMessage, isOctets, same⟩
    exact ⟨message, isMessage, octets, isOctets, congrArg Except.ok same⟩

/-- An event is rendered if its message can be composed and is valid. -/
theorem exists_render_eq_ok_iff :
    (∃ line, renderer.render origin settings method event = .ok line) ↔
      ∃ message, renderer.message origin (settings.longNames renderer.allowLongNames) method
        event = .ok message ∧ message.IsValid (settings.longNames renderer.allowLongNames) := by
  simp only [render_eq_ok_iff, ← Message.exists_marshal_eq_ok_iff]
  constructor
  · rintro ⟨_, message, octets, isMessage, isOctets, _⟩
    exact ⟨message, isMessage, octets, isOctets⟩
  · rintro ⟨message, isMessage, octets, isOctets⟩
    exact ⟨_, message, octets, isMessage, isOctets, rfl⟩

/-- A parameter is never refused as invalid before there is a message. -/
theorem parameters_ne_invalid (fault : InvalidValue) :
    parameters allowLong event ≠ .error (.invalid fault) := by
  induction event with
  | nil => exact nofun
  | cons entry rest inductionHypothesis =>
      intro failed
      rw [parameters] at failed
      split at failed
      · exact inductionHypothesis failed
      · rcases bind_eq_error_iff.mp failed with unwritten | ⟨_, _, later⟩
        · cases Value.obstructs_of_parameterText unwritten
        · rcases bind_eq_error_iff.mp later with others | ⟨_, _, impossible⟩
          · exact inductionHypothesis others
          · cases impossible

theorem body_ne_invalid (fault : InvalidValue) : body event ≠ .error (.invalid fault) := by
  intro failed
  rw [body] at failed
  split at failed
  · cases failed
  · simp only [bind_eq_error_iff, mapError_eq_error_iff] at failed
    rcases failed with ⟨_, _, impossible⟩ | ⟨_, _, _, _, impossible⟩ <;> cases impossible

/-- Nothing is refused as invalid before there is a message. -/
theorem message_ne_invalid (fault : InvalidValue) :
    renderer.message origin allowLong method event ≠ .error (.invalid fault) := by
  intro failed
  simp only [Renderer.message, bind_eq_error_iff, mapError_eq_error_iff] at failed
  rcases failed with ⟨_, _, impossible⟩ | ⟨_, _, unwritten | ⟨_, _, ⟨_, _, impossible⟩ |
    ⟨_, _, ⟨_, _, impossible⟩ | ⟨_, _, noBody | ⟨_, _, impossible⟩⟩⟩⟩⟩
  · cases impossible
  · exact parameters_ne_invalid fault unwritten
  · cases impossible
  · cases impossible
  · exact body_ne_invalid fault noBody
  · cases impossible

/-- What is reported as invalid is a part of the message. -/
theorem exists_message_of_render_eq_invalid {fault : InvalidValue}
    (failed : renderer.render origin settings method event = .error (.invalid fault)) :
    ∃ message, renderer.message origin (settings.longNames renderer.allowLongNames) method event =
        .ok message ∧
      message.marshal (settings.longNames renderer.allowLongNames) = .error fault := by
  simp only [render, bind_eq_error_iff, mapError_eq_error_iff] at failed
  rcases failed with unreadable | ⟨message, isMessage, ⟨_, invalid, same⟩ | ⟨_, _, impossible⟩⟩
  · exact absurd unreadable (message_ne_invalid fault)
  · cases same
    exact ⟨message, isMessage, invalid⟩
  · cases impossible

/-! ## What can be invalid -/

theorem isToken_processId {identity : Identity} (numbered : identity.HasNumber) :
    (Value.text identity.processId).IsToken 128 := by
  rcases numbered with ⟨number, small, same⟩
  have digits := Text.isDigit_ofNat number
  have length : (Nat.toDigits 10 number).length ≤ 128 :=
    (Nat.length_toDigits_le_iff (by decide) (by decide)).mpr (Nat.lt_trans small (by decide))
  refine ⟨Text.ofNat number, congrArg Value.text same, ?_, fun c member => ?_⟩
  · rw [Text.ofNat, Text.inBase, List.length_map]
    exact length
  · exact (digits c member).printable

/-- The parts in which the message of an event can be invalid. -/
def fallibleParts : List Property :=
  [.severity, .appName, .messageId, .elementId, .parameterValue]

theorem mem_structuredData_composed {head : Head} {parameters : List Parameter}
    {octets : Bytes} {element : Element} :
    element ∈ (renderer.composed origin event head parameters octets).structuredData ↔
      parameters ≠ [] ∧ element = ⟨.text renderer.elementId.text, parameters⟩ := by
  cases parameters <;> simp [composed]

/-- All other parts keep to their constraints, whatever the event says. -/
theorem allows_of_composed {head : Head} {parameters : List Parameter} {octets : Bytes}
    (numbered : origin.identity.HasNumber)
    (facility : Property.facility.Allows allowLong renderer.facility)
    (writes : event.Writes allowLong parameters) {property : Property} {value : Value}
    (certain : property ∉ fallibleParts)
    (holds : (renderer.composed origin event head parameters octets).Holds property value) :
    property.Allows allowLong value := by
  cases property with
  | facility =>
      cases holds
      exact facility
  | timestamp =>
      cases holds
      exact Or.inl ⟨_, rfl⟩
  | hostname =>
      cases holds
      exact ⟨_, rfl, renderer.hostname.length_le,
        Text.isPrintUsAscii_iff.mp renderer.hostname.printable⟩
  | processId =>
      cases holds
      exact isToken_processId numbered
  | parameterName =>
      rcases holds with ⟨element, member, parameter, inside, rfl⟩
      rcases mem_structuredData_composed.mp member with ⟨_, rfl⟩
      rcases writes.mem_iff.mp inside with ⟨entry, _, kept, name, _⟩
      rw [name]
      exact kept.1
  | body =>
      cases holds
      exact ⟨_, _, rfl⟩
  | severity | appName | messageId | elementId | parameterValue => exact absurd certain (by decide)

/-- So a composed message is valid if the parts that can be invalid are not. -/
theorem isValid_composed_iff {head : Head} {parameters : List Parameter} {octets : Bytes}
    (numbered : origin.identity.HasNumber)
    (facility : Property.facility.Allows allowLong renderer.facility)
    (writes : event.Writes allowLong parameters) :
    (renderer.composed origin event head parameters octets).IsValid allowLong ↔
      (0 ≤ head.severity ∧ head.severity ≤ 8) ∧
        (Value.text head.appName).IsToken 48 ∧
        (Value.text head.messageId).IsToken 32 ∧
        (parameters ≠ [] → (Value.text renderer.elementId.text).IsName allowLong) ∧
        ∀ parameter ∈ parameters, Property.parameterValue.Allows allowLong parameter.value := by
  constructor
  · intro valid
    refine ⟨?_, valid.appName, valid.messageId, fun filled => ?_, fun parameter inside => ?_⟩
    · rcases valid.severity with ⟨code, same, inRange⟩
      cases same
      exact inRange
    · exact valid.elementIds _ (mem_structuredData_composed.mpr ⟨filled, rfl⟩)
    · have filled := List.ne_nil_of_mem inside
      exact valid.parameterValues _ (mem_structuredData_composed.mpr ⟨filled, rfl⟩) parameter inside
  · rintro ⟨severity, appName, messageId, elementId, values⟩
    refine Message.isValid_iff.mpr ?_
    rintro ⟨property, value⟩ member
    have holds := Message.mem_parts_iff.mp member
    by_cases certain : property ∉ fallibleParts
    · exact allows_of_composed numbered facility writes certain holds
    · cases property with
      | severity =>
          cases holds
          exact ⟨_, rfl, severity⟩
      | appName =>
          cases holds
          exact appName
      | messageId =>
          cases holds
          exact messageId
      | elementId =>
          rcases holds with ⟨element, inside, rfl⟩
          rcases mem_structuredData_composed.mp inside with ⟨filled, rfl⟩
          exact elementId filled
      | parameterValue =>
          rcases holds with ⟨element, inside, parameter, listed, rfl⟩
          rcases mem_structuredData_composed.mp inside with ⟨_, rfl⟩
          exact values parameter listed
      | _ => exact absurd (by decide) certain

end Renderer

end Syslog
