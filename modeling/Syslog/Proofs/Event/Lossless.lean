import Syslog.Proofs.Event.Composed
import Syslog.Proofs.Message.Reading

namespace Syslog

/-!
# What a line keeps of its event

A line is composed of texts, encoded, and decoded again with replacement characters for what is
malformed.  Nothing is malformed, so the line has just the octets of the message; and these can be
read without knowledge of the event or of the renderer (`Syslog.Reading`).

What is read is what the event says and what the renderer was built with, with two provisos
that lie in the format itself: an absent field of the header is written like a hyphen, and
the severity 8, which has no name, takes a bit that belongs to the facility.  So that severity is
itself never read, and the facility is if it has the bit anyway.
-/

/-- That a reading gives back what an event says and what the options of the renderer are. -/
structure Renderer.Conveys (identity : Identity) (allowLong : Bool) (options : RendererOptions)
    (method : Text) (event : Event) (reading : Reading) : Prop where
  hostname : ∃ own, options.hostname.orText identity.hostname = .text own ∧
    reading.hostname = own.orNil
  priority : ∃ severity facility : Nat, event.HasSeverity method severity ∧
    options.facility = .int facility ∧ reading.priority = severity ||| facility * 8 ∧
      (reading.priority / 8 = facility ↔ severity ≠ 8 ∨ facility % 2 = 1) ∧
      (reading.priority % 8 = severity ↔ severity ≤ 7)
  appName : ∃ own text, options.appName.orText identity.appName = .text own ∧
    event.Displays "app_name" own text ∧ reading.appName = text.orNil
  messageId : ∃ text, event.Displays "msg_id" [] text ∧ reading.messageId = text.orNil
  structuredData : ∃ parameters, event.Writes allowLong parameters ∧
    reading.structuredData = if parameters.isEmpty then [] else [⟨options.elementId, parameters⟩]
  body : reading.body = (event.bodyValue?.map fun value => value.shown.utf8).getD []

namespace Renderer

variable {origin : Origin} {built current : Settings} {allowLong : Bool}
  {options : RendererOptions} {renderer : Renderer} {method : Text} {event : Event}

/-- A number has its last bit exactly if it is odd. -/
theorem one_or_eq_iff {number : Nat} : 1 ||| number = number ↔ number % 2 = 1 := by
  rw [← decide_eq_true_iff (p := number % 2 = 1), ← Nat.testBit_zero]
  constructor
  · intro same
    rw [← same, Nat.testBit_or]
    rfl
  · intro has
    refine Nat.eq_of_testBit_eq fun bit => ?_
    rw [Nat.testBit_or]
    cases bit with
    | zero => rw [has, Bool.or_true]
    | succ bit => simp [Nat.testBit_succ]

/-- The facility is what is left of the priority without three bits for the severity, unless the
severity has a fourth bit that the facility has not. -/
theorem facility_of_priority_iff {severity facility : Nat} (small : severity ≤ 8) :
    (severity ||| facility * 8) / 8 = facility ↔ severity ≠ 8 ∨ facility % 2 = 1 := by
  have shifted : (severity ||| facility * 8) / 8 = severity / 8 ||| facility := by
    have split := Nat.shiftRight_or_distrib (a := severity) (b := facility * 8) (i := 3)
    have back := Nat.mul_div_cancel facility (show 0 < 8 by decide)
    simpa only [Nat.shiftRight_eq_div_pow, Nat.reducePow, back] using split
  rw [shifted]
  by_cases fourth : severity = 8
  · subst fourth
    simpa using one_or_eq_iff
  · rw [Nat.div_eq_of_lt (by omega), Nat.zero_or]
    exact iff_of_true rfl (Or.inl fourth)

/-- The severity is what the three bits of the priority say that the facility does not have, unless
it needs a fourth. -/
theorem severity_of_priority_iff {severity facility : Nat} :
    (severity ||| facility * 8) % 8 = severity ↔ severity ≤ 7 := by
  have low : (severity ||| facility * 8) % 8 = severity % 8 ||| facility * 8 % 8 :=
    Nat.or_mod_two_pow (n := 3)
  rw [low, Nat.mul_mod_left, Nat.or_zero]
  omega

theorem exists_text_of_body {octets : Bytes} (isBody : body event = .ok octets) :
    ∃ content : Text, content.isEncodable = true ∧ octets = content.utf8 := by
  rcases Event.body_eq_ok_iff.mp isBody with ⟨_, rfl⟩ | ⟨value, _, _, encodable, rfl⟩
  · exact ⟨[], rfl, rfl⟩
  · exact ⟨value.shown, encodable, rfl⟩

/-- A line is a text in UTF-8, with the octets of a message that is carried by them. -/
theorem exists_wire_of_render {line : Text}
    (rendered : renderer.render origin current method event = .ok line) :
    ∃ message wire,
      renderer.message origin (current.longNames renderer.allowLongNames) method event =
        .ok message ∧
      message.Carries (current.longNames renderer.allowLongNames) wire ∧
      line.isEncodable = true ∧ line.utf8 = wire.encode := by
  rcases render_eq_ok_iff.mp rendered with ⟨message, octets, isMessage, isOctets, same⟩
  rcases Message.marshal_eq_ok_iff.mp isOctets with ⟨wire, carries, rfl⟩
  rcases message_eq_ok_iff.mp isMessage with ⟨head, parameters, content, _, _, isBody, rfl⟩
  rcases exists_text_of_body isBody with ⟨text, encodable, isText⟩
  have wireBody : wire.body = text.utf8 := (Option.some.inj carries.body).symm.trans isText
  rcases wire.exists_text_of_body encodable wireBody with ⟨whole, encodableWhole, isWhole⟩
  rw [← isWhole, Utf8.decodeReplacing_utf8 encodableWhole] at same
  subst same
  exact ⟨_, wire, isMessage, carries, encodableWhole, isWhole⟩

/-- What is read from the line of a composed message. -/
theorem conveys_of_carries {head : Head} {parameters : List Parameter} {octets : Bytes}
    {wire : WireMessage} (isBuilt : IsBuilt origin.identity built options renderer)
    (hasHead : renderer.HasHead method event head)
    (writes : event.Writes allowLong parameters) (isBody : body event = .ok octets)
    (carries : (renderer.composed origin event head parameters octets).Carries allowLong wire) :
    Conveys origin.identity allowLong options method event wire.reading where
  hostname := ⟨_, isBuilt.hostname, (Value.text.inj carries.recovers.hostname).symm⟩
  priority := by
    have severity : head.severity = wire.severity := Value.int.inj carries.severity
    refine ⟨wire.severity, wire.facility, severity ▸ hasHead.severity, ?_, rfl,
      facility_of_priority_iff wire.severity_le, severity_of_priority_iff⟩
    rw [← isBuilt.facility]
    exact carries.facility
  appName := ⟨_, _, isBuilt.appName, hasHead.appName,
    (Value.text.inj carries.recovers.appName).symm⟩
  messageId := ⟨_, hasHead.messageId, (Value.text.inj carries.recovers.messageId).symm⟩
  structuredData := by
    refine ⟨parameters, writes, ?_⟩
    rw [← carries.recovers.structuredData, isBuilt.elementId]
    rfl
  body := by
    have same : some octets = some wire.body := carries.body
    cases same
    rcases Event.body_eq_ok_iff.mp isBody with ⟨absent, empty⟩ | ⟨value, found, _, _, octets⟩
    · rw [absent]
      exact empty
    · rw [found]
      exact octets.symm

/-- What is read from a rendered line is what the event says and what the renderer was built
with. -/
theorem exists_conveys_of_render {line : Text}
    (isBuilt : IsBuilt origin.identity built options renderer)
    (rendered : renderer.render origin current method event = .ok line) :
    ∃ reading, Reading.read? line.utf8 = some reading ∧
      Conveys origin.identity (current.longNames options.allowLongNames) options method event
        reading := by
  rcases exists_wire_of_render rendered with ⟨message, wire, isMessage, carries, _, encoded⟩
  rw [isBuilt.allowLongNames] at isMessage carries
  rcases message_eq_ok_iff.mp isMessage with
    ⟨head, parameters, octets, hasHead, writes, isBody, rfl⟩
  refine ⟨wire.reading, ?_, conveys_of_carries isBuilt hasHead writes isBody carries⟩
  rw [encoded, Reading.read?_encode]

/-- A rendered line has the octets of the message, and what is read from them is what the event
says and what the renderer was built with. -/
theorem render_is_lossless {line : Text}
    (isBuilt : ofOptions origin.identity built options = .ok renderer)
    (rendered : renderer.render origin current method event = .ok line) :
    let allowLong := current.longNames options.allowLongNames
    ∃ message octets reading,
      renderer.message origin allowLong method event = .ok message ∧
      message.marshal allowLong = .ok octets ∧ line.encode = .ok octets ∧
      Reading.read? octets = some reading ∧
      Conveys origin.identity allowLong options method event reading := by
  intro allowLong
  have isBuilt := ofOptions_eq_ok_iff.mp isBuilt
  rcases render_eq_ok_iff.mp rendered with ⟨message, octets, isMessage, isOctets, same⟩
  rw [isBuilt.allowLongNames] at isMessage isOctets
  rcases message_eq_ok_iff.mp isMessage with
    ⟨head, parameters, content, hasHead, writes, isBody, rfl⟩
  rcases Message.marshal_eq_ok_iff.mp isOctets with ⟨wire, carries, rfl⟩
  rcases exists_text_of_body isBody with ⟨text, encodable, isText⟩
  have wireBody : wire.body = text.utf8 := (Option.some.inj carries.body).symm.trans isText
  rcases wire.exists_text_of_body encodable wireBody with ⟨whole, encodableWhole, isWhole⟩
  rw [← isWhole, Utf8.decodeReplacing_utf8 encodableWhole] at same
  subst same
  exact ⟨_, _, wire.reading, isMessage, isOctets,
    Text.encode_eq_ok_iff.mpr ⟨encodableWhole, isWhole⟩, Reading.read?_encode wire,
    conveys_of_carries isBuilt hasHead writes isBody carries⟩

/-- An event with two entries that are kept, between others that are not: all that it says is read
from its line, where the quotation mark has been escaped. -/
theorem render_is_lossless_of_mixed_keys :
    let origin := Origin.atEpoch ⟨"host", "app", "42"⟩
    let options : RendererOptions := { hostname := .text [], facility := .int 16 }
    let event : Event := [
      (.text "user", .text "al\"ice"), (.text "app_name", .text "worker"),
      (.text "no name", .null), (.text "count", .int 2), (.text "message", .null),
      (.text "event", .text "caf\u00e9")]
    ∃ renderer line octets reading,
      ofOptions origin.identity {} options = .ok renderer ∧
      renderer.render origin {} "info" event = .ok line ∧
      line.encode = .ok octets ∧ Reading.read? octets = some reading ∧
      reading.structuredData = [⟨.text defaultElementId,
        [⟨.text "user", .text "al\"ice"⟩, ⟨.text "count", .text "2"⟩]⟩] ∧
      Conveys origin.identity false options "info" event reading := by
  intro origin options event
  rcases built : ofOptions origin.identity {} options with fault | renderer
  · cases built
  · rcases rendered : renderer.render origin {} "info" event with fault | line
    · cases built
      cases rendered
    · rcases render_is_lossless built rendered with
        ⟨_, octets, reading, _, _, isOctets, isRead, conveys⟩
      rcases conveys.structuredData with ⟨parameters, writes, structuredData⟩
      cases Event.writes_iff.mp writes
      exact ⟨renderer, line, octets, reading, rfl, rendered, isOctets, isRead, structuredData,
        conveys⟩

/-- The line of an event with severity 8 is read as one of the facility 17, although the renderer
has the facility 16. -/
theorem facility_is_lost_at_severity_eight :
    let origin := Origin.atEpoch ⟨"host", "app", "42"⟩
    let options : RendererOptions := { facility := .int 16 }
    ∃ renderer line octets reading,
      ofOptions origin.identity {} options = .ok renderer ∧
      renderer.render origin {} "info" [(.text "severity", .int 8)] = .ok line ∧
      line.encode = .ok octets ∧ Reading.read? octets = some reading ∧
      reading.priority / 8 = 17 :=
  ⟨_, _, _, _, rfl, rfl, rfl, rfl, rfl⟩

end Renderer

end Syslog
