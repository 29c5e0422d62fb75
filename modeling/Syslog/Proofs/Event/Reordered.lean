import Syslog.Proofs.Event.Alike
import Syslog.Proofs.Event.Lossless

namespace Syslog

/-!
# Lines of events in another order

Two events that are the same under every key have the same head and the same body, and their
parameters are the same but for the order.  If they differ in the places of overwritten
entries only, then all parameters but the one that names the logger are in the same order too.

So there is a line for one of them exactly if there is one for the other
(`Renderer.exists_render_of_alike`), and the two lines are read as the same but for the place of
that parameter (`Renderer.sameButForLogger_of_render`).
-/

/-- That the parameters are some others and, at some place among them, the one for the logger. -/
def Reading.NamesLogger (logger : Text) (id : Value) (others : List Parameter) (reading : Reading) :
    Prop :=
  ∃ before behind, before ++ behind = others ∧
    reading.structuredData = [⟨id, before ++ ⟨.text "logger", .text logger⟩ :: behind⟩]

/-- That two readings name the same logger, once each, and that they are the same but for the place
where they do so. -/
structure Reading.SameButForLogger (logger : Text) (left right : Reading) : Prop where
  priority : left.priority = right.priority
  timestamp : left.timestamp = right.timestamp
  hostname : left.hostname = right.hostname
  appName : left.appName = right.appName
  processId : left.processId = right.processId
  messageId : left.messageId = right.messageId
  structuredData : ∃ id others, (∀ parameter ∈ others, parameter.name ≠ .text "logger") ∧
    left.NamesLogger logger id others ∧ right.NamesLogger logger id others
  body : left.body = right.body

namespace Event

variable {allowLong : Bool} {event left right : Event} {parameters : List Parameter}

theorem isParameterKey_logger (allowLong : Bool) : IsParameterKey allowLong (.text "logger") := by
  refine ⟨⟨"logger", rfl, Text.isName_iff.mp ?_⟩, ?_, ?_⟩
  · cases allowLong <;> decide
  · rw [isReadKey_text_iff]
    decide
  · exact fun same => absurd (Value.text.inj same) (by decide)

theorem ne_overwritten_of_isParameterKey {key : Value} (kept : IsParameterKey allowLong key)
    (other : key ≠ .text "logger") : ∀ text ∈ overwrittenKeys, key ≠ .text text := by
  have read : ∀ text ∈ overwrittenKeys,
      text = Text.ofString "logger" ∨ text = Text.ofString "timestamp" ∨ text ∈ readKeys := by
    decide
  rintro text member rfl
  rcases read text member with rfl | rfl | isRead
  · exact other rfl
  · exact kept.2.2 rfl
  · exact kept.2.1 (isReadKey_text_iff.mpr isRead)

/-- An entry that is not written can be put in front, be it left out or not. -/
theorem Writes.without_skip {key value : Value} {rest : Event}
    (skipped : ¬IsParameterKey allowLong key)
    (writes : Writes allowLong (Entries.without overwrittenKeys rest) parameters) :
    Writes allowLong (Entries.without overwrittenKeys ((key, value) :: rest)) parameters := by
  rcases Entries.cases_without overwrittenKeys key with ⟨text, member, rfl⟩ | different
  · rw [Entries.without_cons_of_mem member]
    exact writes
  · rw [Entries.without_cons_of_ne different]
    exact .skip skipped writes

/-- But for the logger, what is overwritten is not written as a parameter. -/
theorem Writes.without (writes : Writes allowLong event parameters)
    (absent : ∀ value, (.text "logger", value) ∉ event) :
    Writes allowLong (Entries.without overwrittenKeys event) parameters := by
  induction writes with
  | nil => exact .nil
  | @keep key value _ rest _ kept written _ inductionHypothesis =>
      have other : key ≠ .text "logger" := by
        rintro rfl
        exact absent value List.mem_cons_self
      rw [Entries.without_cons_of_ne (ne_overwritten_of_isParameterKey kept other)]
      exact .keep kept written
        (inductionHypothesis fun value member => absent value (List.mem_cons_of_mem _ member))
  | skip skipped _ inductionHypothesis =>
      exact .without_skip skipped
        (inductionHypothesis fun value member => absent value (List.mem_cons_of_mem _ member))

/-- The parameters are those of the entries that are not overwritten, and among them the logger. -/
theorem Writes.exists_split {logger : Text} (writes : Writes allowLong event parameters)
    (isDictionary : Entries.IsDictionary event)
    (entered : event.valueOf? "logger" = some (.text logger)) :
    ∃ before behind, parameters = before ++ ⟨.text "logger", .text logger⟩ :: behind ∧
      Writes allowLong (Entries.without overwrittenKeys event) (before ++ behind) := by
  induction writes with
  | nil => cases entered
  | @keep key value text rest _ kept written more inductionHypothesis =>
      rcases List.pairwise_cons.mp isDictionary with ⟨apart, others⟩
      by_cases isLogger : key = .text "logger"
      · subst isLogger
        cases (Entries.get?_cons_self _ value rest).symm.trans entered
        cases written
        refine ⟨[], _, rfl, ?_⟩
        rw [Entries.without_cons_of_mem (by decide)]
        refine more.without fun value member => ?_
        exact Bool.eq_false_iff.mp (apart _ member) (Value.text_same_iff.mpr rfl)
      · have entered := (Entries.get?_cons_of_ne isLogger value rest).symm.trans entered
        rcases inductionHypothesis others entered with ⟨before, behind, rfl, writes⟩
        refine ⟨⟨key, .text text⟩ :: before, behind, rfl, ?_⟩
        rw [Entries.without_cons_of_ne (ne_overwritten_of_isParameterKey kept isLogger)]
        exact .keep kept written writes
  | @skip key value rest _ skipped _ inductionHypothesis =>
      have isOther : key ≠ .text "logger" := by
        rintro rfl
        exact skipped (isParameterKey_logger allowLong)
      have entered := (Entries.get?_cons_of_ne isOther value rest).symm.trans entered
      rcases inductionHypothesis (List.pairwise_cons.mp isDictionary).2 entered with
        ⟨before, behind, rfl, writes⟩
      exact ⟨before, behind, rfl, writes.without_skip skipped⟩

/-- If one of two events that are the same throughout can be written, the other can, with the same
parameters. -/
theorem AlikeThroughout.exists_writes (alike : AlikeThroughout left right)
    (writes : Writes allowLong left parameters) :
    ∃ others, Writes allowLong right others ∧
      ∀ parameter, parameter ∈ parameters ↔ parameter ∈ others := by
  have member : ∀ entry : Value × Value, IsParameterKey allowLong entry.1 →
      (entry ∈ left ↔ entry ∈ right) := by
    rintro ⟨key, value⟩ ⟨⟨name, rfl, _⟩, _⟩
    exact alike.mem_iff
  have texts := exists_writes_iff.mp ⟨parameters, writes⟩
  rcases exists_writes_iff.mpr fun entry inside kept =>
    texts entry ((member entry kept).mpr inside) kept with ⟨others, writesOther⟩
  refine ⟨others, writesOther, fun parameter => ?_⟩
  rw [writes.mem_iff, writesOther.mem_iff]
  refine exists_congr fun entry => ?_
  constructor
  · rintro ⟨inside, kept, written⟩
    exact ⟨(member entry kept).mp inside, kept, written⟩
  · rintro ⟨inside, kept, written⟩
    exact ⟨(member entry kept).mpr inside, kept, written⟩

/-- Parameters of events that are the same throughout: only the place of the logger differs. -/
theorem AlikeThroughout.exists_split {logger : Text} {otherParameters : List Parameter}
    (alike : AlikeThroughout left right)
    (entered : left.valueOf? "logger" = some (.text logger))
    (writes : Writes allowLong left parameters)
    (writesOther : Writes allowLong right otherParameters) :
    ∃ others : List Parameter, (∀ parameter ∈ others, parameter.name ≠ .text "logger") ∧
      (∃ before behind, before ++ behind = others ∧
        parameters = before ++ ⟨.text "logger", .text logger⟩ :: behind) ∧
      ∃ before behind, before ++ behind = others ∧
        otherParameters = before ++ ⟨.text "logger", .text logger⟩ :: behind := by
  have enteredOther : right.valueOf? "logger" = some (.text logger) :=
    (alike.get?_eq "logger").symm.trans entered
  rcases writes.exists_split alike.isLeft entered with ⟨before, behind, isSplit, kept⟩
  rcases writesOther.exists_split alike.isRight enteredOther with
    ⟨beforeOther, behindOther, isSplitOther, keptOther⟩
  rw [← alike.others] at keptOther
  refine ⟨before ++ behind, fun parameter member isLogger => ?_, ⟨before, behind, rfl, isSplit⟩,
    beforeOther, behindOther, keptOther.unique kept, isSplitOther⟩
  rcases kept.mem_iff.mp member with ⟨entry, inside, _, name, _⟩
  exact (Entries.mem_without_iff.mp inside).2 "logger" (by decide) (name.symm.trans isLogger)

end Event

namespace Renderer

variable {origin : Origin} {current : Settings} {allowLong : Bool} {renderer : Renderer}
  {method : Text} {event left right : Event}

/-- What is read from a line is the message that the event has been composed into. -/
theorem exists_reading_of_render {line : Text}
    (rendered : renderer.render origin current method event = .ok line) :
    ∃ head parameters octets reading, renderer.HasHead method event head ∧
      event.Writes (current.longNames renderer.allowLongNames) parameters ∧
      body event = .ok octets ∧ Reading.read? line.utf8 = some reading ∧
      reading.Recovers (renderer.composed origin event head parameters octets) := by
  rcases exists_wire_of_render rendered with ⟨message, wire, isMessage, carries, _, encoded⟩
  rcases message_eq_ok_iff.mp isMessage with
    ⟨head, parameters, octets, hasHead, writes, isBody, rfl⟩
  refine ⟨head, parameters, octets, wire.reading, hasHead, writes, isBody, ?_, carries.recovers⟩
  rw [encoded, Reading.read?_encode]

theorem composed_eq_of_alike (alike : Event.AlikeThroughout left right) (head : Head)
    (parameters : List Parameter) (octets : Bytes) :
    renderer.composed origin left head parameters octets =
      renderer.composed origin right head parameters octets := by
  have same : ∀ key, left.valueOf? key = right.valueOf? key := fun key => alike.get?_eq key
  simp only [composed, same]

/-- Events that are the same throughout have the same head. -/
theorem HasHead.of_alike {head : Head} (hasHead : renderer.HasHead method left head)
    (alike : Event.AlikeThroughout left right) : renderer.HasHead method right head := by
  have same : ∀ key, left.valueOf? key = right.valueOf? key := fun key => alike.get?_eq key
  rw [hasHead_iff] at hasHead ⊢
  simp only [Renderer.severity, textOf, same] at hasHead ⊢
  exact hasHead

theorem body_eq_of_alike (alike : Event.AlikeThroughout left right) : body left = body right := by
  have same : ∀ key, left.valueOf? key = right.valueOf? key := fun key => alike.get?_eq key
  simp only [body, bodyValue, same]

/-- Only the members of the parameters matter for whether a message is valid. -/
theorem isValid_composed_of_mem_iff {head : Head} {parameters others : List Parameter}
    {octets : Bytes} (same : ∀ parameter, parameter ∈ parameters ↔ parameter ∈ others)
    (valid : (renderer.composed origin event head parameters octets).IsValid allowLong) :
    (renderer.composed origin event head others octets).IsValid allowLong := by
  -- an element of the one message is matched by one of the other, with the same members
  have matched : ∀ element ∈ (renderer.composed origin event head others
      octets).structuredData, ∃ other ∈ (renderer.composed origin event head parameters
        octets).structuredData, other.id = element.id ∧
          ∀ parameter ∈ element.parameters, parameter ∈ other.parameters := by
    intro element member
    rcases mem_structuredData_composed.mp member with ⟨filled, rfl⟩
    rcases List.exists_mem_of_ne_nil _ filled with ⟨parameter, inside⟩
    have filled := List.ne_nil_of_mem ((same parameter).mpr inside)
    exact ⟨_, mem_structuredData_composed.mpr ⟨filled, rfl⟩, rfl,
      fun parameter => (same parameter).mpr⟩
  exact {
    severity := valid.severity
    facility := valid.facility
    timestamp := valid.timestamp
    hostname := valid.hostname
    appName := valid.appName
    processId := valid.processId
    messageId := valid.messageId
    elementIds := by
      intro element member
      rcases matched element member with ⟨other, inside, sameId, _⟩
      exact sameId ▸ valid.elementIds other inside
    parameterNames := by
      intro element member parameter listed
      rcases matched element member with ⟨other, inside, _, within⟩
      exact valid.parameterNames other inside parameter (within parameter listed)
    parameterValues := by
      intro element member parameter listed
      rcases matched element member with ⟨other, inside, _, within⟩
      exact valid.parameterValues other inside parameter (within parameter listed)
    body := valid.body }

/-- If there is a line for one of two events that are the same throughout, there is one for the
other. -/
theorem exists_render_of_alike (alike : Event.AlikeThroughout left right)
    (rendered : ∃ line, renderer.render origin current method left = .ok line) :
    ∃ line, renderer.render origin current method right = .ok line := by
  rcases exists_render_eq_ok_iff.mp rendered with ⟨message, isMessage, valid⟩
  rcases message_eq_ok_iff.mp isMessage with
    ⟨head, parameters, octets, hasHead, writes, isBody, rfl⟩
  rcases alike.exists_writes writes with ⟨others, writesOther, same⟩
  rw [body_eq_of_alike alike] at isBody
  rw [composed_eq_of_alike alike] at valid
  refine exists_render_eq_ok_iff.mpr ⟨_, message_eq_ok_iff.mpr ?_,
    isValid_composed_of_mem_iff same valid⟩
  exact ⟨head, others, octets, hasHead.of_alike alike, writesOther, isBody, rfl⟩

/-- Lines of two events that are the same throughout differ in the place of the logger only. -/
theorem sameButForLogger_of_render {logger line other : Text}
    (alike : Event.AlikeThroughout left right)
    (entered : left.valueOf? "logger" = some (.text logger))
    (rendered : renderer.render origin current method left = .ok line)
    (renderedOther : renderer.render origin current method right = .ok other) :
    ∃ reading otherReading, Reading.read? line.utf8 = some reading ∧
      Reading.read? other.utf8 = some otherReading ∧
      reading.SameButForLogger logger otherReading := by
  rcases exists_reading_of_render rendered with
    ⟨head, parameters, octets, reading, hasHead, writes, isBody, isRead, recovers⟩
  rcases exists_reading_of_render renderedOther with
    ⟨otherHead, otherParameters, otherOctets, otherReading, hasOtherHead, writesOther, isBodyOther,
      isReadOther, recoversOther⟩
  cases (hasHead.of_alike alike).unique hasOtherHead
  rw [body_eq_of_alike alike, isBodyOther] at isBody
  cases isBody
  rw [composed_eq_of_alike alike] at recovers
  rcases alike.exists_split entered writes writesOther with
    ⟨others, noLogger, ⟨before, behind, isOthers, rfl⟩, beforeOther, behindOther, isOthersToo, rfl⟩
  have priority := recovers.priority.symm.trans recoversOther.priority
  refine ⟨reading, otherReading, isRead, isReadOther, {
    priority := Int.ofNat.inj (Except.ok.inj priority)
    timestamp := Except.ok.inj (recovers.timestamp.symm.trans recoversOther.timestamp)
    hostname := Value.text.inj (recovers.hostname.symm.trans recoversOther.hostname)
    appName := Value.text.inj (recovers.appName.symm.trans recoversOther.appName)
    processId := Value.text.inj (recovers.processId.symm.trans recoversOther.processId)
    messageId := Value.text.inj (recovers.messageId.symm.trans recoversOther.messageId)
    structuredData := ⟨.text renderer.elementId.text, others, noLogger, ?_, ?_⟩
    body := Option.some.inj (recovers.body.symm.trans recoversOther.body) }⟩
  · refine ⟨before, behind, isOthers, recovers.structuredData.symm.trans ?_⟩
    exact if_neg (by simp)
  · refine ⟨beforeOther, behindOther, isOthersToo, recoversOther.structuredData.symm.trans ?_⟩
    exact if_neg (by simp)

end Renderer

end Syslog
