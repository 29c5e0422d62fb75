import Syslog.Proofs.Event.Lossless
import Syslog.Proofs.Event.Prepared
import Syslog.Proofs.Time.Iso8601

namespace Syslog

/-!
# The time of a line

A renderer takes the time of a line from one entry of the event, and from the clock if the value
of that entry is no time.  The entry has no other part in the line: it is no parameter, and
whether there is a line does not depend on it.

So a text under this key is as good as the time that is read from it.  A time that has been written
for a message is read again, to the microsecond, and stands in the line as it was written
(`Renderer.written_times_are_read_back`).
-/

namespace Message

variable {allowLong : Bool}

/-- The message with another time. -/
def withTime (message : Message) (dateTime : DateTime) : Message :=
  { message with timestamp := .time dateTime }

/-- Of a time the check only sees that it is one. -/
theorem check_withTime {message : Message} {base : DateTime}
    (isTime : message.timestamp = .time base) (dateTime : DateTime) :
    (message.withTime dateTime).check allowLong =
      (message.check allowLong).map fun wire =>
        { wire with timestamp := .ofDateTime dateTime } := by
  have anyTime : ∀ time : DateTime,
      (Value.time time).checked .timestamp Timestamp.ofValue? = .ok (.ofDateTime time) :=
    fun _ => rfl
  simp only [check, withTime, isTime, anyTime]
  change _ = (fun wire : WireMessage => { wire with timestamp := .ofDateTime dateTime }) <$> _
  simp only [map_bind]
  rfl

/-- So the octets of the message are those that it has anyway, but for the time. -/
theorem marshal_withTime {message : Message} {base : DateTime}
    (isTime : message.timestamp = .time base) (dateTime : DateTime) :
    (message.withTime dateTime).marshal allowLong =
      (message.check allowLong).map fun wire =>
        ({ wire with timestamp := .ofDateTime dateTime } : WireMessage).encode := by
  rw [marshal, check_withTime isTime]
  cases message.check allowLong with
  | error _ => rfl
  | ok _ => rfl

/-- The line of a message. -/
def line (allowLong : Bool) (message : Message) : Except Fault Text :=
  ((message.marshal allowLong).mapError Fault.invalid).map Utf8.decodeReplacing

/-- Times that are formatted alike make no difference to the line. -/
theorem line_withTime_congr {message : Message} {base left right : DateTime}
    (isTime : message.timestamp = .time base)
    (same : Timestamp.format (.time left) = Timestamp.format (.time right)) :
    (message.withTime left).line allowLong = (message.withTime right).line allowLong := by
  have written : (Timestamp.ofDateTime left).written = (Timestamp.ofDateTime right).written :=
    Except.ok.inj same
  have sameEncoding : ∀ wire : WireMessage,
      ({ wire with timestamp := .ofDateTime left } : WireMessage).encode =
        ({ wire with timestamp := .ofDateTime right } : WireMessage).encode := by
    intro wire
    simp only [WireMessage.encode, WireMessage.head, written, WireMessage.priority,
      WireMessage.writtenData]
  rw [line, line, marshal_withTime isTime, marshal_withTime isTime, funext sameEncoding]

/-- Whether there is a line does not depend on the time. -/
theorem exists_line_withTime_iff {message : Message} {base : DateTime}
    (isTime : message.timestamp = .time base) (dateTime : DateTime) :
    (∃ line, (message.withTime dateTime).line allowLong = .ok line) ↔
      ∃ line, message.line allowLong = .ok line := by
  simp only [line, map_eq_ok_iff, mapError_eq_ok_iff, marshal_withTime isTime]
  simp only [marshal, map_eq_ok_iff]
  constructor
  · rintro ⟨_, _, ⟨wire, isWire, _⟩, _⟩
    exact ⟨_, _, ⟨wire, isWire, rfl⟩, rfl⟩
  · rintro ⟨_, _, ⟨wire, isWire, _⟩, _⟩
    exact ⟨_, _, ⟨wire, isWire, rfl⟩, rfl⟩

end Message

namespace Renderer

variable {allowLong : Bool} {origin : Origin} {settings : Settings} {renderer : Renderer}
  {method : Text} {event : Event}

/-! ## The entry for the time -/

/-- Entries that are read for something else are no parameters. -/
theorem parameters_without {keys : List Text} (reserved : ∀ text ∈ keys, text ∈ reservedKeys)
    (event : Event) : parameters allowLong (Entries.without keys event) =
      parameters allowLong event := by
  induction event with
  | nil => rfl
  | cons entry rest inductionHypothesis =>
      rcases entry with ⟨key, value⟩
      rcases Entries.cases_without keys key with ⟨text, member, rfl⟩ | different
      · have skipped : parameterName? allowLong (.text text) = none := by
          rw [parameterName?, List.contains_iff_mem.mpr (reserved text member)]
          rfl
        rw [Entries.without_cons_of_mem member, inductionHypothesis, parameters, skipped]
      · rw [Entries.without_cons_of_ne different, parameters, parameters, inductionHypothesis]

theorem parameters_put_time (event : Event) (value : Value) :
    parameters allowLong (event.put "timestamp" value) = parameters allowLong event := by
  have reserved : ∀ text ∈ [Text.ofString "timestamp"], text ∈ reservedKeys := by decide
  rw [← parameters_without reserved, ← parameters_without reserved event, Event.put,
    Entries.without_insert_of_mem List.mem_cons_self]

/-- A value that is read as a time decides about the time of the message and about nothing else;
the clock does not come in. -/
theorem message_put_time {value : Value} {dateTime : DateTime}
    (isTime : time? value = some dateTime) (origin : Origin) (now : DateTime) (event : Event) :
    renderer.message { origin with now } allowLong method (event.put "timestamp" value) =
      (renderer.message origin allowLong method event).map (Message.withTime · dateTime) := by
  have other : ∀ key : String, Text.ofString key ≠ Text.ofString "timestamp" →
      (event.put "timestamp" value).valueOf? key = event.valueOf? key :=
    fun key different => Event.valueOf?_put_of_ne different event value
  have own : (event.put "timestamp" value).valueOf? "timestamp" = some value := by
    rw [Event.valueOf?_put, if_pos rfl]
  have sameBody : body (event.put "timestamp" value) = body event := by
    rw [body, bodyValue, other "message" (by decide), other "event" (by decide)]
    rfl
  simp only [message, parameters_put_time, sameBody, own, isTime, severity, textOf,
    other "severity" (by decide), other "level" (by decide), other "app_name" (by decide),
    other "msg_id" (by decide), Option.bind_some, Option.getD_some, map_bind_eq]
  rfl

/-- A line is that of the message of the event. -/
theorem render_eq_line :
    renderer.render origin settings method event =
      renderer.message origin (settings.longNames renderer.allowLongNames) method event >>=
        Message.line (settings.longNames renderer.allowLongNames) := by
  rw [render]
  cases renderer.message origin (settings.longNames renderer.allowLongNames) method event with
  | error _ => rfl
  | ok _ => rfl

/-- All messages of a renderer have a time. -/
theorem exists_time_of_message {message : Message}
    (isMessage : renderer.message origin allowLong method event = .ok message) :
    ∃ base, message.timestamp = .time base := by
  rcases message_eq_ok_iff.mp isMessage with ⟨_, _, _, _, _, _, rfl⟩
  exact ⟨_, rfl⟩

/-- How an event is rendered with a value that is read as a time. -/
theorem render_put_time {value : Value} {dateTime : DateTime} (isTime : time? value = some dateTime)
    (origin : Origin) (now : DateTime) (event : Event) :
    renderer.render { origin with now } settings method (event.put "timestamp" value) =
      renderer.message origin (settings.longNames renderer.allowLongNames) method event >>=
        fun message => (message.withTime dateTime).line
          (settings.longNames renderer.allowLongNames) := by
  rw [render_eq_line, message_put_time isTime]
  cases renderer.message origin (settings.longNames renderer.allowLongNames) method event with
  | error _ => rfl
  | ok _ => rfl

/-- Values that are read as times with one written form are rendered alike. -/
theorem render_put_time_congr {left right : Value} {dateTime other : DateTime}
    (isTime : time? left = some dateTime) (isOther : time? right = some other)
    (same : Timestamp.format (.time dateTime) = Timestamp.format (.time other)) :
    renderer.render origin settings method (event.put "timestamp" left) =
      renderer.render origin settings method (event.put "timestamp" right) := by
  refine (render_put_time isTime origin origin.now event).trans
    (Eq.trans ?_ (render_put_time isOther origin origin.now event).symm)
  cases found : renderer.message origin (settings.longNames renderer.allowLongNames) method
    event with
  | error _ => rfl
  | ok message =>
      rcases exists_time_of_message found with ⟨base, isBase⟩
      exact Message.line_withTime_congr isBase same

/-- That a value under the key of the time stamps the line of an event: the line does not depend on
the clock, it is there if there is one without the value, and the time in it is the stamp. -/
structure Stamps (origin : Origin) (settings : Settings) (renderer : Renderer) (method : Text)
    (event : Event) (value : Value) (stamp : Text) : Prop where
  now : ∀ now : DateTime,
    renderer.render { origin with now } settings method (event.put "timestamp" value) =
      renderer.render origin settings method (event.put "timestamp" value)
  line : (∃ line, renderer.render origin settings method (event.put "timestamp" value) = .ok line) ↔
    ∃ line, renderer.render origin settings method event = .ok line
  stamp : ∀ line,
    renderer.render origin settings method (event.put "timestamp" value) = .ok line →
      ∃ reading, Reading.read? line.utf8 = some reading ∧ reading.timestamp = stamp

/-- What is read as a time stamps lines with the written form of that time. -/
theorem stamps_of_time? {value : Value} {dateTime : DateTime} (isTime : time? value = some dateTime)
    {stamp : Text} (formatted : Timestamp.format (.time dateTime) = .ok stamp) :
    Stamps origin settings renderer method event value stamp where
  now now := by
    refine (render_put_time isTime origin now event).trans ?_
    exact (render_put_time isTime origin origin.now event).symm
  line := by
    rw [show renderer.render origin settings method (event.put "timestamp" value) = _ from
      render_put_time isTime origin origin.now event, render_eq_line]
    simp only [bind_eq_ok_iff]
    constructor
    · rintro ⟨_, message, isMessage, isLine⟩
      rcases exists_time_of_message isMessage with ⟨base, isBase⟩
      rcases (Message.exists_line_withTime_iff isBase dateTime).mp ⟨_, isLine⟩ with ⟨line, isLine⟩
      exact ⟨line, message, isMessage, isLine⟩
    · rintro ⟨_, message, isMessage, isLine⟩
      rcases exists_time_of_message isMessage with ⟨base, isBase⟩
      rcases (Message.exists_line_withTime_iff isBase dateTime).mpr ⟨_, isLine⟩ with ⟨line, isLine⟩
      exact ⟨line, message, isMessage, isLine⟩
  stamp line rendered := by
    rcases exists_wire_of_render rendered with ⟨message, wire, isMessage, carries, _, encoded⟩
    have composed := (message_put_time isTime origin origin.now event).symm.trans isMessage
    rcases map_eq_ok_iff.mp composed with ⟨untimed, _, rfl⟩
    refine ⟨wire.reading, ?_, ?_⟩
    · rw [encoded, Reading.read?_encode]
    · exact Except.ok.inj (carries.recovers.timestamp.symm.trans formatted)

/-! ## Written times -/

/-- A written time is read again, with its part of a second cut to microseconds. -/
theorem exists_time?_of_written (dateTime : DateTime) {nanoseconds : Nat}
    (small : nanoseconds < 1000000000) (inside : dateTime.offsetMinutes.natAbs < 1440) :
    ∃ read, time? (.text (Rfc3339.written dateTime nanoseconds)) = some read ∧
      Timestamp.format (.time read) =
        .ok (Rfc3339.written dateTime (nanoseconds / 1000 * 1000)) := by
  rcases Iso8601.read?_written dateTime small inside with ⟨offset, microseconds, isTime⟩
  let read : DateTime :=
    ⟨dateTime.date, dateTime.clock.withMicrosecond (nanoseconds / 1000) (by omega), .fixed offset⟩
  have seconds : read.localSeconds = dateTime.localSeconds := rfl
  have minutes : read.offsetMinutes = dateTime.offsetMinutes := by
    have whole := offset.minutes_near.2 (by omega)
    change offset.minutes = _
    omega
  exact ⟨read, isTime, congrArg Except.ok (Rfc3339.written_congr seconds minutes _)⟩

/-- Cutting an integer to microseconds cuts the part of a second in its text. -/
theorem format_of_int {nanoseconds : Int} {text : Text}
    (formatted : Timestamp.format (.int nanoseconds) = .ok text) :
    ∃ (dateTime : DateTime) (part : Nat), part < 1000000000 ∧ dateTime.zone = .utc ∧
      text = Rfc3339.written dateTime part ∧
      Timestamp.format (.int (nanoseconds / 1000 * 1000)) =
        .ok (Rfc3339.written dateTime (part / 1000 * 1000)) := by
  rcases Timestamp.format_eq_ok_iff.mp formatted with ⟨timestamp, found, rfl⟩
  rcases Rfc3339.of_ofNanoseconds?_eq_some found with ⟨zone, _, _⟩
  rcases Option.map_eq_some_iff.mp found with ⟨dateTime, isDateTime, rfl⟩
  have nonneg : (0 : Int) ≤ 1000000000 := by decide
  have seconds : (nanoseconds / 1000 * 1000).fdiv 1000000000 = nanoseconds.fdiv 1000000000 := by
    rw [Int.fdiv_eq_ediv_of_nonneg _ nonneg, Int.fdiv_eq_ediv_of_nonneg _ nonneg]
    omega
  have part : ((nanoseconds / 1000 * 1000).fmod 1000000000).toNat =
      (nanoseconds.fmod 1000000000).toNat / 1000 * 1000 := by
    rw [Int.fmod_eq_emod_of_nonneg _ nonneg, Int.fmod_eq_emod_of_nonneg _ nonneg]
    omega
  refine ⟨dateTime, _, Timestamp.nanoseconds_lt _, zone, rfl, ?_⟩
  rw [Timestamp.format, Timestamp.ofValue?, Timestamp.ofNanoseconds?, seconds, isDateTime, ← part]
  rfl

/-- A written time in place of the time itself makes no difference to a line, if the offset is made
of whole minutes: the line is stamped with what is written, whatever the clock says.  A written
integer stamps it with the text of the integer cut to microseconds. -/
theorem written_times_are_read_back (origin : Origin) (settings : Settings) (renderer : Renderer)
    (method : Text) (event : Event) :
    (∀ dateTime : DateTime, dateTime.offsetMicroseconds % 60000000 = 0 →
      ∃ text, Timestamp.format (.time dateTime) = .ok text ∧
        Stamps origin settings renderer method event (.text text) text ∧
        renderer.render origin settings method (event.put "timestamp" (.text text)) =
          renderer.render origin settings method (event.put "timestamp" (.time dateTime))) ∧
      ∀ (nanoseconds : Int) (text : Text), Timestamp.format (.int nanoseconds) = .ok text →
        ∃ stamp, Timestamp.format (.int (nanoseconds / 1000 * 1000)) = .ok stamp ∧
          Stamps origin settings renderer method event (.text text) stamp := by
  constructor
  · intro dateTime whole
    have small := (Timestamp.ofDateTime dateTime).nanoseconds_lt
    have inside : dateTime.offsetMinutes.natAbs < 1440 := by
      have day := dateTime.natAbs_offsetMicroseconds_lt
      have minutes := dateTime.offsetMinutes_near.2 whole
      omega
    rcases exists_time?_of_written dateTime small inside with ⟨read, isTime, formatted⟩
    have microseconds : dateTime.clock.microsecond * 1000 / 1000 = dateTime.clock.microsecond :=
      Nat.mul_div_cancel _ (by decide)
    change Timestamp.format (.time read) = .ok (Rfc3339.written dateTime
      (dateTime.clock.microsecond * 1000 / 1000 * 1000)) at formatted
    rw [microseconds] at formatted
    exact ⟨_, rfl, stamps_of_time? isTime formatted, render_put_time_congr isTime rfl formatted⟩
  · intro nanoseconds text formatted
    rcases format_of_int formatted with ⟨dateTime, part, small, zone, rfl, rounded⟩
    have utc : dateTime.zone.CountsAsUtc := zone ▸ Zone.countsAsUtc_utc
    have inside : dateTime.offsetMinutes.natAbs < 1440 := by
      rw [(DateTime.offset_of_countsAsUtc utc).2]
      decide
    rcases exists_time?_of_written dateTime small inside with ⟨read, isTime, formattedRead⟩
    exact ⟨_, rounded, stamps_of_time? isTime formattedRead⟩

/-- A time a nanosecond before the epoch stamps a line with the last microsecond before it. -/
theorem written_times_are_read_back_of_negative :
    let origin := Origin.atEpoch ⟨"host", "app", "42"⟩
    let event : Event := [(.text "event", .text "start")]
    let written : Value := .text "1969-12-31T23:59:59.999999999Z"
    ∃ renderer line, ofOptions origin.identity {} {} = .ok renderer ∧
      renderer.render origin {} "info" (event.put "timestamp" written) = .ok line ∧
      Stamps origin {} renderer "info" event written "1969-12-31T23:59:59.999999Z" := by
  intro origin event written
  rcases built : ofOptions origin.identity {} {} with fault | renderer
  · cases built
  · rcases (written_times_are_read_back origin {} renderer "info" event).2 (-1) _ rfl with
      ⟨stamp, formatted, stamps⟩
    cases formatted
    cases built
    exact ⟨_, _, rfl, rfl, stamps⟩

end Renderer

end Syslog
