import Syslog.Proofs.Event.Lossless
import Syslog.Proofs.Message.Capped

namespace Syslog

/-!
# Events under the cap

The cap decides which entries of an event are written at all.  An entry whose key is too long is
refused by nobody; it is passed over, and its value is not even looked at.  So whatever a renderer
without the cap can write, one with the cap can write as well, and what it writes is the same line
without the parameters that have long names (`Renderer.lifting_the_cap_is_conservative`).

The converse fails on purpose: a value that has no text, under a long key, is an obstacle only to
the renderer that would write it.
-/

namespace Event

variable {event : Event} {parameters : List Parameter}

theorem isParameterKey_false_iff {key : Value} :
    IsParameterKey false key ↔ IsParameterKey true key ∧ key.isShort = true := by
  rw [IsParameterKey, IsParameterKey, Value.isName_false_iff]
  tauto

/-- Under the cap an event is written with those of its parameters that have short names. -/
theorem Writes.capped (writes : Writes true event parameters) :
    Writes false event (parameters.filter (·.name.isShort)) := by
  induction writes with
  | nil => exact .nil
  | @keep key value text rest parameters kept written _ inductionHypothesis =>
      rw [List.filter_cons]
      split
      · next short =>
          exact .keep (isParameterKey_false_iff.mpr ⟨kept, short⟩) written inductionHypothesis
      · next long =>
          refine .skip (fun keptToo => ?_) inductionHypothesis
          exact long (isParameterKey_false_iff.mp keptToo).2
  | skip skipped _ inductionHypothesis =>
      exact .skip (fun kept => skipped (isParameterKey_false_iff.mp kept).1) inductionHypothesis

end Event

namespace Renderer

variable {origin : Origin} {built current : Settings} {options : RendererOptions} {method : Text}
  {event : Event}

/-- The renderer with another choice of names. -/
def choosing (renderer : Renderer) (choice : Option Bool) : Renderer :=
  { renderer with allowLongNames := choice }

theorem composed_capped (renderer : Renderer) (choice : Option Bool) (head : Head)
    (parameters : List Parameter) (octets : Bytes) :
    (renderer.choosing choice).composed origin event head
        (parameters.filter (·.name.isShort)) octets =
      (renderer.composed origin event head parameters octets).capped := by
  have data : (if (parameters.filter (·.name.isShort)).isEmpty then []
      else [⟨.text renderer.elementId.text, parameters.filter (·.name.isShort)⟩]) =
        Element.cappedAll (if parameters.isEmpty then []
          else [⟨.text renderer.elementId.text, parameters⟩]) := by
    cases parameters with
    | nil => rfl
    | cons parameter rest =>
        rw [List.isEmpty_cons, if_neg Bool.false_ne_true, Element.cappedAll, List.map_singleton,
          List.filter_singleton, Element.capped]
        cases (List.filter (·.name.isShort) (parameter :: rest)).isEmpty <;> rfl
  rw [composed, Message.capped, composed, ← data]
  rfl

/-- A message that is carried has a line, with the octets of the message. -/
theorem exists_render_of_carries {renderer : Renderer} {allowLong : Bool} {message : Message}
    {wire : WireMessage} (inForce : current.longNames renderer.allowLongNames = allowLong)
    (isMessage : renderer.message origin allowLong method event = .ok message)
    (carries : message.Carries allowLong wire) :
    ∃ line, renderer.render origin current method event = .ok line ∧
      line.encode = .ok wire.encode := by
  subst inForce
  rcases message_eq_ok_iff.mp isMessage with ⟨head, parameters, octets, _, _, isBody, rfl⟩
  rcases exists_text_of_body isBody with ⟨text, encodable, isText⟩
  have wireBody : wire.body = text.utf8 := (Option.some.inj carries.body).symm.trans isText
  rcases wire.exists_text_of_body encodable wireBody with ⟨line, encodableLine, isLine⟩
  refine ⟨line, render_eq_ok_iff.mpr ⟨_, wire.encode, isMessage, ?_, ?_⟩,
    Text.encode_eq_ok_iff.mpr ⟨encodableLine, isLine⟩⟩
  · exact Message.marshal_eq_ok_iff.mpr ⟨wire, carries, rfl⟩
  · rw [← isLine, Utf8.decodeReplacing_utf8 encodableLine]

/-- A name that is short can be given to a renderer under any settings. -/
theorem isBuilt_choosing {renderer : Renderer} {identity : Identity}
    (isBuilt : IsBuilt identity built options renderer) (short : options.elementId.isShort = true)
    (settings : Settings) (choice : Option Bool) :
    IsBuilt identity settings { options with allowLongNames := choice }
      (renderer.choosing choice) where
  appName := isBuilt.appName
  hostname := isBuilt.hostname
  facility := isBuilt.facility
  elementId := isBuilt.elementId
  isName := by
    have isName := Text.isName_of_isName isBuilt.isName
    rw [isBuilt.elementId] at short
    cases settings.longNames choice with
    | true => exact isName
    | false => exact Text.isName_false_iff.mpr ⟨isName, of_decide_eq_true short⟩
  allowLongNames := rfl

end Renderer

/-- That a line is read like another one, but for the parameters with long names. -/
def Text.IsCapped (line full : Text) : Prop :=
  ∃ octets fullOctets reading fullReading,
    line.encode = .ok octets ∧ Reading.read? octets = some reading ∧
      full.encode = .ok fullOctets ∧ Reading.read? fullOctets = some fullReading ∧
        reading.IsCapped fullReading

namespace Renderer

variable {origin : Origin} {current other : Settings} {renderer : Renderer}
  {choice : Option Bool} {method : Text} {event : Event}

theorem exists_isCapped_of_render (lifted : current.longNames renderer.allowLongNames = true)
    (capped : other.longNames choice = false) (short : renderer.elementId.text.length ≤ 32)
    {line : Text} (rendered : renderer.render origin current method event = .ok line) :
    ∃ cappedLine, (renderer.choosing choice).render origin other method event = .ok cappedLine ∧
      cappedLine.IsCapped line := by
  rcases exists_wire_of_render rendered with
    ⟨message, wire, isMessage, carries, encodable, isWire⟩
  rw [lifted] at isMessage carries
  rcases message_eq_ok_iff.mp isMessage with
    ⟨head, parameters, octets, ⟨severity, appName, messageId⟩, writes, isBody, rfl⟩
  have shortIds : ∀ element ∈ (renderer.composed origin event head parameters
      octets).structuredData, element.id.isShort = true := by
    intro element member
    rcases mem_structuredData_composed.mp member with ⟨_, rfl⟩
    exact decide_eq_true short
  have isCapped : (renderer.choosing choice).message origin false method event =
      .ok (renderer.composed origin event head parameters octets).capped :=
    message_eq_ok_iff.mpr ⟨head, _, octets, ⟨severity, appName, messageId⟩, writes.capped, isBody,
      renderer.composed_capped choice head parameters octets⟩
  rcases exists_render_of_carries capped isCapped (carries.capped shortIds) with
    ⟨cappedLine, renderedToo, encoded⟩
  have isRead := Reading.read?_encode wire.capped
  rw [WireMessage.reading_capped] at isRead
  exact ⟨cappedLine, renderedToo, _, _, _, _, encoded, isRead,
    Text.encode_eq_ok_iff.mpr ⟨encodable, isWire⟩, Reading.read?_encode wire,
    wire.reading.isCapped_capped⟩

/-- Messages that are accepted under the cap are those with short names that are accepted without
it, with the same octets.  A renderer that lifts the cap and one that does not, both built with a
short name for the element, have the same lines but for the parameters with long names, as far as
the first has a line. -/
theorem lifting_the_cap_is_conservative :
    (∀ (message : Message) (octets : Bytes), message.marshal false = .ok octets ↔
      message.marshal true = .ok octets ∧ message.HasShortNames) ∧
    ∀ (origin : Origin) (built current other : Settings) (options : RendererOptions)
      (lifted capped : Option Bool) (permissive : Renderer),
      options.elementId.isShort = true → current.longNames lifted = true →
      other.longNames capped = false →
      ofOptions origin.identity built { options with allowLongNames := lifted } = .ok permissive →
      ∃ strict : Renderer,
        (∀ settings, ofOptions origin.identity settings
          { options with allowLongNames := capped } = .ok strict) ∧
        ∀ method event line, permissive.render origin current method event = .ok line →
          ∃ strictLine, strict.render origin other method event = .ok strictLine ∧
            strictLine.IsCapped line := by
  refine ⟨fun message octets => Message.marshal_false_eq_ok_iff, ?_⟩
  intro origin built current other options lifted capped permissive short isLifted isCapped isBuilt
  have isBuilt := ofOptions_eq_ok_iff.mp isBuilt
  refine ⟨permissive.choosing capped, fun settings => ?_, fun method event line rendered => ?_⟩
  · exact ofOptions_eq_ok_iff.mpr (isBuilt_choosing isBuilt short settings capped)
  · have shortId : permissive.elementId.text.length ≤ 32 := by
      have isId : options.elementId = .text permissive.elementId.text := isBuilt.elementId
      rw [isId] at short
      exact of_decide_eq_true short
    refine exists_isCapped_of_render ?_ isCapped shortId rendered
    rw [isBuilt.allowLongNames]
    exact isLifted

/-- An event with a long key between two others. -/
theorem lifting_the_cap_is_conservative_of_long_key :
    let origin := Origin.atEpoch ⟨"host", "app", "42"⟩
    let long : Text := List.replicate 40 (CodePoint.ofChar 'x')
    let event : Event := [(.text "user", .text "alice"), (.text long, .null), (.text "n", .int 2)]
    let message : Message := {
      timestamp := .int 0, structuredData := [⟨.text "a", [⟨.text long, .text []⟩]⟩] }
    (∃ octets, message.marshal true = .ok octets ∧ message.marshal false ≠ .ok octets) ∧
      ∃ permissive strict line strictLine,
        ofOptions origin.identity {} { allowLongNames := some true } = .ok permissive ∧
        ofOptions origin.identity {} { allowLongNames := some false } = .ok strict ∧
        permissive.render origin {} "info" event = .ok line ∧
        strict.render origin {} "info" event = .ok strictLine ∧ strictLine.IsCapped line := by
  intro origin long event message
  constructor
  · have marshalled : message.marshal true = .ok _ := rfl
    refine ⟨_, marshalled, fun capped => ?_⟩
    have short := ((lifting_the_cap_is_conservative.1 message _).mp capped).2
    exact absurd ((short _ List.mem_cons_self).2 _ List.mem_cons_self) (by decide)
  · rcases built : ofOptions origin.identity {} { allowLongNames := some true } with
      fault | permissive
    · cases built
    · have extended := lifting_the_cap_is_conservative.2 origin {} {} {} {} (some true) (some false)
      rcases extended permissive rfl rfl rfl built with ⟨strict, strictBuilt, lines⟩
      rcases rendered : permissive.render origin {} "info" event with fault | line
      · cases built
        cases rendered
      · rcases lines "info" event line rendered with ⟨strictLine, strictRendered, isCapped⟩
        exact ⟨permissive, strict, line, strictLine, rfl, strictBuilt {}, rendered, strictRendered,
          isCapped⟩

end Renderer

end Syslog
