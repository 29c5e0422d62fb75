import Syslog.Proofs.Event.Composed

namespace Syslog

/-!
# When an event is rendered

Whether there is a line for an event depends on six things only: its severity, the two names that
it displays in the header, the element for its parameters, the texts of these parameters, and
the text of its body.  The conditions on them are those of the format, and together they are
also sufficient (`Renderer.renders_iff_renderable`).

Everything else is free.  A time of any kind stands for some time, and an entry whose key is no name
is not even looked at, so the values of such entries can be changed at will.
-/

namespace Event

/-- A key whose value does not count: it is neither read nor the name of a parameter, or it is
that of the time, which is replaced if need be. -/
def IsFreeKey (allowLong : Bool) (key : Value) : Prop :=
  ¬IsReadKey key ∧ ¬IsParameterKey allowLong key

/-- The event with other values under the same keys. -/
def withValues (change : Value → Value → Value) (event : Event) : Event :=
  event.map fun entry => (entry.1, change entry.1 entry.2)

/-- That two events agree on all keys but the free ones. -/
structure Matches (allowLong : Bool) (left right : Event) : Prop where
  read : ∀ key : String, Text.ofString key ∈ readKeys → left.valueOf? key = right.valueOf? key
  kept : ∀ entry : Value × Value, IsParameterKey allowLong entry.1 → (entry ∈ left ↔ entry ∈ right)

namespace Matches

variable {allowLong : Bool} {left right : Event}

theorem symm (same : Matches allowLong left right) : Matches allowLong right left where
  read key isRead := (same.read key isRead).symm
  kept entry isKept := (same.kept entry isKept).symm

theorem hasSeverity (same : Matches allowLong left right) {method : Text} {code : Int} :
    left.HasSeverity method code ↔ right.HasSeverity method code := by
  rw [hasSeverity_iff, hasSeverity_iff, Renderer.severity, Renderer.severity,
    same.read "severity" (by decide), same.read "level" (by decide)]

theorem displays (same : Matches allowLong left right) {key : String}
    (isRead : Text.ofString key ∈ readKeys) {default text : Text} :
    left.Displays key default text ↔ right.Displays key default text := by
  rw [displays_iff, displays_iff, Renderer.textOf, Renderer.textOf, same.read key isRead]

theorem bodyValue? (same : Matches allowLong left right) :
    left.bodyValue? = right.bodyValue? := by
  simp only [Event.bodyValue?, present?, same.read "message" (by decide),
    same.read "event" (by decide)]

end Matches

theorem matches_withValues {allowLong : Bool} {change : Value → Value → Value}
    (keeps : ∀ key value, ¬IsFreeKey allowLong key → change key value = value) (event : Event) :
    Matches allowLong (event.withValues change) event where
  read key isRead := by
    have notFree : ¬IsFreeKey allowLong (.text (Text.ofString key)) :=
      fun free => free.1 (isReadKey_text_iff.mpr isRead)
    induction event with
    | nil => rfl
    | cons entry rest inductionHypothesis =>
        rcases entry with ⟨present, value⟩
        rw [valueOf?, valueOf?, withValues, List.map_cons, Entries.get?_cons, Entries.get?_cons]
        split
        · next found =>
            rw [Value.same_text, beq_iff_eq] at found
            cases present with
            | text content =>
                cases found
                rw [keeps _ value notFree]
            | _ => cases found
        · exact inductionHypothesis
  kept entry isKept := by
    have keeps : ∀ value, change entry.1 value = value :=
      fun value => keeps entry.1 value fun free => free.2 isKept
    rw [withValues, List.mem_map]
    constructor
    · rintro ⟨original, member, rfl⟩
      rw [keeps]
      exact member
    · intro member
      exact ⟨entry, member, by rw [keeps]⟩

end Event

/-- The conditions on an event, for a renderer with the given options and under the given cap. -/
structure Renderer.Renderable (identity : Identity) (allowLong : Bool)
    (options : RendererOptions) (method : Text) (event : Event) : Prop where
  severity : ∃ code, event.HasSeverity method code ∧ 0 ≤ code ∧ code ≤ 8
  appName : ∃ own text, options.appName.orText identity.appName = .text own ∧
    event.Displays "app_name" own text ∧ text.length ≤ 48 ∧ ∀ c ∈ text, IsPrintable c.val
  messageId : ∃ text, event.Displays "msg_id" [] text ∧
    text.length ≤ 32 ∧ ∀ c ∈ text, IsPrintable c.val
  elementId : (∃ entry ∈ event, Event.IsParameterKey allowLong entry.1) →
    options.elementId.IsName allowLong
  parameters : ∀ entry ∈ event, Event.IsParameterKey allowLong entry.1 →
    ∃ text, entry.2.parameterText = .ok text ∧ ∀ c ∈ text, c.val < 0xD800 ∨ 0xDFFF < c.val
  body : ∀ value, event.bodyValue? = some value →
    value.HasWords ∧ ∀ c ∈ value.shown, c.val < 0xD800 ∨ 0xDFFF < c.val

namespace Renderer

variable {origin : Origin} {built current : Settings} {allowLong : Bool}
  {options : RendererOptions} {renderer : Renderer} {method : Text} {event : Event}

theorem exists_body_iff :
    (∃ octets, body event = .ok octets) ↔
      ∀ value, event.bodyValue? = some value →
        value.HasWords ∧ ∀ c ∈ value.shown, c.val < 0xD800 ∨ 0xDFFF < c.val := by
  simp only [Event.body_eq_ok_iff, ← Text.isEncodable_iff]
  cases event.bodyValue? with
  | none => simp
  | some value => simp

/-- The conditions are those under which the message of the event can be composed and is valid. -/
theorem exists_message_iff (numbered : origin.identity.HasNumber)
    (facility : Property.facility.Allows allowLong options.facility)
    (isBuilt : IsBuilt origin.identity built options renderer) :
    (∃ message, renderer.message origin allowLong method event = .ok message ∧
      message.IsValid allowLong) ↔
        Renderable origin.identity allowLong options method event := by
  rw [← isBuilt.facility] at facility
  constructor
  · rintro ⟨message, isMessage, valid⟩
    rcases message_eq_ok_iff.mp isMessage with
      ⟨head, parameters, octets, hasHead, writes, isBody, rfl⟩
    rcases (isValid_composed_iff numbered facility writes).mp valid with
      ⟨severity, ⟨appName, sameApp, shortApp, printableApp⟩,
        ⟨messageId, sameId, shortId, printableId⟩, elementId, values⟩
    cases Value.text.inj sameApp
    cases Value.text.inj sameId
    exact {
      severity := ⟨_, hasHead.severity, severity⟩
      appName := ⟨_, _, isBuilt.appName, hasHead.appName, shortApp, printableApp⟩
      messageId := ⟨_, hasHead.messageId, shortId, printableId⟩
      elementId := by
        rintro ⟨entry, member, kept⟩
        rcases writes.exists_of_kept member kept with ⟨text, _, inside⟩
        rw [isBuilt.elementId]
        exact elementId (List.ne_nil_of_mem inside)
      parameters := by
        intro entry member kept
        rcases writes.exists_of_kept member kept with ⟨text, written, inside⟩
        rcases values _ inside with ⟨content, same, scalar⟩
        cases same
        exact ⟨_, written, scalar⟩
      body := exists_body_iff.mp ⟨octets, isBody⟩ }
  · intro renderable
    have texts : ∀ entry ∈ event, Event.IsParameterKey allowLong entry.1 →
        ∃ text, entry.2.parameterText = .ok text := by
      intro entry member kept
      rcases renderable.parameters entry member kept with ⟨text, written, _⟩
      exact ⟨text, written⟩
    rcases Event.exists_writes_iff.mpr texts with ⟨parameters, writes⟩
    rcases exists_body_iff.mpr renderable.body with ⟨octets, isBody⟩
    rcases renderable.severity with ⟨code, hasSeverity, inRange⟩
    rcases renderable.appName with ⟨own, appName, isOwn, displaysApp, validApp⟩
    rcases renderable.messageId with ⟨messageId, displaysId, validId⟩
    cases isOwn.symm.trans isBuilt.appName
    refine ⟨_, message_eq_ok_iff.mpr ⟨⟨code, appName, messageId⟩, parameters, octets,
      ⟨hasSeverity, displaysApp, displaysId⟩, writes, isBody, rfl⟩,
      (isValid_composed_iff numbered facility writes).mpr
        ⟨inRange, ⟨_, rfl, validApp⟩, ⟨_, rfl, validId⟩, ?_, ?_⟩⟩
    · intro filled
      rcases List.exists_mem_of_ne_nil _ filled with ⟨parameter, inside⟩
      rcases writes.mem_iff.mp inside with ⟨entry, member, kept, _⟩
      rw [← isBuilt.elementId]
      exact renderable.elementId ⟨entry, member, kept⟩
    · intro parameter inside
      rcases writes.mem_iff.mp inside with ⟨entry, member, kept, _, text, written, value⟩
      rcases renderable.parameters entry member kept with ⟨content, writtenContent, scalar⟩
      cases written.symm.trans writtenContent
      exact ⟨_, value, scalar⟩

/-- Events that agree on all keys but the free ones are rendered alike. -/
theorem Renderable.of_matches {identity : Identity} {other : Event}
    (same : event.Matches allowLong other)
    (renderable : Renderable identity allowLong options method event) :
    Renderable identity allowLong options method other where
  severity := by
    rcases renderable.severity with ⟨code, has, inRange⟩
    exact ⟨code, same.hasSeverity.mp has, inRange⟩
  appName := by
    rcases renderable.appName with ⟨own, text, isOwn, displays, valid⟩
    exact ⟨own, text, isOwn, (same.displays (by decide)).mp displays, valid⟩
  messageId := by
    rcases renderable.messageId with ⟨text, displays, valid⟩
    exact ⟨text, (same.displays (by decide)).mp displays, valid⟩
  elementId := by
    rintro ⟨entry, member, kept⟩
    exact renderable.elementId ⟨entry, (same.kept entry kept).mpr member, kept⟩
  parameters := fun entry member kept =>
    renderable.parameters entry ((same.kept entry kept).mpr member) kept
  body := by
    rw [← same.bodyValue?]
    exact renderable.body

/-- There is a line for an event exactly if the event is renderable, under the cap of the moment.
Otherwise only the severity, the two names, the element and the values of parameters can be
reported as invalid; and entries with free keys, among them that of the time, can hold
anything. -/
theorem renders_iff_renderable (numbered : origin.identity.HasNumber)
    (facility : ∃ code : Int, options.facility = .int code ∧ 0 ≤ code ∧ code ≤ 23)
    (isBuilt : ofOptions origin.identity built options = .ok renderer) :
    let allowLong := current.longNames options.allowLongNames
    ((∃ line, renderer.render origin current method event = .ok line) ↔
      Renderable origin.identity allowLong options method event) ∧
    (∀ fault, renderer.render origin current method event = .error (.invalid fault) →
      fault.property ∈ [.severity, .appName, .messageId, .elementId, .parameterValue]) ∧
    ∀ change : Value → Value → Value,
      (∀ key value, ¬Event.IsFreeKey allowLong key → change key value = value) →
        ((∃ line, renderer.render origin current method (event.withValues change) = .ok line) ↔
          ∃ line, renderer.render origin current method event = .ok line) := by
  intro allowLong
  have isBuilt := ofOptions_eq_ok_iff.mp isBuilt
  have renders : ∀ event : Event,
      (∃ line, renderer.render origin current method event = .ok line) ↔
        Renderable origin.identity allowLong options method event := by
    intro event
    rw [exists_render_eq_ok_iff, isBuilt.allowLongNames]
    exact exists_message_iff numbered facility isBuilt
  refine ⟨renders event, ?_, ?_⟩
  · intro fault failed
    rcases exists_message_of_render_eq_invalid failed with ⟨message, isMessage, invalid⟩
    rcases message_eq_ok_iff.mp isMessage with ⟨head, parameters, octets, _, writes, _, rfl⟩
    rcases Message.violation_of_marshal_eq_error invalid with ⟨holds, violated⟩
    rw [isBuilt.allowLongNames] at writes violated
    rw [← isBuilt.facility] at facility
    by_contra certain
    exact violated (allows_of_composed numbered facility writes certain holds)
  · intro change keeps
    have same := Event.matches_withValues keeps event
    rw [renders, renders]
    exact ⟨.of_matches same, .of_matches same.symm⟩

/-- Options with a name that is valid only as long as the cap is lifted. -/
def longNamed : RendererOptions where
  elementId := .text (List.replicate 40 (CodePoint.ofChar 'x'))

/-- Puts null in place of any time. -/
def withoutTime (key value : Value) : Value :=
  match key with
  | .text name => if name = "timestamp" then .null else value
  | _ => value

/-- After the cap has come back, a renderer with a long name still renders an event without
parameters, with a time that cannot be read or with none, but not an event that has one. -/
theorem renders_iff_renderable_of_lapsed_cap :
    let origin := Origin.atEpoch ⟨"host", "app", "42"⟩
    let bare : Event := [(.text "timestamp", .text "soon"), (.text "event", .text "up")]
    let filled : Event := [(.text "user", .text "alice"), (.text "event", .text "up")]
    ∃ renderer, ofOptions origin.identity { allowLongNames := true } longNamed = .ok renderer ∧
      (∃ line, renderer.render origin {} "info" bare = .ok line) ∧
      (∃ line, renderer.render origin {} "info" (bare.withValues withoutTime) = .ok line) ∧
      ¬∃ line, renderer.render origin {} "info" filled = .ok line := by
  intro origin bare filled
  have numbered : origin.identity.HasNumber := ⟨42, by decide, by decide +kernel⟩
  have facility : ∃ code : Int, longNamed.facility = .int code ∧ 0 ≤ code ∧ code ≤ 23 :=
    ⟨1, rfl, by decide, by decide⟩
  have noParameter : ∀ entry ∈ bare, ¬Event.IsParameterKey false entry.1 := by
    refine List.forall_mem_cons.mpr ⟨fun kept => kept.2.2 rfl, ?_⟩
    refine List.forall_mem_singleton.mpr fun kept => kept.2.1 ?_
    exact Event.isReadKey_text_iff.mpr (by decide)
  have bareRenderable : Renderable origin.identity false longNamed "info" bare := {
    severity := ⟨6, Event.hasSeverity_iff.mpr (by decide +kernel), by decide, by decide⟩
    appName := ⟨"app", "app", rfl, Event.displays_iff.mpr rfl, by decide, by decide⟩
    messageId := ⟨[], Event.displays_iff.mpr rfl, by decide, List.forall_mem_nil _⟩
    elementId := fun ⟨entry, member, kept⟩ => absurd kept (noParameter entry member)
    parameters := fun entry member kept => absurd kept (noParameter entry member)
    body := fun value found => by
      cases found
      exact ⟨Value.hasWords_text _, by decide⟩ }
  have keeps : ∀ key value, ¬Event.IsFreeKey false key → withoutTime key value = value := by
    intro key value notFree
    cases key with
    | text name =>
        refine if_neg fun isTime => notFree ⟨?_, fun kept => kept.2.2 (congrArg Value.text isTime)⟩
        rw [isTime, Event.isReadKey_text_iff]
        decide
    | _ => rfl
  let lifted : Settings := { allowLongNames := true }
  rcases built : ofOptions origin.identity lifted longNamed with fault | renderer
  · cases built
  · have renders := fun event : Event =>
      @renders_iff_renderable origin _ {} _ _ "info" event numbered facility built
    have bareRendered := (renders bare).1.mpr bareRenderable
    have untimedRendered := ((renders bare).2.2 withoutTime keeps).mpr bareRendered
    refine ⟨renderer, rfl, bareRendered, untimedRendered, ?_⟩
    intro rendered
    have isKey : Event.IsParameterKey false (.text "user") := by
      refine ⟨⟨"user", rfl, Text.isName_iff.mp (by decide)⟩, ?_, ?_⟩
      · rw [Event.isReadKey_text_iff]
        decide
      · exact fun same => absurd (Value.text.inj same) (by decide)
    rcases ((renders filled).1.mp rendered).elementId ⟨_, List.mem_cons_self, isKey⟩ with
      ⟨name, same, _, short, _⟩
    cases same
    exact absurd (short rfl) (by decide)

end Renderer

end Syslog
