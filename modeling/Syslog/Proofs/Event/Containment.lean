import Mathlib.Algebra.GroupWithZero.Nat
import Syslog.Proofs.Event.Lossless

namespace Syslog

/-!
# Where the characters of a line come from

An event reaches its line in many ways, and some of them are open to whoever wrote what is logged.
A key is dropped unless it is a name, a field of the header is refused unless it is printable, a
time is written anew, and only the body and the values of parameters are taken as they are.

Here a line is laid out in parts, so that it can be read off which of them are printable
(`LineLayout.IsClean`).  Then all characters that are not are counted: the spaces of the format
itself, and those of the body and of the values (`LineLayout.count_line`).  A line feed can only be
one of the latter (`Renderer.line_breaks_are_contained`).
-/

/-- A line in its parts: the fields of the header, the element with its named values, and the
body. -/
structure LineLayout where
  fields : List Text
  id : Text
  values : List (Text × Text)
  body : Text

namespace LineLayout

def space : CodePoint := .ofChar ' '

/-- A named value, with the space in front of it. -/
def written (value : Text × Text) : Text :=
  space :: value.1 ++ Text.ofString "=\"" ++ value.2.escaped ++ [CodePoint.ofChar '"']

/-- The element, unless it has no values. -/
def data (layout : LineLayout) : Text :=
  if layout.values.isEmpty then nilValue
  else CodePoint.ofChar '[' :: layout.id ++ layout.values.flatMap written ++ [CodePoint.ofChar ']']

/-- The parts put together: each field is followed by a space, and a body that is not empty is
preceded by one. -/
def line (layout : LineLayout) : Text :=
  layout.fields.flatMap (· ++ [space]) ++ layout.data ++
    if layout.body.isEmpty then [] else space :: layout.body

/-- The spaces that belong to the format. -/
def spaces (layout : LineLayout) : Nat :=
  layout.fields.length + layout.values.length + if layout.body.isEmpty then 0 else 1

/-- That all but the values and the body is printable, and nothing between two spaces is empty. -/
structure IsClean (layout : LineLayout) : Prop where
  six : layout.fields.length = 6
  fields : ∀ field ∈ layout.fields, field ≠ [] ∧ ∀ c ∈ field, IsPrintable c.val
  id : layout.id ≠ [] ∧ ∀ c ∈ layout.id, IsNameCharacter c.val
  names : ∀ value ∈ layout.values, value.1 ≠ [] ∧ ∀ c ∈ value.1, IsNameCharacter c.val

/-! ## Counting -/

section Counting

variable {c : CodePoint} (unprintable : ¬IsPrintable c.val)

include unprintable

theorem count_of_printable {text : Text} (printable : ∀ d ∈ text, IsPrintable d.val) :
    text.count c = 0 :=
  List.count_eq_zero.mpr fun member => unprintable (printable c member)

/-- Escaping adds marks, which are printable. -/
theorem count_escaped (text : Text) : text.escaped.count c = text.count c := by
  have notMark : [CodePoint.ofChar '\\'].count c = 0 := count_of_printable unprintable (by decide)
  induction text with
  | nil => rfl
  | cons first rest inductionHypothesis =>
      have one : (if first.isEscaped then [CodePoint.ofChar '\\', first] else [first]).count c =
          [first].count c := by
        split
        · rw [← List.singleton_append, List.count_append, notMark, Nat.zero_add]
        · rfl
      rw [Text.escaped, List.flatMap_cons, ← Text.escaped, List.count_append, inductionHypothesis,
        one, ← List.count_append]
      rfl

theorem count_fields {fields : List Text}
    (printable : ∀ field ∈ fields, ∀ d ∈ field, IsPrintable d.val) :
    (fields.flatMap (· ++ [space])).count c = fields.length * [space].count c := by
  induction fields with
  | nil => rw [List.length_nil, Nat.zero_mul]; rfl
  | cons field rest inductionHypothesis =>
      rcases List.forall_mem_cons.mp printable with ⟨first, others⟩
      rw [List.flatMap_cons, List.count_append, List.count_append,
        count_of_printable unprintable first, inductionHypothesis others, List.length_cons,
        Nat.succ_mul]
      omega

theorem count_written {value : Text × Text} (printable : ∀ d ∈ value.1, IsPrintable d.val) :
    (written value).count c = [space].count c + value.2.count c := by
  have noSign : (Text.ofString "=\"").count c = 0 := count_of_printable unprintable (by decide)
  have noQuote : [CodePoint.ofChar '"'].count c = 0 := count_of_printable unprintable (by decide)
  rw [written, ← List.singleton_append]
  simp only [List.count_append, count_of_printable unprintable printable, noSign, noQuote,
    count_escaped unprintable, Nat.add_zero]

theorem count_values {values : List (Text × Text)}
    (printable : ∀ value ∈ values, ∀ d ∈ value.1, IsPrintable d.val) :
    (values.flatMap written).count c =
      values.length * [space].count c + (values.map fun value => value.2.count c).sum := by
  induction values with
  | nil => rw [List.length_nil, Nat.zero_mul]; rfl
  | cons value rest inductionHypothesis =>
      rcases List.forall_mem_cons.mp printable with ⟨first, others⟩
      rw [List.flatMap_cons, List.count_append, count_written unprintable first,
        inductionHypothesis others, List.length_cons, Nat.succ_mul, List.map_cons, List.sum_cons]
      omega

theorem count_data {layout : LineLayout} (clean : layout.IsClean) :
    layout.data.count c = layout.values.length * [space].count c +
      (layout.values.map fun value => value.2.count c).sum := by
  have noNil : nilValue.count c = 0 := count_of_printable unprintable (by decide)
  have noOpening : [CodePoint.ofChar '['].count c = 0 := count_of_printable unprintable (by decide)
  have noClosing : [CodePoint.ofChar ']'].count c = 0 := count_of_printable unprintable (by decide)
  have noId : layout.id.count c = 0 :=
    count_of_printable unprintable fun d member => (clean.id.2 d member).1
  rw [data]
  split
  · next none => rw [noNil, List.isEmpty_iff.mp none, List.length_nil, Nat.zero_mul]; rfl
  · rw [← List.singleton_append]
    simp only [List.count_append, noOpening, noId, noClosing, Nat.zero_add, Nat.add_zero]
    exact count_values unprintable fun value member d inside =>
      ((clean.names value member).2 d inside).1

/-- What is not printable in a line is a space of the format, or is in the body or in a value. -/
theorem count_line {layout : LineLayout} (clean : layout.IsClean) :
    layout.line.count c = layout.spaces * [space].count c + layout.body.count c +
      (layout.values.map fun value => value.2.count c).sum := by
  have ending : (if layout.body.isEmpty then [] else space :: layout.body).count c =
      (if layout.body.isEmpty then 0 else 1) * [space].count c + layout.body.count c := by
    split
    · next none => rw [List.isEmpty_iff.mp none, Nat.zero_mul, Nat.zero_add]
    · rw [← List.singleton_append, List.count_append, Nat.one_mul]
  rw [line, List.count_append, List.count_append, count_data unprintable clean, ending,
    count_fields unprintable fun field member => (clean.fields field member).2, spaces,
    Nat.add_mul, Nat.add_mul]
  omega

end Counting

theorem mem_line_iff {layout : LineLayout} (clean : layout.IsClean) {c : CodePoint}
    (unprintable : ¬IsPrintable c.val) (noSpace : c ≠ space) :
    c ∈ layout.line ↔ c ∈ layout.body ∨ ∃ value ∈ layout.values, c ∈ value.2 := by
  have noGap : [space].count c = 0 :=
    List.count_eq_zero.mpr fun member => noSpace (List.mem_singleton.mp member)
  rw [← List.count_pos_iff, count_line unprintable clean, noGap, Nat.mul_zero, Nat.zero_add,
    Nat.add_pos_iff_pos_or_pos, List.count_pos_iff, List.sum_pos_iff_exists_pos_nat]
  simp only [List.mem_map, exists_exists_and_eq_and, List.count_pos_iff]

end LineLayout

theorem Text.orNil_ne_nil (text : Text) : text.orNil ≠ [] := by
  rw [orNil]
  split
  · decide
  · next filled => exact mt List.isEmpty_iff.mpr filled

namespace WireMessage

variable (wire : WireMessage) (id : Name) (parameters : List WireParameter) (content : Text)

/-- The parts of a line with at most one element. -/
def layout : LineLayout where
  fields := [CodePoint.ofChar '<' :: Text.ofNat wire.priority ++ Text.ofString ">1",
    wire.timestamp.written, wire.hostname.text.orNil, wire.appName.text.orNil,
    wire.processId.text.orNil, wire.messageId.text.orNil]
  id := id.text
  values := parameters.map fun parameter => (parameter.name.text, parameter.value.text)
  body := content

theorem isClean_layout : (wire.layout id parameters content).IsClean where
  six := rfl
  fields := by
    have digits : ∀ c ∈ Text.ofNat wire.priority, IsPrintable c.val :=
      fun c member => (Text.isDigit_ofNat _ c member).printable
    have version : ∀ c ∈ CodePoint.ofChar '<' :: Text.ofNat wire.priority ++ Text.ofString ">1",
        IsPrintable c.val :=
      List.forall_mem_append.mpr ⟨List.forall_mem_cons.mpr ⟨by decide, digits⟩, by decide⟩
    have time : wire.timestamp.written ≠ [] := by simp [Timestamp.written, Rfc3339.written]
    simp only [layout, List.forall_mem_cons]
    exact ⟨⟨List.cons_ne_nil _ _, version⟩, ⟨time, Rfc3339.printable_written _ _⟩,
      ⟨Text.orNil_ne_nil _, wire.hostname.isPrintable⟩,
      ⟨Text.orNil_ne_nil _, wire.appName.isPrintable⟩,
      ⟨Text.orNil_ne_nil _, wire.processId.isPrintable⟩,
      ⟨Text.orNil_ne_nil _, wire.messageId.isPrintable⟩, List.forall_mem_nil _⟩
  id := ⟨(Text.isName_iff.mp id.valid).1, id.isNameCharacter⟩
  names := by
    intro value member
    rcases List.mem_map.mp member with ⟨parameter, _, rfl⟩
    exact ⟨(Text.isName_iff.mp parameter.name.valid).1, parameter.name.isNameCharacter⟩

variable {wire id parameters content}

theorem data_layout
    (data : wire.structuredData = if parameters.isEmpty then [] else [⟨id, parameters⟩]) :
    (wire.layout id parameters content).data = wire.writtenData := by
  rw [writtenData, data, LineLayout.data, layout, List.isEmpty_map]
  cases parameters with
  | nil => rfl
  | cons first rest =>
      simp only [List.isEmpty_cons, Bool.false_eq_true, if_false, List.flatMap_singleton,
        WireElement.written, List.flatMap_map]
      rfl

/-- A line is its parts put together, if its body is the form of a text. -/
theorem decodeReplacing_encode (encodable : content.isEncodable = true)
    (body : wire.body = content.utf8)
    (data : wire.structuredData = if parameters.isEmpty then [] else [⟨id, parameters⟩]) :
    Utf8.decodeReplacing wire.encode = (wire.layout id parameters content).line := by
  have head : wire.head = (wire.layout id parameters content).fields.flatMap
      (· ++ [LineLayout.space]) ++ (wire.layout id parameters content).data := by
    rw [data_layout data, WireMessage.head, Text.joined]
    simp only [List.intersperse, List.flatten_cons, List.flatten_nil, layout, List.flatMap_cons,
      List.flatMap_nil, List.append_assoc, List.append_nil]
    rfl
  have line : wire.encode = (wire.layout id parameters content).line.utf8 := by
    rw [encode, LineLayout.line, ← head, Text.utf8_append, body]
    cases content with
    | nil => rfl
    | cons c rest =>
      have filled : (Text.utf8 (c :: rest)).isEmpty = false := by
        rw [List.isEmpty_eq_false_iff, Text.utf8_cons]
        exact List.append_ne_nil_of_left_ne_nil c.utf8_ne_nil _
      rw [filled]
      rfl
  have encodableLine : (wire.layout id parameters content).line.isEncodable = true := by
    rw [LineLayout.line, ← head, Text.isEncodable_append, wire.isEncodable_head, Bool.true_and]
    change Text.isEncodable (if content.isEmpty then [] else LineLayout.space :: content) = true
    split
    · rfl
    · rw [Text.isEncodable_cons, encodable]
      rfl
  rw [line, Utf8.decodeReplacing_utf8 encodableLine]

end WireMessage

/-- That a character is in what an event shows as its body or as the value of a parameter. -/
inductive Event.Brings (allowLong : Bool) (event : Event) (c : CodePoint) : Prop
  | body {value : Value} (shown : event.bodyValue? = some value) (inside : c ∈ value.shown)
  | value {entry : Value × Value} {text : Text} (member : entry ∈ event)
      (kept : IsParameterKey allowLong entry.1) (written : entry.2.parameterText = .ok text)
      (inside : c ∈ text)

namespace Renderer

variable {origin : Origin} {built current : Settings} {allowLong : Bool}
  {options : RendererOptions} {renderer : Renderer} {method : Text} {event : Event} {line : Text}

/-- That a layout has the values and the body of an event, and the element of the options. -/
structure LaysOut (options : RendererOptions) (allowLong : Bool) (event : Event)
    (layout : LineLayout) : Prop where
  id : options.elementId = .text layout.id
  values : event.Writes allowLong
    (layout.values.map fun value => ⟨.text value.1, .text value.2⟩)
  body : layout.body = (event.bodyValue?.map Value.shown).getD []

theorem LaysOut.brings_iff {layout : LineLayout} (laysOut : LaysOut options allowLong event layout)
    {c : CodePoint} :
    (c ∈ layout.body ∨ ∃ value ∈ layout.values, c ∈ value.2) ↔ event.Brings allowLong c := by
  constructor
  · rintro (inBody | ⟨value, listed, inside⟩)
    · rw [laysOut.body] at inBody
      cases shown : event.bodyValue? with
      | none =>
          rw [shown] at inBody
          cases inBody
      | some value =>
          rw [shown] at inBody
          exact .body shown inBody
    · rcases laysOut.values.mem_iff.mp (List.mem_map_of_mem listed) with
        ⟨entry, member, kept, _, text, written, same⟩
      cases same
      exact .value member kept written inside
  · intro brings
    cases brings with
    | body shown inside =>
        left
        rw [laysOut.body, shown]
        exact inside
    | value member kept written inside =>
        rcases laysOut.values.exists_of_kept member kept with ⟨text, writtenToo, listed⟩
        cases written.symm.trans writtenToo
        rcases List.mem_map.mp listed with ⟨value, isValue, same⟩
        cases (Parameter.mk.inj same).2
        exact Or.inr ⟨value, isValue, inside⟩

theorem exists_parameters_of_carries {head : Head} {parameters : List Parameter} {octets : Bytes}
    {wire : WireMessage}
    (carries : (renderer.composed origin event head parameters octets).Carries allowLong wire) :
    ∃ wires : List WireParameter, parameters = wires.map WireParameter.parameter ∧
      wire.structuredData = if wires.isEmpty then [] else [⟨renderer.elementId, wires⟩] := by
  have data := carries.structuredData
  cases parameters with
  | nil => exact ⟨[], rfl, List.map_eq_nil_iff.mp data.symm⟩
  | cons first rest =>
      rcases List.map_eq_cons_iff.mp data.symm with ⟨element, others, isData, isElement, isOthers⟩
      rcases element with ⟨id, wires⟩
      rcases Element.mk.inj isElement with ⟨isId, areParameters⟩
      have sameId : id = renderer.elementId := by
        rcases id with ⟨text, valid⟩
        cases Value.text.inj isId
        rfl
      refine ⟨wires, areParameters.symm, ?_⟩
      rw [isData, List.map_eq_nil_iff.mp isOthers, sameId]
      cases wires with
      | nil => cases areParameters
      | cons _ _ => rfl

/-- Every line has a layout of which all but the values and the body is clean. -/
theorem exists_layout_of_render (isBuilt : IsBuilt origin.identity built options renderer)
    (rendered : renderer.render origin current method event = .ok line) :
    ∃ layout : LineLayout, layout.line = line ∧ layout.IsClean ∧
      LaysOut options (current.longNames options.allowLongNames) event layout := by
  rcases render_eq_ok_iff.mp rendered with ⟨message, octets, isMessage, isOctets, same⟩
  rw [isBuilt.allowLongNames] at isMessage isOctets
  rcases message_eq_ok_iff.mp isMessage with ⟨head, parameters, octets, _, writes, isBody, rfl⟩
  rcases Message.marshal_eq_ok_iff.mp isOctets with ⟨wire, carries, rfl⟩
  rcases exists_parameters_of_carries carries with ⟨wires, rfl, data⟩
  let content : Text := (event.bodyValue?.map Value.shown).getD []
  have wireBody : wire.body = octets := (Option.some.inj carries.body).symm
  have isContent : content.isEncodable = true ∧ octets = content.utf8 := by
    rcases Event.body_eq_ok_iff.mp isBody with ⟨absent, rfl⟩ | ⟨value, shown, _, encodable, rfl⟩
    · simp only [content, absent]
      exact ⟨rfl, rfl⟩
    · simp only [content, shown]
      exact ⟨encodable, rfl⟩
  refine ⟨wire.layout renderer.elementId wires content, ?_, wire.isClean_layout _ _ _, ?_⟩
  · rw [← same]
    exact (WireMessage.decodeReplacing_encode isContent.1 (wireBody.trans isContent.2) data).symm
  · refine ⟨isBuilt.elementId, ?_, rfl⟩
    rw [WireMessage.layout, List.map_map]
    exact writes

/-- Of the characters of a line that are not printable some are the spaces of the format, each alone
between two parts that are not empty.  All others, line feeds among them, are in the line exactly if
they are in what the event shows as its body or as the value of a kept entry. -/
theorem line_breaks_are_contained
    (isBuilt : ofOptions origin.identity built options = .ok renderer)
    (rendered : renderer.render origin current method event = .ok line) :
    let allowLong := current.longNames options.allowLongNames
    (CodePoint.ofChar '\n' ∈ line ↔ event.Brings allowLong (.ofChar '\n')) ∧
      (∀ c : CodePoint, ¬IsPrintable c.val → c ≠ .ofChar ' ' →
        (c ∈ line ↔ event.Brings allowLong c)) ∧
      ∃ layout : LineLayout, layout.line = line ∧ layout.IsClean ∧
        LaysOut options allowLong event layout ∧
        line.count (.ofChar ' ') = layout.spaces + layout.body.count (.ofChar ' ') +
          (layout.values.map fun value => value.2.count (.ofChar ' ')).sum := by
  intro allowLong
  rcases exists_layout_of_render (ofOptions_eq_ok_iff.mp isBuilt) rendered with
    ⟨layout, rfl, clean, laysOut⟩
  have contained : ∀ c : CodePoint, ¬IsPrintable c.val → c ≠ .ofChar ' ' →
      (c ∈ layout.line ↔ event.Brings allowLong c) := by
    intro c unprintable noSpace
    rw [LineLayout.mem_line_iff clean unprintable noSpace, laysOut.brings_iff]
  have spaces := LineLayout.count_line (c := LineLayout.space) (by decide) clean
  rw [List.count_singleton_self, Nat.mul_one] at spaces
  exact ⟨contained _ (by decide) (by decide), contained, layout, rfl, clean, laysOut, spaces⟩

/-- Line feeds in the body, in a value, in a key and in the value of that key, which has a tab as
well: the line has those of the body and of the value, and no tab. -/
theorem line_breaks_are_contained_of_broken_key :
    let origin := Origin.atEpoch ⟨"host", "app", "42"⟩
    let event : Event := [(.text "event", .text "one\ntwo"), (.text "user", .text "a\nb"),
      (.text "no\nname", .text "x\n\ty")]
    ∃ renderer line, ofOptions origin.identity {} {} = .ok renderer ∧
      renderer.render origin {} "info" event = .ok line ∧
      CodePoint.ofChar '\n' ∈ line ∧ CodePoint.ofChar '\t' ∉ line := by
  intro origin event
  rcases built : ofOptions origin.identity {} {} with fault | renderer
  · cases built
  · rcases rendered : renderer.render origin {} "info" event with fault | line
    · cases built
      cases rendered
    · rcases line_breaks_are_contained built rendered with ⟨newline, contained, _⟩
      have noTab : ¬event.Brings false (.ofChar '\t') := by
        intro brings
        cases brings with
        | body shown inside =>
            cases shown
            exact absurd inside (by decide)
        | @value entry text member kept written inside =>
            simp only [event, List.mem_cons, List.not_mem_nil, or_false] at member
            rcases member with rfl | rfl | rfl
            · cases written
              exact absurd inside (by decide)
            · cases written
              exact absurd inside (by decide)
            · have isName := Name.ofValue?_isSome_iff.mpr kept.1
              exact absurd isName (by decide)
      refine ⟨renderer, line, rfl, rendered, newline.mpr (.body rfl (by decide)), ?_⟩
      rwa [contained _ (by decide) (by decide)]

end Renderer

end Syslog
