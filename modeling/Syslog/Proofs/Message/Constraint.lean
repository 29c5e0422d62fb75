import Syslog.Proofs.Message.Accepted
import Syslog.Proofs.Message.Characters
import Syslog.Proofs.Time.Calendar

namespace Syslog

/-!
# The constraints on a message, and the first of them that is violated

Each part of a message has a constraint of its own, which is stated here on values and without
reference to the readers that the check is made of.  The parts stand in a fixed order, with the
parts of an element next to each other and the parameters in turn.

The check is a sequence of smaller checks.  What such a sequence has to say about the parts it
looks at is one notion (`Judges`): it passes only if all of them keep to their constraints, and
it reports only the first that does not.  The notion is closed under doing one check after
another and under checking the items of a list, so that the check of a whole message follows
its own shape.
-/

/-- A text of at most `limit` printable characters, possibly empty. -/
def Value.IsToken (limit : Nat) (value : Value) : Prop :=
  ∃ text : Text, value = .text text ∧ text.length ≤ limit ∧ ∀ c ∈ text, IsPrintable c.val

/-- A name in structured data; the cap counts unless it is lifted. -/
def Value.IsName (allowLong : Bool) (value : Value) : Prop :=
  ∃ text : Text, value = .text text ∧ text ≠ [] ∧ (allowLong = false → text.length ≤ 32) ∧
    ∀ c ∈ text, IsNameCharacter c.val

namespace Property

/-- The values that a part may hold.  A truth value is not an integer here. -/
def Allows (allowLong : Bool) : Property → Value → Prop
  | .severity, value => ∃ code : Int, value = .int code ∧ 0 ≤ code ∧ code ≤ 8
  | .facility, value => ∃ code : Int, value = .int code ∧ 0 ≤ code ∧ code ≤ 23
  | .timestamp, value =>
    (∃ dateTime, value = .time dateTime) ∨
      ∃ nanoseconds : Int, value = .int nanoseconds ∧
        DateTime.IsInCalendar (nanoseconds / 1000000000)
  | .hostname, value => value.IsToken 255
  | .appName, value => value.IsToken 48
  | .processId, value => value.IsToken 128
  | .messageId, value => value.IsToken 32
  | .elementId, value => value.IsName allowLong
  | .parameterName, value => value.IsName allowLong
  | .parameterValue, value =>
    ∃ text : Text, value = .text text ∧ ∀ c ∈ text, c.val < 0xD800 ∨ 0xDFFF < c.val
  | .body, value => ∃ kind octets, value = .octets kind octets

end Property

/-! ## The readers -/

theorem Value.code?_isSome_iff {greatest : Nat} {value : Value} :
    (value.code? greatest).isSome = true ↔
      ∃ code : Int, value = .int code ∧ 0 ≤ code ∧ code ≤ greatest := by
  simp only [Option.isSome_iff_exists, code?_eq_some_iff]
  constructor
  · rintro ⟨⟨code, inside⟩, rfl⟩
    exact ⟨code, rfl, Int.natCast_nonneg code, Int.ofNat_le.mpr inside⟩
  · rintro ⟨code, rfl, nonnegative, inside⟩
    rcases Int.eq_ofNat_of_zero_le nonnegative with ⟨number, rfl⟩
    exact ⟨⟨number, Int.ofNat_le.mp inside⟩, rfl⟩

theorem Token.ofValue?_isSome_iff {limit : Nat} {value : Value} :
    (ofValue? limit value).isSome = true ↔ value.IsToken limit := by
  simp only [Option.isSome_iff_exists, ofValue?_eq_some_iff]
  constructor
  · rintro ⟨token, rfl⟩
    exact ⟨token.text, rfl, token.length_le, Text.isPrintUsAscii_iff.mp token.printable⟩
  · rintro ⟨text, rfl, short, printable⟩
    exact ⟨⟨text, Text.isPrintUsAscii_iff.mpr printable, short⟩, rfl⟩

instance (value : Value) (limit : Nat) : Decidable (value.IsToken limit) :=
  decidable_of_iff _ Token.ofValue?_isSome_iff

theorem Name.ofValue?_isSome_iff {allowLong : Bool} {value : Value} :
    (ofValue? allowLong value).isSome = true ↔ value.IsName allowLong := by
  simp only [Option.isSome_iff_exists, ofValue?_eq_some_iff]
  constructor
  · rintro ⟨name, rfl, within⟩
    exact ⟨name.text, rfl, Text.isName_iff.mp within⟩
  · rintro ⟨text, rfl, valid⟩
    have within := Text.isName_iff.mpr valid
    exact ⟨⟨text, Text.isName_of_isName within⟩, rfl, within⟩

theorem EncodableText.ofValue?_isSome_iff {value : Value} :
    (ofValue? value).isSome = true ↔
      ∃ text : Text, value = .text text ∧ ∀ c ∈ text, c.val < 0xD800 ∨ 0xDFFF < c.val := by
  simp only [Option.isSome_iff_exists, ofValue?_eq_some_iff]
  constructor
  · rintro ⟨content, rfl⟩
    exact ⟨content.text, rfl, Text.isEncodable_iff.mp content.encodable⟩
  · rintro ⟨text, rfl, valid⟩
    exact ⟨⟨text, Text.isEncodable_iff.mpr valid⟩, rfl⟩

theorem Timestamp.ofValue?_isSome_iff {value : Value} {allowLong : Bool} :
    (ofValue? value).isSome = true ↔ Property.timestamp.Allows allowLong value := by
  constructor
  · intro found
    cases value with
    | time dateTime => exact Or.inl ⟨dateTime, rfl⟩
    | int nanoseconds =>
        simp only [ofValue?, ofNanoseconds?, Option.isSome_map] at found
        rw [Int.fdiv_eq_ediv_of_nonneg nanoseconds (by decide)] at found
        exact Or.inr ⟨nanoseconds, rfl, DateTime.ofSeconds?_isSome_iff.mp found⟩
    | _ => cases found
  · rintro (⟨dateTime, rfl⟩ | ⟨nanoseconds, rfl, inside⟩)
    · rfl
    · simp only [ofValue?, ofNanoseconds?, Option.isSome_map]
      rw [Int.fdiv_eq_ediv_of_nonneg nanoseconds (by decide)]
      exact DateTime.ofSeconds?_isSome_iff.mpr inside

theorem Value.octets?_isSome_iff {value : Value} :
    value.octets?.isSome = true ↔ ∃ kind octets, value = .octets kind octets := by
  constructor
  · intro found
    cases value with
    | octets kind octets => exact ⟨kind, octets, rfl⟩
    | _ => cases found
  · rintro ⟨kind, octets, rfl⟩
    rfl

/-! ## The parts in their order -/

def Parameter.parts (parameter : Parameter) : List (Property × Value) :=
  [(.parameterName, parameter.name), (.parameterValue, parameter.value)]

def Element.parts (element : Element) : List (Property × Value) :=
  [(.elementId, element.id)] ++ element.parameters.flatMap Parameter.parts

/-- The parts of a message in the order in which their constraints count. -/
def Message.parts (message : Message) : List (Property × Value) :=
  [(.severity, message.severity), (.facility, message.facility),
    (.timestamp, message.timestamp), (.hostname, message.hostname),
    (.appName, message.appName), (.processId, message.processId),
    (.messageId, message.messageId)] ++
    message.structuredData.flatMap Element.parts ++ [(.body, message.body)]

section Judging

variable {allowLong : Bool}

/-- The first part that violates its constraint. -/
def IsFirstViolation (allowLong : Bool) (parts : List (Property × Value))
    (fault : InvalidValue) : Prop :=
  ∃ before after, parts = before ++ (fault.property, fault.value) :: after ∧
    (∀ part ∈ before, part.1.Allows allowLong part.2) ∧
    ¬fault.property.Allows allowLong fault.value

namespace IsFirstViolation

variable {first second : List (Property × Value)} {fault other : InvalidValue}

theorem append (violation : IsFirstViolation allowLong first fault)
    (second : List (Property × Value)) : IsFirstViolation allowLong (first ++ second) fault := by
  rcases violation with ⟨before, after, rfl, allowed, violated⟩
  exact ⟨before, after ++ second, by rw [List.append_assoc]; rfl, allowed, violated⟩

theorem append_allowed (allowed : ∀ part ∈ first, part.1.Allows allowLong part.2)
    (violation : IsFirstViolation allowLong second fault) :
    IsFirstViolation allowLong (first ++ second) fault := by
  rcases violation with ⟨before, after, rfl, allowedBefore, violated⟩
  refine ⟨first ++ before, after, by rw [List.append_assoc], ?_, violated⟩
  intro part member
  rcases List.mem_append.mp member with member | member
  · exact allowed part member
  · exact allowedBefore part member

/-- A part that comes first and is not reported keeps to its constraint. -/
theorem of_cons {part : Property × Value} {rest : List (Property × Value)}
    (violation : IsFirstViolation allowLong (part :: rest) fault)
    (other : part.1 ≠ fault.property) :
    part.1.Allows allowLong part.2 ∧ IsFirstViolation allowLong rest fault := by
  rcases violation with ⟨before, after, split, allowed, violated⟩
  cases before with
  | nil =>
      cases split
      exact absurd rfl other
  | cons first before =>
      cases split
      rcases List.forall_mem_cons.mp allowed with ⟨allowedFirst, allowedBefore⟩
      exact ⟨allowedFirst, before, after, rfl, allowedBefore, violated⟩

theorem not_allowed (violation : IsFirstViolation allowLong first fault) :
    ¬∀ part ∈ first, part.1.Allows allowLong part.2 := by
  rcases violation with ⟨before, after, rfl, _, violated⟩
  intro allowed
  exact violated (allowed _ (List.mem_append_right before List.mem_cons_self))

/-- There is only one first violation. -/
theorem unique (left : IsFirstViolation allowLong first fault)
    (right : IsFirstViolation allowLong first other) : fault = other := by
  rcases left with ⟨before, after, parts, allowed, violated⟩
  rcases right with ⟨otherBefore, otherAfter, otherParts, otherAllowed, otherViolated⟩
  have same := parts.symm.trans otherParts
  rcases List.append_eq_append_iff.mp same with ⟨more, longer, rest⟩ | ⟨more, longer, rest⟩
  · cases more with
    | nil =>
        cases fault
        cases other
        cases (List.cons.inj rest).1
        rfl
    | cons part more =>
        have allowedPart := otherAllowed part (by rw [longer]; simp)
        rw [← (List.cons.inj rest).1] at allowedPart
        exact absurd allowedPart violated
  · cases more with
    | nil =>
        cases fault
        cases other
        cases (List.cons.inj rest).1
        rfl
    | cons part more =>
        have allowedPart := allowed part (by rw [longer]; simp)
        rw [← (List.cons.inj rest).1] at allowedPart
        exact absurd allowedPart otherViolated

end IsFirstViolation

/-- What a check has to say about the parts it looks at: it passes if all keep to their
constraints, else it reports the first that does not. -/
def Judges (allowLong : Bool) (parts : List (Property × Value)) :
    Except InvalidValue α → Prop
  | .ok _ => ∀ part ∈ parts, part.1.Allows allowLong part.2
  | .error fault => IsFirstViolation allowLong parts fault

namespace Judges

theorem pure (value : α) : Judges allowLong [] (Pure.pure value : Except InvalidValue α) := by
  intro part member
  cases member

/-- One check after another judges the parts of both. -/
theorem bind {first second : List (Property × Value)} {check : Except InvalidValue α}
    {next : α → Except InvalidValue β} (judged : Judges allowLong first check)
    (judgedNext : ∀ value, Judges allowLong second (next value)) :
    Judges allowLong (first ++ second) (check >>= next) := by
  cases check with
  | error fault => exact judged.append second
  | ok value =>
      have later := judgedNext value
      change Judges allowLong (first ++ second) (next value)
      cases outcome : next value with
      | error fault =>
          rw [outcome] at later
          exact IsFirstViolation.append_allowed judged later
      | ok result =>
          rw [outcome] at later
          intro part member
          rcases List.mem_append.mp member with member | member
          · exact judged part member
          · exact later part member

/-- Checking the items of a list in turn judges the parts of all items. -/
theorem mapM {parts : α → List (Property × Value)} {check : α → Except InvalidValue β}
    (judged : ∀ item, Judges allowLong (parts item) (check item)) (items : List α) :
    Judges allowLong (items.flatMap parts) (items.mapM check) := by
  induction items with
  | nil => exact Judges.pure []
  | cons item rest inductionHypothesis =>
      rw [List.mapM_cons, List.flatMap_cons]
      refine (judged item).bind fun found => ?_
      have more := inductionHypothesis.bind fun results => Judges.pure (found :: results)
      rw [List.append_nil] at more
      exact more

/-- Reading one part judges it, if the reader takes what the constraint allows. -/
theorem checked {property : Property} {read? : Value → Option α} {value : Value}
    (reads : (read? value).isSome = true ↔ property.Allows allowLong value) :
    Judges allowLong [(property, value)] (value.checked property read?) := by
  rw [Value.checked]
  cases found : read? value with
  | some part =>
      rw [found] at reads
      intro part member
      rw [List.mem_singleton.mp member]
      exact reads.mp rfl
  | none =>
      rw [found] at reads
      refine ⟨[], [], rfl, ?_, fun allowed => ?_⟩
      · intro part member
        cases member
      · cases reads.mpr allowed

end Judges

theorem Parameter.judges_check (parameter : Parameter) :
    Judges allowLong parameter.parts (parameter.check allowLong) :=
  (Judges.checked Name.ofValue?_isSome_iff).bind fun _ =>
    (Judges.checked EncodableText.ofValue?_isSome_iff).bind fun _ => Judges.pure _

theorem Element.judges_check (element : Element) :
    Judges allowLong element.parts (element.check allowLong) := by
  refine (Judges.checked Name.ofValue?_isSome_iff).bind fun _ => ?_
  rw [← List.append_nil (element.parameters.flatMap Parameter.parts)]
  exact (Judges.mapM Parameter.judges_check element.parameters).bind fun _ => Judges.pure _

/-- The check of a message judges all its parts in their order. -/
theorem Message.judges_check (message : Message) :
    Judges allowLong message.parts (message.check allowLong) := by
  have parts : message.parts =
      [(.severity, message.severity)] ++ ([(.facility, message.facility)] ++
        ([(.timestamp, message.timestamp)] ++ ([(.hostname, message.hostname)] ++
          ([(.appName, message.appName)] ++ ([(.processId, message.processId)] ++
            ([(.messageId, message.messageId)] ++
              (message.structuredData.flatMap Element.parts ++
                ([(.body, message.body)] ++ [])))))))) := by
    simp [Message.parts]
  rw [parts]
  refine (Judges.checked Value.code?_isSome_iff).bind fun _ => ?_
  refine (Judges.checked Value.code?_isSome_iff).bind fun _ => ?_
  refine (Judges.checked Timestamp.ofValue?_isSome_iff).bind fun _ => ?_
  refine (Judges.checked Token.ofValue?_isSome_iff).bind fun _ => ?_
  refine (Judges.checked Token.ofValue?_isSome_iff).bind fun _ => ?_
  refine (Judges.checked Token.ofValue?_isSome_iff).bind fun _ => ?_
  refine (Judges.checked Token.ofValue?_isSome_iff).bind fun _ => ?_
  refine (Judges.mapM Element.judges_check message.structuredData).bind fun _ => ?_
  exact (Judges.checked Value.octets?_isSome_iff).bind fun _ => Judges.pure _

end Judging

namespace Message

/-- All constraints on a message, part by part. -/
structure IsValid (allowLong : Bool) (message : Message) : Prop where
  severity : Property.severity.Allows allowLong message.severity
  facility : Property.facility.Allows allowLong message.facility
  timestamp : Property.timestamp.Allows allowLong message.timestamp
  hostname : Property.hostname.Allows allowLong message.hostname
  appName : Property.appName.Allows allowLong message.appName
  processId : Property.processId.Allows allowLong message.processId
  messageId : Property.messageId.Allows allowLong message.messageId
  elementIds : ∀ element ∈ message.structuredData,
    Property.elementId.Allows allowLong element.id
  parameterNames : ∀ element ∈ message.structuredData, ∀ parameter ∈ element.parameters,
    Property.parameterName.Allows allowLong parameter.name
  parameterValues : ∀ element ∈ message.structuredData, ∀ parameter ∈ element.parameters,
    Property.parameterValue.Allows allowLong parameter.value
  body : Property.body.Allows allowLong message.body

variable {allowLong : Bool} {message : Message}

theorem allowed_data_iff {elements : List Element} :
    (∀ part ∈ elements.flatMap Element.parts, part.1.Allows allowLong part.2) ↔
      ∀ element ∈ elements, Property.elementId.Allows allowLong element.id ∧
        ∀ parameter ∈ element.parameters,
          Property.parameterName.Allows allowLong parameter.name ∧
            Property.parameterValue.Allows allowLong parameter.value := by
  simp only [List.forall_mem_flatMap, Element.parts, Parameter.parts, List.forall_mem_append,
    List.forall_mem_cons, List.not_mem_nil, false_implies, implies_true, and_true]

/-- A message is valid when each of its parts keeps to its constraint. -/
theorem isValid_iff :
    message.IsValid allowLong ↔ ∀ part ∈ message.parts, part.1.Allows allowLong part.2 := by
  simp only [parts, List.forall_mem_append, allowed_data_iff, List.forall_mem_cons,
    List.not_mem_nil, false_implies, implies_true, and_true]
  constructor
  · intro valid
    exact ⟨⟨⟨valid.severity, valid.facility, valid.timestamp, valid.hostname, valid.appName,
      valid.processId, valid.messageId⟩, fun element member =>
        ⟨valid.elementIds element member, fun parameter inside =>
          ⟨valid.parameterNames element member parameter inside,
            valid.parameterValues element member parameter inside⟩⟩⟩, valid.body⟩
  · rintro ⟨⟨⟨severity, facility, timestamp, hostname, appName, processId, messageId⟩, data⟩,
      body⟩
    exact {
      severity, facility, timestamp, hostname, appName, processId, messageId, body
      elementIds := fun element member => (data element member).1
      parameterNames := fun element member parameter inside =>
        ((data element member).2 parameter inside).1
      parameterValues := fun element member parameter inside =>
        ((data element member).2 parameter inside).2 }

theorem exists_check_eq_ok_iff :
    (∃ wire, message.check allowLong = .ok wire) ↔ message.IsValid allowLong := by
  have judged : Judges allowLong message.parts (message.check allowLong) := message.judges_check
  rw [isValid_iff]
  cases outcome : message.check allowLong with
  | ok wire =>
      rw [outcome] at judged
      exact ⟨fun _ => judged, fun _ => ⟨wire, rfl⟩⟩
  | error reported =>
      rw [outcome] at judged
      refine ⟨?_, fun allowed => absurd allowed judged.not_allowed⟩
      rintro ⟨_, impossible⟩
      cases impossible

theorem check_eq_error_iff {fault : InvalidValue} :
    message.check allowLong = .error fault ↔
      IsFirstViolation allowLong message.parts fault := by
  have judged : Judges allowLong message.parts (message.check allowLong) := message.judges_check
  cases outcome : message.check allowLong with
  | ok wire =>
      rw [outcome] at judged
      simp only [reduceCtorEq, false_iff]
      exact fun violation => violation.not_allowed judged
  | error reported =>
      rw [outcome] at judged
      rw [Except.error.injEq]
      constructor
      · rintro rfl
        exact judged
      · exact judged.unique

/-- A message passes exactly if it is valid, and else the first violation is reported, with the
part and the value that it holds. -/
theorem validate_reports_first_violation (allowLong : Bool) (message : Message) :
    (message.validate allowLong = .ok () ↔ message.IsValid allowLong) ∧
      ∀ fault, message.validate allowLong = .error fault ↔
        IsFirstViolation allowLong message.parts fault := by
  constructor
  · rw [← exists_check_eq_ok_iff, validate, map_eq_ok_iff]
    exact exists_congr fun _ => and_iff_left rfl
  · intro fault
    rw [validate, map_eq_error_iff, check_eq_error_iff]

/-- A truth value is no severity, and it is reported before the header that has a blank. -/
example :
    validate false { timestamp := .int 0, severity := .bool true, hostname := .text " " } =
      .error ⟨.severity, .bool true⟩ := rfl

/-! ## What encoding reports -/

/-- The values that a message has in a part; there may be none or several where the part is one
of the structured data. -/
def Holds (message : Message) : Property → Value → Prop
  | .severity, value => value = message.severity
  | .facility, value => value = message.facility
  | .timestamp, value => value = message.timestamp
  | .hostname, value => value = message.hostname
  | .appName, value => value = message.appName
  | .processId, value => value = message.processId
  | .messageId, value => value = message.messageId
  | .elementId, value => ∃ element ∈ message.structuredData, value = element.id
  | .parameterName, value =>
    ∃ element ∈ message.structuredData, ∃ parameter ∈ element.parameters, value = parameter.name
  | .parameterValue, value =>
    ∃ element ∈ message.structuredData, ∃ parameter ∈ element.parameters, value = parameter.value
  | .body, value => value = message.body

theorem mem_parts_iff {property : Property} {value : Value} :
    (property, value) ∈ message.parts ↔ message.Holds property value := by
  cases property <;>
    simp [parts, Element.parts, Parameter.parts, Holds]

/-- A message has octets exactly if it is valid. -/
theorem exists_marshal_eq_ok_iff :
    (∃ octets, message.marshal allowLong = .ok octets) ↔ message.IsValid allowLong := by
  simp only [← exists_check_eq_ok_iff, marshal, map_eq_ok_iff]
  constructor
  · rintro ⟨_, wire, passed, _⟩
    exact ⟨wire, passed⟩
  · rintro ⟨wire, passed⟩
    exact ⟨_, wire, passed, rfl⟩

theorem marshal_eq_error_iff {fault : InvalidValue} :
    message.marshal allowLong = .error fault ↔
      IsFirstViolation allowLong message.parts fault := by
  rw [marshal, map_eq_error_iff, check_eq_error_iff]

/-- What is reported in place of octets is a part of the message that violates its
constraint. -/
theorem violation_of_marshal_eq_error {fault : InvalidValue}
    (failed : message.marshal allowLong = .error fault) :
    message.Holds fault.property fault.value ∧ ¬fault.property.Allows allowLong fault.value := by
  rcases marshal_eq_error_iff.mp failed with ⟨before, after, parts, _, violated⟩
  refine ⟨mem_parts_iff.mp ?_, violated⟩
  rw [parts]
  exact List.mem_append_right before List.mem_cons_self

end Message

end Syslog
