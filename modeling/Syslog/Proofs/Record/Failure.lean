import Syslog.Proofs.Record.Encodable
import Syslog.Proofs.Value.Json

namespace Syslog

/-!
# How the encoding of a record fails

A caller who encodes a record expects two kinds of faults: the record or its type is declared
wrongly, or the message is invalid.  Two conversions come before the message is checked, and
their faults get out as they are: a value that has no text of its own is written as JSON, and a
text that is the body is put into octets.  One conversion comes after it: what is invalid is put
into words, and a number can have too many digits for that.  Here it is said exactly when that
happens (`Subject.foreign_faults_of_marshal`).

All three happen late.  The type has been reflected by then, and every value in the head of the
message has been found to be of the kind that its role asks for.
-/

/-- A fault that callers are told to expect, and that can be put into words. -/
def Fault.IsOwn (fault : Fault) : Prop :=
  ((∃ cause, fault = .configuration cause) ∨ ∃ cause, fault = .invalid cause) ∧
    fault.wordsFault? = none

/-- The values that a role takes. -/
def RoleKind.Allows : RoleKind → Value → Prop
  | .integer, value => ∃ number, value = .int number
  | .text, value => ∃ content, value = .text content
  | .time, value => (∃ dateTime, value = .time dateTime) ∨ ∃ nanoseconds, value = .int nanoseconds
  | .body, value => (∃ content, value = .text content) ∨ ∃ kind octets, value = .octets kind octets

/-- The roles in the head of a message, in the order in which they are filled. -/
def FieldMap.headRoles (map : FieldMap) : List (Option Text × RoleKind) :=
  [(map.timestampField, .time), (map.severityField, .integer), (map.facilityField, .integer),
    (map.hostnameField, .text), (map.appNameField, .text), (map.processIdField, .text),
    (map.messageIdField, .text)]

namespace Record

/-- The value of a field, if there is one, is empty or of the kind that its role asks for. -/
def Fills (record : Record) (field : Option Text) (kind : RoleKind) : Prop :=
  ∀ name, field = some name → (record.get name).isEmpty = true ∨ kind.Allows (record.get name)

/-- That all parameters of a record have a text. -/
def IsClear (map : FieldMap) (record : Record) : Prop :=
  ∀ field ∈ map.parameterFields, record.Keeps field →
    ∀ fault, ¬Value.Obstructs fault (record.get field.field)

/-- That a message can be composed of a record: its head is complete, its parameters have texts,
and its body has octets. -/
structure IsComposable (map : FieldMap) (record : Record) : Prop where
  head : ∀ role ∈ map.headRoles, record.Fills role.1 role.2
  parameters : record.IsClear map
  body : record.Fills map.bodyField .body
  encodable : ∀ name content, map.bodyField = some name → record.get name = .text content →
    content.surrogateRun? = none

/-- That a field holds an integer. -/
def Supplies (record : Record) (field : Option Text) (number : Int) : Prop :=
  ∃ name, field = some name ∧ record.get name = .int number

/-- That the integer in a field, if there is one, is a code up to the given one. -/
def IsInRange (record : Record) (field : Option Text) (greatest : Nat) : Prop :=
  ∀ number, record.Supplies field number → 0 ≤ number ∧ number ≤ greatest

/-- The faults of conversions that a record can run into once its head is complete: those of a
parameter that has no text; if all parameters have one, that of a body with surrogates; and if the
message can be composed, that of the first invalid part of it, if this is a number with too many
digits. -/
inductive LetsOut (map : FieldMap) (record : Record) : Fault → Prop
  | parameter {field : ParameterField} {fault : Fault}
      (fills : ∀ role ∈ map.headRoles, record.Fills role.1 role.2)
      (declared : field ∈ map.parameterFields) (keeps : record.Keeps field)
      (obstructs : Value.Obstructs fault (record.get field.field)) : LetsOut map record fault
  | body {name content : Text} {run : SurrogateRun}
      (fills : ∀ role ∈ map.headRoles, record.Fills role.1 role.2) (clear : record.IsClear map)
      (declared : map.bodyField = some name) (isText : record.get name = .text content)
      (isRun : content.surrogateRun? = some run) : LetsOut map record (.surrogates run)
  | severity {number : Int} (composable : record.IsComposable map)
      (supplies : record.Supplies map.severityField number)
      (wide : 10 ^ digitLimit ≤ number.natAbs) :
      LetsOut map record (.invalid ⟨.severity, .int number⟩)
  | facility {number : Int} (composable : record.IsComposable map)
      (severity : record.IsInRange map.severityField 8)
      (supplies : record.Supplies map.facilityField number)
      (wide : 10 ^ digitLimit ≤ number.natAbs) :
      LetsOut map record (.invalid ⟨.facility, .int number⟩)
  | timestamp {number : Int} (composable : record.IsComposable map)
      (severity : record.IsInRange map.severityField 8)
      (facility : record.IsInRange map.facilityField 23)
      (supplies : record.Supplies map.timestampField number)
      (wide : 10 ^ digitLimit ≤ number.natAbs) :
      LetsOut map record (.invalid ⟨.timestamp, .int number⟩)

end Record

/-- The faults of conversions that a subject can run into; its type can be reflected. -/
inductive Subject.LetsOut (identity : Identity) : Subject → Fault → Prop
  | record {record : Record} {map : FieldMap} {fault : Fault}
      (reflected : record.type.reflect identity = .ok map) (lets : record.LetsOut map fault) :
      LetsOut identity (.record record) fault

variable {origin : Origin} {map : FieldMap} {record : Record} {message : Message}

theorem Fault.wordsFault?_invalid (fault : InvalidValue) :
    (Fault.invalid fault).wordsFault? = fault.value.wordsFault? := by
  simp only [Fault.wordsFault?, Fault.quotedValues, List.findSome?_cons, List.findSome?_nil]
  cases fault.value.wordsFault? <;> rfl

/-- An invalid number with too many digits is not reported as invalid. -/
theorem Fault.not_isOwn_of_wide {property : Property} {number : Int}
    (wide : 10 ^ digitLimit ≤ number.natAbs) :
    ¬(Fault.invalid ⟨property, .int number⟩).IsOwn := by
  rintro ⟨_, clear⟩
  rw [Fault.wordsFault?_invalid] at clear
  cases clear.symm.trans (WordsFault.ofInteger?_eq_some_iff.mpr ⟨rfl, wide⟩)

theorem Fault.not_isOwn_json (fault : JsonFault) : ¬(Fault.json fault).IsOwn := by
  rintro ⟨⟨_, same⟩ | ⟨_, same⟩, _⟩ <;> cases same

theorem Fault.not_isOwn_surrogates (run : SurrogateRun) : ¬(Fault.surrogates run).IsOwn := by
  rintro ⟨⟨_, same⟩ | ⟨_, same⟩, _⟩ <;> cases same

theorem Fault.not_isOwn_of_obstructs {fault : Fault} {value : Value}
    (obstructs : Value.Obstructs fault value) : ¬fault.IsOwn := by
  cases obstructs with
  | json _ _ => exact not_isOwn_json _
  | digits _ => rintro ⟨⟨_, same⟩ | ⟨_, same⟩, _⟩ <;> cases same

/-! ## The roles in the head -/

namespace FieldMap

variable {field : Option Text} {expected : RoleKind} {read? : Value → Option Value}
  {default : Value} {fault : Fault}

/-- A role is refused for the kind of a value, and for nothing else. -/
theorem isOwn_of_roleValue
    (failed : map.roleValue record field expected read? default = .error fault) : fault.IsOwn := by
  rw [roleValue] at failed
  split at failed
  · cases failed
  · split at failed
    · cases failed
    · cases failed
      exact ⟨Or.inl ⟨_, rfl⟩, rfl⟩

theorem exists_roleValue_iff
    (reads : ∀ value, (∃ found, read? value = some found) ↔ expected.Allows value) :
    (∃ value, map.roleValue record field expected read? default = .ok value) ↔
      record.Fills field expected := by
  simp only [roleValue_eq_ok_iff, exists_or, exists_and_left, exists_eq, and_true]
  constructor
  · rintro (lacking | ⟨value, name, own, isOwn, read⟩) declared same
    · exact Or.inl (Record.role?_eq_none_iff.mp lacking declared same)
    · rcases Record.role?_eq_some_iff.mp isOwn with ⟨isField, rfl, _⟩
      cases same.symm.trans isField
      exact Or.inr ((reads _).mp ⟨value, read⟩)
  · intro fills
    cases role : record.role? field with
    | none => exact Or.inl rfl
    | some found =>
        rcases found with ⟨name, own⟩
        rcases Record.role?_eq_some_iff.mp role with ⟨isField, rfl, filled⟩
        rcases fills name isField with empty | allowed
        · rw [empty] at filled
          cases filled
        · rcases (reads _).mpr allowed with ⟨value, read⟩
          exact Or.inr ⟨value, name, _, rfl, read⟩

theorem exists_integerRole_iff {code : Nat} :
    (∃ value, map.integerRole record field code = .ok value) ↔ record.Fills field .integer := by
  refine exists_roleValue_iff fun value => ?_
  cases value <;> simp [RoleKind.Allows, Value.int?]

theorem exists_textRole_iff {text : Text} :
    (∃ value, map.textRole record field text = .ok value) ↔ record.Fills field .text := by
  refine exists_roleValue_iff fun value => ?_
  cases value <;> simp [RoleKind.Allows, Value.text?]

theorem exists_timeRole_iff {now : DateTime} :
    (∃ value, map.timeRole record now = .ok value) ↔ record.Fills map.timestampField .time := by
  refine exists_roleValue_iff fun value => ?_
  cases value <;> simp [RoleKind.Allows]

/-! ## Parameters and body -/

theorem parameters_eq_error (failed : map.parameters record = .error fault) :
    ∃ field ∈ map.parameterFields, record.Keeps field ∧
      Value.Obstructs fault (record.get field.field) := by
  rw [Record.parameters_eq_mapM] at failed
  rcases exists_of_mapM_eq_error failed with ⟨field, kept, refused⟩
  rcases Record.mem_keptFields_iff.mp kept with ⟨declared, keeps⟩
  exact ⟨field, declared, keeps,
    Value.obstructs_of_parameterText (map_eq_error_iff.mp refused)⟩

theorem isClear_of_parameters {parameters : List (Text × Parameter)}
    (written : map.parameters record = .ok parameters) : record.IsClear map := by
  intro field declared keeps cause obstructs
  rcases Value.exists_parameterText_eq_error_iff.mpr ⟨cause, obstructs⟩ with ⟨reported, refused⟩
  rcases Record.exists_text_of_parameters written declared keeps with ⟨text, isText⟩
  cases refused.symm.trans isText

theorem exists_parameters_iff :
    (∃ parameters, map.parameters record = .ok parameters) ↔ record.IsClear map := by
  constructor
  · rintro ⟨parameters, written⟩
    exact isClear_of_parameters written
  · intro clear
    cases found : map.parameters record with
    | ok parameters => exact ⟨parameters, rfl⟩
    | error fault =>
        rcases parameters_eq_error found with ⟨field, declared, keeps, obstructs⟩
        exact absurd obstructs (clear field declared keeps fault)

theorem body_eq_error (failed : map.body record = .error fault) :
    fault.IsOwn ∨ ∃ name content run, map.bodyField = some name ∧ record.get name = .text content ∧
      content.surrogateRun? = some run ∧ fault = .surrogates run := by
  rw [body] at failed
  split at failed
  · cases failed
  · next name content isOwn =>
      rcases Record.role?_eq_some_iff.mp isOwn with ⟨declared, isText, _⟩
      rw [Text.encode] at failed
      split at failed
      · next run isRun =>
          cases failed
          exact Or.inr ⟨name, content, run, declared, isText, isRun, rfl⟩
      · cases failed
  · cases failed
  · cases failed
    exact Or.inl ⟨Or.inl ⟨_, rfl⟩, rfl⟩

theorem body_of_surrogateRun? {name content : Text} {run : SurrogateRun}
    (declared : map.bodyField = some name) (isText : record.get name = .text content)
    (isRun : content.surrogateRun? = some run) : map.body record = .error (.surrogates run) := by
  have filled : (record.get name).isEmpty = false := by
    rw [isText]
    cases content with
    | nil => cases isRun
    | cons _ _ => rfl
  have isOwn : record.role? map.bodyField = some (name, .text content) :=
    Record.role?_eq_some_iff.mpr ⟨declared, isText, isText ▸ filled⟩
  rw [body, isOwn]
  simp only [Text.encode, isRun]
  rfl

theorem exists_body_iff :
    (∃ value, map.body record = .ok value) ↔
      record.Fills map.bodyField .body ∧
        ∀ name content, map.bodyField = some name → record.get name = .text content →
          content.surrogateRun? = none := by
  constructor
  · rintro ⟨value, found⟩
    rw [body] at found
    constructor
    · intro name declared
      split at found
      · next lacking => exact Or.inl (Record.role?_eq_none_iff.mp lacking name declared)
      · next own content isOwn =>
          rcases Record.role?_eq_some_iff.mp isOwn with ⟨isField, isText, _⟩
          cases declared.symm.trans isField
          exact Or.inr (Or.inl ⟨content, isText⟩)
      · next own kind octets isOwn =>
          rcases Record.role?_eq_some_iff.mp isOwn with ⟨isField, areOctets, _⟩
          cases declared.symm.trans isField
          exact Or.inr (Or.inr ⟨kind, octets, areOctets⟩)
      · cases found
    · intro name content declared isText
      cases isRun : content.surrogateRun? with
      | none => rfl
      | some run =>
          have failed := body_of_surrogateRun? declared isText isRun
          rw [body] at failed
          cases failed.symm.trans found
  · rintro ⟨fills, encodable⟩
    cases found : map.body record with
    | ok value => exact ⟨value, rfl⟩
    | error fault =>
        rw [body] at found
        split at found
        · cases found
        · next name content isOwn =>
            rcases Record.role?_eq_some_iff.mp isOwn with ⟨declared, isText, _⟩
            rw [Text.encode, encodable name content declared isText] at found
            cases found
        · cases found
        · next name value notText notOctets isOwn =>
            rcases Record.role?_eq_some_iff.mp isOwn with ⟨declared, rfl, filled⟩
            rcases fills name declared with empty | ⟨content, isText⟩ | ⟨kind, octets, areOctets⟩
            · cases filled.symm.trans empty
            · exact (notText content isText).elim
            · exact (notOctets kind octets areOctets).elim

end FieldMap

/-! ## The message -/

namespace Record

/-- The head of a message is complete exactly if all its roles are filled. -/
theorem fills_headRoles_iff :
    (∀ role ∈ map.headRoles, record.Fills role.1 role.2) ↔
      (∃ value, map.timeRole record origin.now = .ok value) ∧
      (∃ value, map.integerRole record map.severityField map.severityDefault.code = .ok value) ∧
      (∃ value, map.integerRole record map.facilityField map.facilityDefault.code = .ok value) ∧
      (∃ value, map.textRole record map.hostnameField origin.identity.hostname = .ok value) ∧
      (∃ value, map.textRole record map.appNameField map.appNameDefault = .ok value) ∧
      (∃ value, map.textRole record map.processIdField origin.identity.processId = .ok value) ∧
      ∃ value, map.textRole record map.messageIdField map.messageIdDefault = .ok value := by
  simp only [FieldMap.headRoles, List.forall_mem_cons, List.not_mem_nil, false_implies,
    implies_true, and_true, FieldMap.exists_timeRole_iff, FieldMap.exists_integerRole_iff,
    FieldMap.exists_textRole_iff]

/-- Once the roles in the head are filled, the composition goes on with the parameters and the
body. -/
theorem toMessage_of_fills (origin : Origin)
    (fills : ∀ role ∈ map.headRoles, record.Fills role.1 role.2) :
    ∃ message : List (Text × Parameter) → Value → Message, record.toMessage origin map =
      (map.parameters record >>= fun parameters =>
        map.body record >>= fun body => .ok (message parameters body)) := by
  rcases fills_headRoles_iff.mp fills with ⟨⟨timestamp, isTimestamp⟩, ⟨severity, isSeverity⟩,
    ⟨facility, isFacility⟩, ⟨hostname, isHostname⟩, ⟨appName, isAppName⟩,
    ⟨processId, isProcessId⟩, ⟨messageId, isMessageId⟩⟩
  rw [toMessage, isTimestamp, isSeverity, isFacility, isHostname, isAppName, isProcessId,
    isMessageId]
  exact ⟨_, rfl⟩

theorem Composes.fills (composes : Composes origin map record message) :
    ∀ role ∈ map.headRoles, record.Fills role.1 role.2 :=
  fills_headRoles_iff.mpr ⟨⟨_, composes.timestamp⟩, ⟨_, composes.severity⟩,
    ⟨_, composes.facility⟩, ⟨_, composes.hostname⟩, ⟨_, composes.appName⟩,
    ⟨_, composes.processId⟩, ⟨_, composes.messageId⟩⟩

/-- A message is composed of just the records of which one can be composed. -/
theorem exists_toMessage_iff (origin : Origin) :
    (∃ message, record.toMessage origin map = .ok message) ↔ record.IsComposable map := by
  constructor
  · rintro ⟨message, composed⟩
    have composes := composes_of_toMessage composed
    rcases composes.structuredData with ⟨parameters, written, _⟩
    rcases FieldMap.exists_body_iff.mp ⟨_, composes.body⟩ with ⟨fills, encodable⟩
    exact ⟨composes.fills, FieldMap.isClear_of_parameters written, fills, encodable⟩
  · rintro ⟨fills, clear, body, encodable⟩
    rcases toMessage_of_fills origin fills with ⟨message, composed⟩
    rcases FieldMap.exists_parameters_iff.mpr clear with ⟨parameters, written⟩
    rcases FieldMap.exists_body_iff.mpr ⟨body, encodable⟩ with ⟨octets, isBody⟩
    rw [composed, written, isBody]
    exact ⟨_, rfl⟩

/-- What goes wrong in the composition of a message is the kind of a value, or one of the two
conversions. -/
theorem toMessage_eq_error {fault : Fault} (failed : record.toMessage origin map = .error fault) :
    fault.IsOwn ∨ record.LetsOut map fault := by
  simp only [toMessage, bind_eq_error_iff] at failed
  rcases failed with refused | ⟨_, isTimestamp, refused | ⟨_, isSeverity, refused |
    ⟨_, isFacility, refused | ⟨_, isHostname, refused | ⟨_, isAppName, refused |
    ⟨_, isProcessId, refused | ⟨_, isMessageId, refused⟩⟩⟩⟩⟩⟩⟩
  -- The seven roles come first, then the parameters and the body.
  iterate 7 exact Or.inl (FieldMap.isOwn_of_roleValue refused)
  have fills := fills_headRoles_iff.mpr ⟨⟨_, isTimestamp⟩, ⟨_, isSeverity⟩, ⟨_, isFacility⟩,
    ⟨_, isHostname⟩, ⟨_, isAppName⟩, ⟨_, isProcessId⟩, ⟨_, isMessageId⟩⟩
  rcases refused with refused | ⟨_, areParameters, refused | ⟨_, _, impossible⟩⟩
  · rcases FieldMap.parameters_eq_error refused with ⟨field, declared, keeps, obstructs⟩
    exact Or.inr (.parameter fills declared keeps obstructs)
  · rcases FieldMap.body_eq_error refused with
      own | ⟨name, content, run, declared, isText, isRun, rfl⟩
    · exact Or.inl own
    · exact Or.inr (.body fills (FieldMap.isClear_of_parameters areParameters) declared isText
        isRun)
  · cases impossible

/-- A parameter without a text keeps a message from being composed. -/
theorem toMessage_of_obstructs {fault : Fault} {field : ParameterField} (origin : Origin)
    (fills : ∀ role ∈ map.headRoles, record.Fills role.1 role.2)
    (declared : field ∈ map.parameterFields) (keeps : record.Keeps field)
    (obstructs : Value.Obstructs fault (record.get field.field)) :
    ∃ reported, record.toMessage origin map = .error reported ∧ ¬reported.IsOwn := by
  rcases toMessage_of_fills origin fills with ⟨message, composed⟩
  rw [composed]
  cases parameters : map.parameters record with
  | ok written =>
      exact absurd obstructs (FieldMap.isClear_of_parameters parameters field declared keeps fault)
  | error reported =>
      rcases FieldMap.parameters_eq_error parameters with ⟨_, _, _, isReported⟩
      exact ⟨_, rfl, Fault.not_isOwn_of_obstructs isReported⟩

/-- So does a body with surrogates. -/
theorem toMessage_of_surrogateRun? {name content : Text} {run : SurrogateRun} (origin : Origin)
    (fills : ∀ role ∈ map.headRoles, record.Fills role.1 role.2) (clear : record.IsClear map)
    (declared : map.bodyField = some name) (isText : record.get name = .text content)
    (isRun : content.surrogateRun? = some run) :
    ∃ reported, record.toMessage origin map = .error reported ∧ ¬reported.IsOwn := by
  rcases toMessage_of_fills origin fills with ⟨message, composed⟩
  rcases FieldMap.exists_parameters_iff.mpr clear with ⟨parameters, written⟩
  rw [composed, written, FieldMap.body_of_surrogateRun? declared isText isRun]
  exact ⟨_, rfl, Fault.not_isOwn_surrogates run⟩

end Record

/-! ## Numbers -/

/-- A number with too many digits is far beyond all that a part of a message allows. -/
theorem natAbs_gt_of_wide {number : Int} (wide : 10 ^ digitLimit ≤ number.natAbs) :
    10 ^ 30 < number.natAbs :=
  Nat.lt_of_lt_of_le (Nat.pow_lt_pow_right (by decide) (by decide)) wide

theorem Record.Supplies.exists_role? {field : Option Text} {number : Int}
    (supplies : record.Supplies field number) (nonzero : number ≠ 0) :
    ∃ name, record.role? field = some (name, .int number) := by
  rcases supplies with ⟨name, declared, isNumber⟩
  exact ⟨name, role?_eq_some_iff.mpr ⟨declared, isNumber, beq_eq_false_iff_ne.mpr nonzero⟩⟩

namespace FieldMap

variable {field : Option Text} {default greatest : Nat} {value : Value} {number : Int}

theorem integerRole_of_supplies (supplies : record.Supplies field number) (nonzero : number ≠ 0) :
    map.integerRole record field default = .ok (.int number) := by
  rcases supplies.exists_role? nonzero with ⟨name, isOwn⟩
  exact roleValue_eq_ok_iff.mpr (Or.inr ⟨name, .int number, isOwn, rfl⟩)

theorem timeRole_of_supplies {now : DateTime} (supplies : record.Supplies map.timestampField number)
    (nonzero : number ≠ 0) : map.timeRole record now = .ok (.int number) := by
  rcases supplies.exists_role? nonzero with ⟨name, isOwn⟩
  exact roleValue_eq_ok_iff.mpr (Or.inr ⟨name, .int number, isOwn, rfl⟩)

theorem supplies_of_timeRole {now : DateTime}
    (found : map.timeRole record now = .ok (.int number)) :
    record.Supplies map.timestampField number := by
  rcases roleValue_eq_ok_iff.mp found with ⟨_, impossible⟩ | ⟨name, own, isOwn, read⟩
  · cases impossible
  · rcases Record.role?_eq_some_iff.mp isOwn with ⟨declared, isValue, _⟩
    cases own with
    | int nanoseconds =>
        cases read
        exact ⟨name, declared, isValue⟩
    | time _ => cases read
    | _ => cases read

/-- A role keeps to its codes exactly if the record does, since its default does. -/
theorem isInRange_iff (fits : default ≤ greatest)
    (found : map.integerRole record field default = .ok value) :
    record.IsInRange field greatest ↔ ∃ code : Int, value = .int code ∧ 0 ≤ code ∧
      code ≤ greatest := by
  constructor
  · intro inRange
    rcases integerRole_eq_ok found with rfl | ⟨name, code, declared, isNumber, _, rfl⟩
    · exact ⟨default, rfl, by omega, by omega⟩
    · exact ⟨code, rfl, inRange code ⟨name, declared, isNumber⟩⟩
  · rintro ⟨code, rfl, inRange⟩ number supplies
    by_cases nonzero : number = 0
    · omega
    · cases found.symm.trans (integerRole_of_supplies supplies nonzero)
      exact inRange

/-- A number beyond the codes is the record's own. -/
theorem supplies_of_integerRole (fits : default ≤ greatest) (beyond : greatest < number.natAbs)
    (found : map.integerRole record field default = .ok (.int number)) :
    record.Supplies field number := by
  rcases integerRole_eq_ok found with same | ⟨name, code, declared, isNumber, _, same⟩
  · cases same
    omega
  · cases same
    exact ⟨name, declared, isNumber⟩

end FieldMap

/-! ## What is reported of a message -/

/-- The kind of the values that a record puts into a part of its message. -/
def Property.kind : Property → RoleKind
  | .severity | .facility => .integer
  | .timestamp => .time
  | .body => .body
  | _ => .text

namespace FieldMap

variable {field : Option Text} {value : Value}

theorem allows_of_roleValue {expected : RoleKind} {read? : Value → Option Value} {default : Value}
    (fits : expected.Allows default)
    (reads : ∀ own found, read? own = some found → expected.Allows found)
    (found : map.roleValue record field expected read? default = .ok value) :
    expected.Allows value := by
  rcases roleValue_eq_ok_iff.mp found with ⟨_, rfl⟩ | ⟨_, own, _, read⟩
  · exact fits
  · exact reads own value read

theorem allows_of_integerRole {code : Nat}
    (found : map.integerRole record field code = .ok value) : RoleKind.integer.Allows value := by
  refine allows_of_roleValue ⟨_, rfl⟩ (fun own found read => ?_) found
  rcases Option.map_eq_some_iff.mp read with ⟨_, _, rfl⟩
  exact ⟨_, rfl⟩

theorem allows_of_textRole {text : Text}
    (found : map.textRole record field text = .ok value) : RoleKind.text.Allows value := by
  refine allows_of_roleValue ⟨_, rfl⟩ (fun own found read => ?_) found
  rcases Option.map_eq_some_iff.mp read with ⟨_, _, rfl⟩
  exact ⟨_, rfl⟩

theorem allows_of_timeRole {now : DateTime} (found : map.timeRole record now = .ok value) :
    RoleKind.time.Allows value := by
  refine allows_of_roleValue (Or.inl ⟨_, rfl⟩) (fun own found read => ?_) found
  cases own with
  | time _ =>
      cases read
      exact Or.inl ⟨_, rfl⟩
  | int _ =>
      cases read
      exact Or.inr ⟨_, rfl⟩
  | _ => cases read

end FieldMap

namespace Record

/-- Each part of a composed message has a value of its kind. -/
theorem Composes.kind_allows (composes : Composes origin map record message)
    {property : Property} {value : Value} (holds : message.Holds property value) :
    property.kind.Allows value := by
  have inElements : ∀ element ∈ message.structuredData, RoleKind.text.Allows element.id ∧
      ∀ parameter ∈ element.parameters,
        RoleKind.text.Allows parameter.name ∧ RoleKind.text.Allows parameter.value := by
    intro element member
    rcases composes.structuredData with ⟨parameters, written, elements⟩
    rw [← elements] at member
    rcases List.mem_map.mp member with ⟨group, isGroup, rfl⟩
    have inside := (ParameterGroups.gathers_ofList parameters group isGroup).2
    refine ⟨⟨_, rfl⟩, fun parameter isMember => ?_⟩
    rcases exists_field_of_mem_parameters written (inside parameter isMember) with
      ⟨_, _, _, same⟩
    rcases Prod.mk.inj same with ⟨_, rfl⟩
    exact ⟨⟨_, rfl⟩, ⟨_, rfl⟩⟩
  cases property with
  | severity => exact holds ▸ FieldMap.allows_of_integerRole composes.severity
  | facility => exact holds ▸ FieldMap.allows_of_integerRole composes.facility
  | timestamp => exact holds ▸ FieldMap.allows_of_timeRole composes.timestamp
  | hostname => exact holds ▸ FieldMap.allows_of_textRole composes.hostname
  | appName => exact holds ▸ FieldMap.allows_of_textRole composes.appName
  | processId => exact holds ▸ FieldMap.allows_of_textRole composes.processId
  | messageId => exact holds ▸ FieldMap.allows_of_textRole composes.messageId
  | elementId =>
      rcases holds with ⟨element, member, rfl⟩
      exact (inElements element member).1
  | parameterName =>
      rcases holds with ⟨element, member, parameter, inside, rfl⟩
      exact ((inElements element member).2 parameter inside).1
  | parameterValue =>
      rcases holds with ⟨element, member, parameter, inside, rfl⟩
      exact ((inElements element member).2 parameter inside).2
  | body =>
      cases holds
      rcases FieldMap.exists_octets_of_body composes.body with ⟨octets, same⟩
      exact Or.inr ⟨.fixed, octets, same⟩

end Record

/-- Of the values that a role takes, only a number can be one that has no words. -/
theorem RoleKind.Allows.isNumber_of_wordsFault? {kind : RoleKind} {value : Value}
    {fault : WordsFault} (allows : kind.Allows value) (found : value.wordsFault? = some fault) :
    (kind = .integer ∨ kind = .time) ∧
      ∃ number, value = .int number ∧ 10 ^ digitLimit ≤ number.natAbs := by
  have wide : ∀ number, value = .int number → 10 ^ digitLimit ≤ number.natAbs := by
    rintro number rfl
    exact (WordsFault.ofInteger?_eq_some_iff.mp found).2
  cases kind with
  | integer =>
      rcases allows with ⟨number, same⟩
      exact ⟨Or.inl rfl, number, same, wide number same⟩
  | text =>
      rcases allows with ⟨content, rfl⟩
      cases found
  | time =>
      rcases allows with ⟨dateTime, rfl⟩ | ⟨number, same⟩
      · cases found
      · exact ⟨Or.inr rfl, number, same, wide number same⟩
  | body =>
      rcases allows with ⟨content, rfl⟩ | ⟨kind, octets, rfl⟩
      · cases found
      · cases found

namespace Record

/-- A composed message is refused with a fault of the package's own, unless what is invalid is a
number with too many digits. -/
theorem isOwn_or_letsOut_of_marshal {allowLong : Bool} {cause : InvalidValue}
    (composed : record.toMessage origin map = .ok message)
    (refused : message.marshal allowLong = .error cause) :
    (Fault.invalid cause).IsOwn ∨ record.LetsOut map (.invalid cause) := by
  have composes := composes_of_toMessage composed
  have composable := (exists_toMessage_iff origin).mp ⟨message, composed⟩
  rcases cause with ⟨property, value⟩
  have holds := (Message.violation_of_marshal_eq_error refused).1
  have violation := Message.marshal_eq_error_iff.mp refused
  cases words : value.wordsFault? with
  | none => exact Or.inl ⟨Or.inr ⟨_, rfl⟩, (Fault.wordsFault?_invalid _).trans words⟩
  | some fault =>
      rcases (composes.kind_allows holds).isNumber_of_wordsFault? words with
        ⟨kind, number, rfl, wide⟩
      have beyond := natAbs_gt_of_wide wide
      -- What comes before the number in the message has been checked.
      have severityFits := FieldMap.isInRange_iff map.severityDefault.code_le composes.severity
      have facilityFits := FieldMap.isInRange_iff map.facilityDefault.code_le composes.facility
      refine Or.inr ?_
      cases property with
      | severity =>
          have supplies := FieldMap.supplies_of_integerRole map.severityDefault.code_le
            (by omega) (holds ▸ composes.severity)
          exact .severity composable supplies wide
      | facility =>
          have supplies := FieldMap.supplies_of_integerRole map.facilityDefault.code_le
            (by omega) (holds ▸ composes.facility)
          rcases violation.of_cons nofun with ⟨severity, _⟩
          exact .facility composable (severityFits.mpr severity) supplies wide
      | timestamp =>
          have supplies := FieldMap.supplies_of_timeRole (holds ▸ composes.timestamp)
          rcases violation.of_cons nofun with ⟨severity, later⟩
          rcases later.of_cons nofun with ⟨facility, _⟩
          exact .timestamp composable (severityFits.mpr severity) (facilityFits.mpr facility)
            supplies wide
      | _ => rcases kind with impossible | impossible <;> cases impossible

variable {allowLong : Bool} {number : Int}

/-- A number with too many digits is reported if all that comes before it keeps to its
constraint. -/
theorem marshal_of_wide_severity (composed : record.toMessage origin map = .ok message)
    (supplies : record.Supplies map.severityField number)
    (wide : 10 ^ digitLimit ≤ number.natAbs) :
    message.marshal allowLong = .error ⟨.severity, .int number⟩ := by
  have beyond := natAbs_gt_of_wide wide
  have composes := composes_of_toMessage composed
  have isNumber : message.severity = .int number :=
    Except.ok.inj (composes.severity.symm.trans
      (FieldMap.integerRole_of_supplies supplies (by omega)))
  rw [Message.marshal_eq_error_iff]
  refine ⟨[], _, by rw [← isNumber]; rfl, List.forall_mem_nil _, ?_⟩
  rintro ⟨code, same, inRange⟩
  cases same
  omega

theorem marshal_of_wide_facility (composed : record.toMessage origin map = .ok message)
    (severity : record.IsInRange map.severityField 8)
    (supplies : record.Supplies map.facilityField number)
    (wide : 10 ^ digitLimit ≤ number.natAbs) :
    message.marshal allowLong = .error ⟨.facility, .int number⟩ := by
  have beyond := natAbs_gt_of_wide wide
  have composes := composes_of_toMessage composed
  have isNumber : message.facility = .int number :=
    Except.ok.inj (composes.facility.symm.trans
      (FieldMap.integerRole_of_supplies supplies (by omega)))
  have allowed := (FieldMap.isInRange_iff map.severityDefault.code_le composes.severity).mp severity
  rw [Message.marshal_eq_error_iff]
  refine ⟨[(.severity, message.severity)], _, by rw [← isNumber]; rfl,
    List.forall_mem_singleton.mpr allowed, ?_⟩
  rintro ⟨code, same, inRange⟩
  cases same
  omega

theorem marshal_of_wide_timestamp (composed : record.toMessage origin map = .ok message)
    (severity : record.IsInRange map.severityField 8)
    (facility : record.IsInRange map.facilityField 23)
    (supplies : record.Supplies map.timestampField number)
    (wide : 10 ^ digitLimit ≤ number.natAbs) :
    message.marshal allowLong = .error ⟨.timestamp, .int number⟩ := by
  have beyond := natAbs_gt_of_wide wide
  have composes := composes_of_toMessage composed
  have isNumber : message.timestamp = .int number :=
    Except.ok.inj (composes.timestamp.symm.trans
      (FieldMap.timeRole_of_supplies supplies (by omega)))
  have allowedSeverity :=
    (FieldMap.isInRange_iff map.severityDefault.code_le composes.severity).mp severity
  have allowedFacility :=
    (FieldMap.isInRange_iff map.facilityDefault.code_le composes.facility).mp facility
  rw [Message.marshal_eq_error_iff]
  refine ⟨[(.severity, message.severity), (.facility, message.facility)], _,
    by rw [← isNumber]; rfl,
    List.forall_mem_cons.mpr ⟨allowedSeverity, List.forall_mem_singleton.mpr allowedFacility⟩, ?_⟩
  rintro (⟨_, impossible⟩ | ⟨nanoseconds, same, inCalendar⟩)
  · cases impossible
  · cases same
    rcases DateTime.isInCalendar_iff.mp inCalendar with ⟨first, last⟩
    simp only [DateTime.firstSecond, DateTime.lastSecond] at first last
    omega

end Record

/-! ## All together -/

namespace Subject

theorem isOwn_of_classifier {identity : Identity} {subject : Subject}
    {cause : ConfigurationFault} (refused : subject.classifier.reflect identity = .error cause) :
    (Fault.configuration cause).IsOwn := by
  refine ⟨Or.inl ⟨cause, rfl⟩, ?_⟩
  cases subject with
  | record found =>
      rcases mapError_eq_error_iff.mp refused with ⟨_, _, rfl⟩
      rfl
  | plain _ | value _ =>
      cases refused
      rfl

theorem classifier_eq_ok {identity : Identity} {subject : Subject}
    (reflected : subject.classifier.reflect identity = .ok map) :
    ∃ record, subject = .record record ∧ record.type.reflect identity = .ok map := by
  cases subject with
  | record found => exact ⟨found, rfl, mapError_eq_ok_iff.mp reflected⟩
  | plain _ | value _ => cases reflected

/-- That a record is not encoded, with a fault that callers are not told of. -/
def LeaksAt (origin : Origin) (allowLong : Bool) (subject : Subject) : Prop :=
  ∃ fault, subject.marshal origin allowLong = .error fault ∧ ¬fault.IsOwn

variable {allowLong : Bool}

theorem leaksAt_of_uncomposed (reflected : record.type.reflect origin.identity = .ok map)
    (failed : ∃ fault, record.toMessage origin map = .error fault ∧ ¬fault.IsOwn) :
    LeaksAt origin allowLong (.record record) := by
  rcases failed with ⟨fault, failed, foreign⟩
  rw [LeaksAt, marshal_of_reflected reflected]
  exact ⟨fault, bind_eq_error_iff.mpr (Or.inl failed), foreign⟩

theorem leaksAt_of_invalid {property : Property} {number : Int}
    (reflected : record.type.reflect origin.identity = .ok map)
    (composable : record.IsComposable map) (wide : 10 ^ digitLimit ≤ number.natAbs)
    (refused : ∀ message, record.toMessage origin map = .ok message →
      message.marshal allowLong = .error ⟨property, .int number⟩) :
    LeaksAt origin allowLong (.record record) := by
  rcases (Record.exists_toMessage_iff origin).mpr composable with ⟨message, composed⟩
  refine ⟨.invalid ⟨property, .int number⟩, ?_, Fault.not_isOwn_of_wide wide⟩
  rw [marshal_of_composed reflected composed]
  exact mapError_eq_error_iff.mpr ⟨_, refused message composed, rfl⟩

/-- A record that can let a fault out does so. -/
theorem leaksAt_of_letsOut {fault : Fault}
    (reflected : record.type.reflect origin.identity = .ok map) (lets : record.LetsOut map fault) :
    LeaksAt origin allowLong (.record record) := by
  cases lets with
  | parameter fills declared keeps obstructs =>
      exact leaksAt_of_uncomposed reflected
        (Record.toMessage_of_obstructs origin fills declared keeps obstructs)
  | body fills clear declared isText isRun =>
      exact leaksAt_of_uncomposed reflected
        (Record.toMessage_of_surrogateRun? origin fills clear declared isText isRun)
  | severity composable supplies wide =>
      exact leaksAt_of_invalid reflected composable wide fun _ composed =>
        Record.marshal_of_wide_severity composed supplies wide
  | facility composable severity supplies wide =>
      exact leaksAt_of_invalid reflected composable wide fun _ composed =>
        Record.marshal_of_wide_facility composed severity supplies wide
  | timestamp composable severity facility supplies wide =>
      exact leaksAt_of_invalid reflected composable wide fun _ composed =>
        Record.marshal_of_wide_timestamp composed severity facility supplies wide

/-- Encoding fails with a fault that callers are told to expect, or else with that of a conversion
that the record runs into; and if there is such a conversion, encoding does fail with a fault that
callers are not told of. -/
theorem foreign_faults_of_marshal (origin : Origin) (allowLong : Bool) (subject : Subject) :
    (∀ fault, subject.marshal origin allowLong = .error fault →
      fault.IsOwn ∨ subject.LetsOut origin.identity fault) ∧
    ((∃ fault, subject.marshal origin allowLong = .error fault ∧ ¬fault.IsOwn) ↔
      ∃ fault, subject.LetsOut origin.identity fault) := by
  have expected : ∀ fault, subject.marshal origin allowLong = .error fault →
      fault.IsOwn ∨ subject.LetsOut origin.identity fault := by
    intro fault failed
    rw [marshal, bind_eq_error_iff] at failed
    rcases failed with unreflected | ⟨map, reflected, failed⟩
    · rcases mapError_eq_error_iff.mp unreflected with ⟨cause, refused, rfl⟩
      exact Or.inl (isOwn_of_classifier refused)
    · rcases classifier_eq_ok (mapError_eq_ok_iff.mp reflected) with ⟨record, rfl, declared⟩
      rcases bind_eq_error_iff.mp failed with uncomposed | ⟨message, composed, failed⟩
      · exact (Record.toMessage_eq_error uncomposed).imp_right (.record declared)
      · rcases mapError_eq_error_iff.mp failed with ⟨cause, refused, rfl⟩
        exact (Record.isOwn_or_letsOut_of_marshal composed refused).imp_right (.record declared)
  refine ⟨expected, ?_, ?_⟩
  · rintro ⟨fault, failed, foreign⟩
    exact ⟨fault, (expected fault failed).resolve_left foreign⟩
  · rintro ⟨fault, lets⟩
    cases lets with
    | record reflected lets => exact leaksAt_of_letsOut reflected lets

/-- A body that is a surrogate, and a list with an integer beyond 64 bits, let the faults of their
conversions out. -/
theorem foreign_faults_get_out :
    let origin := Origin.atEpoch ⟨"host", "app", "42"⟩
    let body : Record :=
      ⟨⟨"T", [{ name := "message" }], by decide⟩, [.text [.ofNat 0xD800]], rfl⟩
    let list : Record := ⟨⟨"T", [{ name := "v" }], by decide⟩, [.list [.int (2 ^ 64)]], rfl⟩
    (∃ run, (Subject.record body).marshal origin false = .error (.surrogates run)) ∧
      (Subject.record list).marshal origin false = .error (.json .integerRange) ∧
      ∀ run, ¬(Fault.surrogates run).IsOwn ∧ ¬(Fault.json .integerRange).IsOwn :=
  ⟨⟨_, rfl⟩, rfl, fun run => ⟨Fault.not_isOwn_surrogates run, Fault.not_isOwn_json _⟩⟩

end Subject

end Syslog
