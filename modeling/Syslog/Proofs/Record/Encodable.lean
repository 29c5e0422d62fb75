import Syslog.Proofs.Record.Composition

namespace Syslog

/-!
# What a declaration guarantees about encoding

The checks on a declaration are made once, when the field map of a type is derived, and those on a
message each time one is encoded.  Whatever the declaration settles has then been checked for
good: what is reported about a record that has been composed is never the fault of a tag
(`Subject.marshal_fails_only_by_values`).

Two things are left open on purpose.  The cap on the length of names may be lifted when a message is
encoded, so it is not applied to a declaration; and the names of the type and of the process,
which stand in for tags that are missing, are nobody's declaration.
-/

/-- A field of the given name has a tag that says something. -/
def RecordType.HasTag (type : RecordType) (name : Text) : Prop :=
  ∃ field ∈ type.fields, field.name = name ∧ ∃ tag : Text, field.tag = some (.text tag) ∧ tag ≠ []

/-- Why a field of the header is invalid: by the value of the record, or else by the name from
outside that no tag has replaced. -/
inductive Record.HasHeaderFault (record : Record) (limit : Nat) (name outside : Text) : Prop
  | own (filled : (record.get name).isEmpty = false) (invalid : ¬(record.get name).IsToken limit)
  | outside (untagged : ¬record.type.HasTag name) (invalid : ¬(Value.text outside).IsToken limit)

/-- What is the case if a part of the message of a record is reported as invalid.  Nothing is said
of the parts that no declaration has a say in. -/
def Record.AccountsFor (identity : Identity) (map : FieldMap) (allowLong : Bool) (record : Record) :
    Property → Prop
  | .severity => ∃ code : Int, record.get "severity" = .int code ∧ code ≠ 0 ∧ (code < 0 ∨ 8 < code)
  | .facility =>
    ∃ code : Int, record.get "facility" = .int code ∧ code ≠ 0 ∧ (code < 0 ∨ 23 < code)
  | .appName => record.HasHeaderFault 48 "app_name" identity.appName
  | .messageId => record.HasHeaderFault 32 "message_id" record.type.name
  | .elementId => allowLong = false ∧ ∃ field ∈ map.parameterFields, 32 < field.elementId.length
  | .parameterName => allowLong = false ∧ ∃ field ∈ map.parameterFields, 32 < field.name.length
  | .body => False
  | .timestamp | .hostname | .processId | .parameterValue => True

variable {origin : Origin} {identity : Identity} {type : RecordType} {map : FieldMap}
  {record : Record} {message : Message} {allowLong : Bool}

/-- The fields of a type, once all their tags are texts, are what its field map is derived from. -/
theorem RecordType.exists_declared_of_reflect (reflected : type.reflect identity = .ok map) :
    ∃ specs, FieldMap.Declared identity type.name specs map ∧
      ∀ field ∈ type.fields, ∃ spec ∈ specs, field.spec type.name = .ok spec := by
  rw [reflect, bind_eq_ok_iff] at reflected
  rcases reflected with ⟨specs, read, classified⟩
  exact ⟨specs, .ofFields classified, (exists_of_mapM_eq_ok read).1⟩

theorem FieldMap.HasDefault.untagged {limit : Nat} {role : Role} {outside default : Text}
    {specs : List FieldSpec} (has : HasDefault limit role outside specs default)
    (read : ∀ field ∈ type.fields, ∃ spec ∈ specs, field.spec type.name = .ok spec)
    (invalid : ¬(Value.text default).IsToken limit) :
    ¬type.HasTag role.name ∧ ¬(Value.text outside).IsToken limit := by
  rcases has.resolve_left invalid with ⟨rfl, untagged⟩
  refine ⟨?_, invalid⟩
  rintro ⟨field, member, name, tag, hasTag, filled⟩
  rcases read field member with ⟨spec, isSpec, same⟩
  rw [FieldDeclaration.spec, hasTag] at same
  cases same
  refine filled (untagged _ isSpec ?_)
  rw [name]
  exact role.ofName?_name

namespace Record.Composes

/-- A severity or a facility is invalid only by a value of the record. -/
theorem integer_of_not_allows {field : Option Text} {name : Text} {default limit : Nat}
    {value : Value} (found : map.integerRole record field default = .ok value)
    (named : ∀ declared, field = some declared → declared = name) (within : default ≤ limit)
    (violated : ¬∃ code : Int, value = .int code ∧ 0 ≤ code ∧ code ≤ limit) :
    ∃ code : Int, record.get name = .int code ∧ code ≠ 0 ∧ (code < 0 ∨ (limit : Int) < code) := by
  rcases FieldMap.integerRole_eq_ok found with rfl | ⟨declared, code, isField, own, notZero, rfl⟩
  · exact absurd ⟨_, rfl, Int.natCast_nonneg _, Int.ofNat_le.mpr within⟩ violated
  · cases named declared isField
    refine ⟨code, own, notZero, ?_⟩
    by_contra inside
    exact violated ⟨code, rfl, by omega, by omega⟩

/-- A name in the header is invalid by a value of the record, or else by a name from outside. -/
theorem headerFault_of_not_isToken (role : Role) {field : Option Text} {limit : Nat}
    {default outside : Text} {specs : List FieldSpec} {value : Value}
    (found : map.textRole record field default = .ok value)
    (named : ∀ declared, field = some declared → declared = role.name)
    (has : FieldMap.HasDefault limit role outside specs default)
    (read : ∀ field ∈ record.type.fields, ∃ spec ∈ specs, field.spec record.type.name = .ok spec)
    (violated : ¬value.IsToken limit) : record.HasHeaderFault limit role.name outside := by
  rcases FieldMap.textRole_eq_ok found with ⟨rfl, _⟩ | ⟨declared, isField, filled, rfl⟩
  · rcases has.untagged read violated with ⟨untagged, invalid⟩
    exact .outside untagged invalid
  · cases named declared isField
    exact .own filled violated

end Record.Composes

/-- A name that has been checked without a cap is invalid only if there is a cap and it is too
long for it. -/
theorem Text.long_of_not_isName {text : Text} (isName : text.isName true = true)
    (violated : ¬(Value.text text).IsName allowLong) : allowLong = false ∧ 32 < text.length := by
  rcases Text.isName_iff.mp isName with ⟨filled, _, characters⟩
  by_contra within
  refine violated ⟨text, rfl, filled, fun capped => ?_, characters⟩
  exact Nat.le_of_not_lt fun long => within ⟨capped, long⟩

theorem Severity.code_le (severity : Severity) : severity.code ≤ 8 := by
  cases severity <;> decide

theorem Facility.code_le (facility : Facility) : facility.code ≤ 23 := by
  cases facility <;> decide

/-- A violation in a composed message is accounted for by the record, or by what its declaration
leaves open. -/
theorem Record.accountsFor_of_violation
    (accepted : record.type.reflect origin.identity = .ok map)
    (composes : Record.Composes origin map record message) {property : Property} {value : Value}
    (holds : message.Holds property value) (violated : ¬property.Allows allowLong value) :
    record.AccountsFor origin.identity map allowLong property := by
  rcases RecordType.exists_declared_of_reflect accepted with ⟨specs, declared, read⟩
  cases property with
  | severity =>
      cases holds
      exact Composes.integer_of_not_allows composes.severity declared.severityField
        (Severity.code_le _) violated
  | facility =>
      cases holds
      exact Composes.integer_of_not_allows composes.facility declared.facilityField
        (Facility.code_le _) violated
  | appName =>
      cases holds
      exact Composes.headerFault_of_not_isToken .appName composes.appName declared.appNameField
        declared.appNameDefault read violated
  | messageId =>
      cases holds
      exact Composes.headerFault_of_not_isToken .messageId composes.messageId
        declared.messageIdField declared.messageIdDefault read violated
  | elementId =>
      rcases holds with ⟨element, member, rfl⟩
      rcases composes.exists_field_of_mem_structuredData member with ⟨⟨field, isField, id⟩, _⟩
      rw [id] at violated
      rcases Text.long_of_not_isName (declared.parameterFields field isField).1 violated with
        ⟨capped, long⟩
      exact ⟨capped, field, isField, long⟩
  | parameterName =>
      rcases holds with ⟨element, member, parameter, inside, rfl⟩
      rcases (composes.exists_field_of_mem_structuredData member).2 parameter inside with
        ⟨field, isField, name⟩
      rw [name] at violated
      rcases Text.long_of_not_isName (declared.parameterFields field isField).2 violated with
        ⟨capped, long⟩
      exact ⟨capped, field, isField, long⟩
  | body =>
      cases holds
      rcases FieldMap.exists_octets_of_body composes.body with ⟨octets, same⟩
      exact absurd ⟨_, octets, same⟩ violated
  | timestamp | hostname | processId | parameterValue => trivial

namespace Subject

theorem marshal_of_reflected (accepted : record.type.reflect origin.identity = .ok map) :
    (Subject.record record).marshal origin allowLong =
      record.toMessage origin map >>= fun message =>
        (message.marshal allowLong).mapError Fault.invalid := by
  have reflected : (Subject.record record).classifier.reflect origin.identity = .ok map := by
    rw [classifier, Classifier.reflect, mapError_eq_ok_iff]
    exact accepted
  rw [marshal, reflected]
  rfl

theorem marshal_of_composed (accepted : record.type.reflect origin.identity = .ok map)
    (composed : record.toMessage origin map = .ok message) :
    (Subject.record record).marshal origin allowLong =
      (message.marshal allowLong).mapError Fault.invalid := by
  rw [marshal_of_reflected accepted, composed]
  rfl

/-- If encoding fails for a record of an accepted type whose message has been composed, then by a
value of the record, or by what its declaration leaves open. -/
theorem marshal_fails_only_by_values
    (accepted : record.type.reflect origin.identity = .ok map)
    (composed : record.toMessage origin map = .ok message) {fault : Fault}
    (failed : (Subject.record record).marshal origin allowLong = .error fault) :
    ∃ invalid, fault = .invalid invalid ∧
      record.AccountsFor origin.identity map allowLong invalid.property := by
  rw [marshal_of_composed accepted composed, mapError_eq_error_iff] at failed
  rcases failed with ⟨invalid, isInvalid, same⟩
  rcases Message.violation_of_marshal_eq_error isInvalid with ⟨holds, violated⟩
  have composes := Record.composes_of_toMessage composed
  exact ⟨invalid, same.symm, Record.accountsFor_of_violation accepted composes holds violated⟩

/-- A type whose name is no message id, and whose parameters belong to an element with a long id. -/
def untidyType : RecordType where
  name := "Two Words"
  fields := [
    { name := "message_id" },
    { name := "sd_id", tag := some (.text (List.replicate 40 (CodePoint.ofChar 'x'))) },
    { name := "User" }]
  distinct := by decide

/-- Without an id of its own, a record of such a type has the name of the type to blame; with one,
the long id under the cap, and nothing once the cap is lifted. -/
theorem marshal_fails_only_by_values_of_untidyType :
    let origin := Origin.atEpoch ⟨"host", "app", "42"⟩
    let unnamed : Record := ⟨untidyType, [.null, .null, .text "alice"], rfl⟩
    let named : Record := ⟨untidyType, [.text "ID7", .null, .text "alice"], rfl⟩
    ∃ map, untidyType.reflect origin.identity = .ok map ∧
      (∃ invalid, (Subject.record unnamed).marshal origin true = .error (.invalid invalid) ∧
        invalid.property = .messageId ∧ unnamed.AccountsFor origin.identity map true .messageId) ∧
      (∃ invalid, (Subject.record named).marshal origin false = .error (.invalid invalid) ∧
        invalid.property = .elementId ∧ named.AccountsFor origin.identity map false .elementId) ∧
      ∃ octets, (Subject.record named).marshal origin true = .ok octets := by
  intro origin unnamed named
  refine ⟨_, rfl, ⟨_, rfl, rfl, ?_⟩, ⟨_, rfl, rfl, ?_⟩, ⟨_, rfl⟩⟩
  · rcases @marshal_fails_only_by_values origin _ unnamed _ true rfl rfl _ rfl with
      ⟨_, same, accounts⟩
    cases same
    exact accounts
  · rcases @marshal_fails_only_by_values origin _ named _ false rfl rfl _ rfl with
      ⟨_, same, accounts⟩
    cases same
    exact accounts

end Subject

end Syslog
