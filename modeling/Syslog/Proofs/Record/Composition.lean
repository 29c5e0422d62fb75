import Syslog.Proofs.Record.Classification
import Syslog.Record.ToMessage

namespace Syslog

/-!
# The message of a record

A record fills the roles of its type with its own values or with defaults, and its other fields
become the parameters of elements.  Here the composition is taken apart: where the value of a
role is from, and which names the elements and the parameters have.
-/

variable {map : FieldMap} {record : Record} {message : Message}

namespace Record

/-- The parts of the message of a record, each composed on its own. -/
structure Composes (origin : Origin) (map : FieldMap) (record : Record) (message : Message) :
    Prop where
  timestamp : map.timeRole record origin.now = .ok message.timestamp
  severity :
    map.integerRole record map.severityField map.severityDefault.code = .ok message.severity
  facility :
    map.integerRole record map.facilityField map.facilityDefault.code = .ok message.facility
  hostname : map.textRole record map.hostnameField origin.identity.hostname = .ok message.hostname
  appName : map.textRole record map.appNameField map.appNameDefault = .ok message.appName
  processId :
    map.textRole record map.processIdField origin.identity.processId = .ok message.processId
  messageId : map.textRole record map.messageIdField map.messageIdDefault = .ok message.messageId
  structuredData : ∃ parameters, map.parameters record = .ok parameters ∧
    (ParameterGroups.ofList parameters).elements = message.structuredData
  body : map.body record = .ok message.body

theorem composes_of_toMessage {origin : Origin}
    (composed : record.toMessage origin map = .ok message) :
    Composes origin map record message := by
  simp only [toMessage, bind_eq_ok_iff] at composed
  rcases composed with ⟨timestamp, isTimestamp, severity, isSeverity, facility, isFacility,
    hostname, isHostname, appName, isAppName, processId, isProcessId, messageId, isMessageId,
    parameters, areParameters, body, isBody, same⟩
  cases same
  exact ⟨isTimestamp, isSeverity, isFacility, isHostname, isAppName, isProcessId, isMessageId,
    ⟨parameters, areParameters, rfl⟩, isBody⟩

theorem role?_eq_some_iff {field : Option Text} {name : Text} {value : Value} :
    record.role? field = some (name, value) ↔
      field = some name ∧ record.get name = value ∧ value.isEmpty = false := by
  cases field with
  | none => simp [role?]
  | some found =>
      simp only [role?, Option.some.injEq]
      split
      · next empty =>
          simp only [reduceCtorEq, false_iff]
          rintro ⟨rfl, rfl, filled⟩
          exact absurd empty (Bool.eq_false_iff.mp filled)
      · next filled =>
          simp only [Option.some.injEq, Prod.mk.injEq]
          constructor
          · rintro ⟨rfl, rfl⟩
            exact ⟨rfl, rfl, Bool.eq_false_iff.mpr filled⟩
          · rintro ⟨rfl, rfl, _⟩
            exact ⟨rfl, rfl⟩

theorem role?_eq_none_iff {field : Option Text} :
    record.role? field = none ↔ ∀ name, field = some name → (record.get name).isEmpty = true := by
  cases field with
  | none => simp [role?]
  | some found => simp [role?]

end Record

namespace FieldMap

theorem roleValue_eq_ok_iff {field : Option Text} {expected : RoleKind}
    {read? : Value → Option Value} {default value : Value} :
    map.roleValue record field expected read? default = .ok value ↔
      (record.role? field = none ∧ value = default) ∨
        ∃ name own, record.role? field = some (name, own) ∧ read? own = some value := by
  rw [roleValue]
  cases record.role? field with
  | none => simp [eq_comm]
  | some found =>
      rcases found with ⟨name, own⟩
      simp only [reduceCtorEq, false_and, false_or, Option.some.injEq, Prod.mk.injEq]
      cases read : read? own with
      | none => simp_all
      | some result => simp_all

/-- The value of an integer role is the default or an integer of the record's own, not zero. -/
theorem integerRole_eq_ok {field : Option Text} {default : Nat} {value : Value}
    (found : map.integerRole record field default = .ok value) :
    value = .int default ∨
      ∃ name, ∃ code : Int, field = some name ∧ record.get name = .int code ∧ code ≠ 0 ∧
        value = .int code := by
  rw [integerRole, roleValue_eq_ok_iff] at found
  rcases found with ⟨_, rfl⟩ | ⟨name, own, isOwn, read⟩
  · exact Or.inl rfl
  · rcases Record.role?_eq_some_iff.mp isOwn with ⟨declared, rfl, filled⟩
    rcases Option.map_eq_some_iff.mp read with ⟨code, isInteger, rfl⟩
    refine Or.inr ⟨name, code, declared, ?_⟩
    cases own : record.get name with
    | int number =>
        rw [own] at isInteger filled
        cases isInteger
        exact ⟨rfl, Bool.eq_false_iff.mp filled ∘ beq_iff_eq.mpr, rfl⟩
    | _ =>
        rw [own] at isInteger
        cases isInteger

/-- The value of a text role is the default, if the record has none of its own, or a text of the
record's own, not empty. -/
theorem textRole_eq_ok {field : Option Text} {default : Text} {value : Value}
    (found : map.textRole record field default = .ok value) :
    (value = .text default ∧ ∀ name, field = some name → (record.get name).isEmpty = true) ∨
      ∃ name, field = some name ∧ (record.get name).isEmpty = false ∧ record.get name = value := by
  rw [textRole, roleValue_eq_ok_iff] at found
  rcases found with ⟨lacking, rfl⟩ | ⟨name, own, isOwn, read⟩
  · exact Or.inl ⟨rfl, Record.role?_eq_none_iff.mp lacking⟩
  · rcases Record.role?_eq_some_iff.mp isOwn with ⟨declared, rfl, filled⟩
    rcases Option.map_eq_some_iff.mp read with ⟨text, isText, rfl⟩
    refine Or.inr ⟨name, declared, filled, ?_⟩
    cases own : record.get name with
    | text content =>
        rw [own] at isText
        cases isText
        rfl
    | _ =>
        rw [own] at isText
        cases isText

theorem exists_octets_of_body {value : Value} (found : map.body record = .ok value) :
    ∃ octets, value = .octets .fixed octets := by
  rw [body] at found
  split at found
  · cases found
    exact ⟨_, rfl⟩
  · rcases map_eq_ok_iff.mp found with ⟨octets, _, rfl⟩
    exact ⟨octets, rfl⟩
  · cases found
    exact ⟨_, rfl⟩
  · cases found

/-- The fields that a record writes as parameters, in the order of their declaration: all but those
that are left out because they are empty. -/
def keptFields (map : FieldMap) (record : Record) : List ParameterField :=
  map.parameterFields.filter fun field =>
    ¬(field.omitEmpty = true ∧ (record.get field.field).isEmpty = true)

end FieldMap

/-! ## The fields that are written as parameters -/

namespace Record

variable {field : ParameterField} {parameters : List (Text × Parameter)}

/-- A field that is written as a parameter is not left out for being empty. -/
def Keeps (record : Record) (field : ParameterField) : Prop :=
  ¬(field.omitEmpty = true ∧ (record.get field.field).isEmpty = true)

/-- The entry of a field among the parameters, or the fault that its value runs into. -/
def entryOf (record : Record) (entry : ParameterField) : Except Fault (Text × Parameter) :=
  (record.get entry.field).parameterText.map fun text =>
    (entry.elementId, ⟨.text entry.name, .text text⟩)

theorem mem_keptFields_iff :
    field ∈ map.keptFields record ↔ field ∈ map.parameterFields ∧ record.Keeps field := by
  rw [FieldMap.keptFields, List.mem_filter, decide_eq_true_eq, Keeps]

/-- The parameters of a record are written in turn, one for each kept field. -/
theorem parameters_eq_mapM :
    map.parameters record = (map.keptFields record).mapM record.entryOf := by
  have write : record.entryOf = fun entry => do
      let text ← (record.get entry.field).parameterText
      return (entry.elementId, ⟨.text entry.name, .text text⟩) := by
    funext entry
    rw [entryOf]
    cases (record.get entry.field).parameterText <;> rfl
  have kept : map.keptFields record = map.parameterFields.filter fun field =>
      !(field.omitEmpty && (record.get field.field).isEmpty) :=
    List.filter_congr fun field _ => by simp
  rw [FieldMap.parameters, kept, write]

/-- The value of a kept field has a text. -/
theorem exists_text_of_parameters (written : map.parameters record = .ok parameters)
    (listed : field ∈ map.parameterFields) (keeps : record.Keeps field) :
    ∃ text, (record.get field.field).parameterText = .ok text := by
  rw [parameters_eq_mapM] at written
  rcases (exists_of_mapM_eq_ok written).1 field (mem_keptFields_iff.mpr ⟨listed, keeps⟩) with
    ⟨_, _, passed⟩
  rcases map_eq_ok_iff.mp passed with ⟨text, isText, _⟩
  exact ⟨text, isText⟩

/-- Each parameter is from a kept field, with its element and its name and with a text. -/
theorem exists_field_of_mem_parameters (written : map.parameters record = .ok parameters)
    {entry : Text × Parameter} (member : entry ∈ parameters) :
    ∃ field ∈ map.keptFields record, ∃ text,
      entry = (field.elementId, ⟨.text field.name, .text text⟩) := by
  rw [parameters_eq_mapM] at written
  rcases (exists_of_mapM_eq_ok written).2 entry member with ⟨field, kept, passed⟩
  rcases map_eq_ok_iff.mp passed with ⟨text, _, same⟩
  exact ⟨field, kept, text, same.symm⟩

end Record

/-! ## Parameters under their elements -/

namespace ParameterGroups

/-- That groups hold nothing but the given parameters, each under its element, and no group is
empty. -/
def Gathers (groups : ParameterGroups) (entries : List (Text × Parameter)) : Prop :=
  ∀ group ∈ groups, group.2 ≠ [] ∧ ∀ parameter ∈ group.2, (group.1, parameter) ∈ entries

variable {groups : ParameterGroups} {entries : List (Text × Parameter)}

theorem Gathers.add (gathers : Gathers groups entries) {id : Text} {parameter : Parameter}
    (member : (id, parameter) ∈ entries) : Gathers (groups.add id parameter) entries := by
  induction groups with
  | nil =>
      refine List.forall_mem_singleton.mpr ⟨List.cons_ne_nil _ _, ?_⟩
      exact List.forall_mem_singleton.mpr member
  | cons group rest inductionHypothesis =>
      rcases List.forall_mem_cons.mp gathers with ⟨first, others⟩
      rw [ParameterGroups.add]
      split
      · next same =>
          subst same
          refine List.forall_mem_cons.mpr ⟨⟨?_, ?_⟩, others⟩
          · exact List.append_ne_nil_of_right_ne_nil _ (List.cons_ne_nil _ _)
          · exact List.forall_mem_append.mpr ⟨first.2, List.forall_mem_singleton.mpr member⟩
      · exact List.forall_mem_cons.mpr ⟨first, inductionHypothesis others⟩

theorem gathers_ofList (entries : List (Text × Parameter)) : Gathers (ofList entries) entries := by
  have gathered : ∀ (more : List (Text × Parameter)) (groups : ParameterGroups),
      more ⊆ entries → Gathers groups entries →
        Gathers (more.foldl (fun groups entry => groups.add entry.1 entry.2) groups) entries := by
    intro more
    induction more with
    | nil => exact fun _ _ gathers => gathers
    | cons entry rest inductionHypothesis =>
        intro groups inside gathers
        rcases List.cons_subset.mp inside with ⟨member, others⟩
        exact inductionHypothesis _ others (gathers.add member)
  exact gathered entries [] (List.Subset.refl _) (List.forall_mem_nil _)

end ParameterGroups

/-- The names in the structured data are those of the fields that are written as parameters. -/
theorem Record.Composes.exists_field_of_mem_structuredData {origin : Origin}
    (composes : Composes origin map record message) {element : Element}
    (member : element ∈ message.structuredData) :
    (∃ field ∈ map.parameterFields, element.id = .text field.elementId) ∧
      ∀ parameter ∈ element.parameters,
        ∃ field ∈ map.parameterFields, parameter.name = .text field.name := by
  rcases composes.structuredData with ⟨parameters, found, elements⟩
  rw [← elements] at member
  rcases List.mem_map.mp member with ⟨⟨id, members⟩, isGroup, rfl⟩
  rcases ParameterGroups.gathers_ofList parameters (id, members) isGroup with ⟨filled, inside⟩
  constructor
  · rcases List.exists_mem_of_ne_nil members filled with ⟨parameter, isMember⟩
    rcases Record.exists_field_of_mem_parameters found (inside parameter isMember) with
      ⟨field, kept, _, same⟩
    exact ⟨field, (Record.mem_keptFields_iff.mp kept).1,
      congrArg Value.text (congrArg Prod.fst same)⟩
  · intro parameter isMember
    rcases Record.exists_field_of_mem_parameters found (inside parameter isMember) with
      ⟨field, kept, _, same⟩
    cases same
    exact ⟨field, (Record.mem_keptFields_iff.mp kept).1, rfl⟩

end Syslog
