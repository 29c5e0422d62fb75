import Syslog.Proofs.Record.Independence

namespace Syslog

/-!
# The entry of a parameter

A field map can be asked for the entry of a parameter, and gives the first one in the order of the
declaration.  The message has the parameters in another order, brought together by element, and
without those of empty fields that are left out.

Neither of the two gets in between an entry and its parameter: elements are stable groups, so that
among the fields with one element and one name the first that is written comes first
(`Record.leads_of_first_kept`).  Hence the entry that is found tells which field a parameter of the
message is from, and where none is found no record of the type has such a parameter
(`Record.look_up_agrees_with_message`).
-/

namespace Message

/-- That an element of a message has a parameter. -/
def Has (message : Message) (id name : Text) : Prop :=
  ∃ element ∈ message.structuredData, element.id = .text id ∧
    ∃ parameter ∈ element.parameters, parameter.name = .text name

/-- That a parameter is the first of a name in the element with an id, which is the only one. -/
def Leads (message : Message) (id name : Text) (parameter : Parameter) : Prop :=
  ∃ before front rest behind,
    message.structuredData = before ++ ⟨.text id, front ++ parameter :: rest⟩ :: behind ∧
      (∀ element ∈ before ++ behind, element.id ≠ .text id) ∧
      parameter.name = .text name ∧ ∀ other ∈ front, other.name ≠ .text name

theorem Leads.has {message : Message} {id name : Text} {parameter : Parameter}
    (leads : message.Leads id name parameter) : message.Has id name := by
  rcases leads with ⟨before, front, rest, behind, split, _, named, _⟩
  refine ⟨⟨.text id, front ++ parameter :: rest⟩, ?_, rfl, parameter, ?_, named⟩
  · rw [split]
    exact List.mem_append_right _ List.mem_cons_self
  · exact List.mem_append_right _ List.mem_cons_self

end Message

variable {map : FieldMap} {origin : Origin} {record : Record} {message : Message}
  {id name : Text} {entry : ParameterField}

/-! ## From the entries to the parameters -/

namespace FieldMap

theorem parameterField?_eq_none_iff : map.parameterField? id name = none ↔
    ∀ entry ∈ map.parameterFields, ¬(entry.elementId = id ∧ entry.name = name) := by
  simp only [parameterField?, List.find?_eq_none, Bool.and_eq_true, beq_iff_eq]

theorem of_parameterField? (found : map.parameterField? id name = some entry) :
    entry ∈ map.parameterFields ∧ entry.elementId = id ∧ entry.name = name := by
  have same := List.find?_some found
  rw [Bool.and_eq_true, beq_iff_eq, beq_iff_eq] at same
  exact ⟨List.mem_of_find?_eq_some found, same⟩

/-- Entries that are left out do not hide one that is kept. -/
theorem find?_keptFields (found : map.parameterField? id name = some entry)
    (keeps : record.Keeps entry) :
    (map.keptFields record).find? (fun other => other.elementId == id && other.name == name) =
      some entry := by
  rw [parameterField?, List.find?_eq_some_iff_append] at found
  rcases found with ⟨same, before, behind, split, others⟩
  have kept : decide (¬(entry.omitEmpty = true ∧ (record.get entry.field).isEmpty = true)) = true :=
    decide_eq_true keeps
  rw [keptFields, split, List.filter_append, List.filter_cons, if_pos kept,
    List.find?_eq_some_iff_append]
  exact ⟨same, _, _, rfl, fun other inside => others other (List.mem_of_mem_filter inside)⟩

end FieldMap

namespace Record

/-- Parameters that are written for some fields have the names of the fields, so that the first of a
name is written for the first field of that name. -/
theorem exists_first_of_forall₂ {fields : List ParameterField} {parameters : List Parameter}
    (written : List.Forall₂ record.Writes fields parameters)
    (first : fields.find? (·.name == name) = some entry) :
    ∃ front parameter rest, parameters = front ++ parameter :: rest ∧
      record.Writes entry parameter ∧ ∀ other ∈ front, other.name ≠ .text name := by
  induction written with
  | nil => cases first
  | @cons field parameter fields parameters writes _ inductionHypothesis =>
      rw [List.find?_cons] at first
      split at first
      · cases first
        exact ⟨[], parameter, parameters, rfl, writes, nofun⟩
      · next different =>
          rcases inductionHypothesis first with ⟨front, found, rest, rfl, writesFound, others⟩
          refine ⟨parameter :: front, found, rest, rfl, writesFound, ?_⟩
          refine List.forall_mem_cons.mpr ⟨fun same => ?_, others⟩
          rw [writes.name] at same
          exact beq_eq_false_iff_ne.mp different (Value.text.inj same)

/-- The first parameter of a name in an element is that of the first field with this name and
element that is written. -/
theorem leads_of_first_kept (composed : record.toMessage origin map = .ok message)
    (first : (map.keptFields record).find?
      (fun other => other.elementId == id && other.name == name) = some entry) :
    ∃ parameter, message.Leads id name parameter ∧ record.Writes entry parameter := by
  have listed := List.mem_of_find?_eq_some first
  have same := List.find?_some first
  rw [Bool.and_eq_true, beq_iff_eq, beq_iff_eq] at same
  rcases same with ⟨rfl, rfl⟩
  rcases (composes_of_toMessage composed).structuredData with ⟨entries, found, elements⟩
  have groups := groups_ofList (forall₂_writes_of_parameters found)
  rw [elements] at groups
  have occurs : Value.text entry.elementId ∈ message.structuredData.map Element.id := by
    rw [groups.ids]
    exact List.mem_map_of_mem (List.mem_eraseDups.mpr (List.mem_map_of_mem listed))
  rcases List.mem_map.mp occurs with ⟨⟨_, parameters⟩, member, isId⟩
  cases isId
  have written := groups.parameters _ member entry.elementId rfl
  -- an element keeps the order of its fields, so the first of both is the first of the name in it
  have firstOfElement : ((map.keptFields record).filter (·.elementId = entry.elementId)).find?
      (·.name == entry.name) = some entry := by
    rw [List.find?_filter, ← first]
    simp only [Bool.beq_eq_decide_eq, decide_eq_true_eq, Bool.decide_and]
  rcases exists_first_of_forall₂ written firstOfElement with
    ⟨front, parameter, rest, rfl, writes, others⟩
  rcases List.append_of_mem member with ⟨before, behind, split⟩
  have distinct := groups.distinct
  rw [split, List.map_append, List.map_cons, List.nodup_middle, List.nodup_cons,
    ← List.map_append] at distinct
  refine ⟨parameter, ⟨before, front, rest, behind, split, ?_, writes.name, others⟩, writes⟩
  intro element inside same
  exact distinct.1 (List.mem_map.mpr ⟨element, inside, same⟩)

end Record

/-! ## A record for every entry -/

/-- A field that is written as a parameter fills no role in the head of the message. -/
theorem FieldMap.Placed.ne_of_headRoles {specs : List FieldSpec}
    (placed : FieldMap.Placed specs map) {field : Text} (listed : field ∈ map.entryFields)
    {role : Option Text × RoleKind} (isHead : role ∈ map.headRoles) : role.1 ≠ some field := by
  rcases placed.exists_of_entry listed with ⟨spec, _, rfl, purpose⟩
  have noRole : Role.ofName? spec.name = none := by
    cases FieldSpec.purpose_eq_iff.mp purpose with
    | parameter noRole _ _ => exact noRole
  have unfilled : ∀ role, role ≠ .body → map.locator? role ≠ some spec.name := by
    intro role notBody filled
    rcases placed.exists_of_locator filled with ⟨filler, _, same, purpose⟩
    have named := (FieldSpec.eq_body_or_name purpose).resolve_left notBody
    rw [← same, named, Role.ofName?_name] at noRole
    cases noRole
  simp only [headRoles, List.mem_cons, List.not_mem_nil, or_false] at isHead
  rcases isHead with rfl | rfl | rfl | rfl | rfl | rfl | rfl
  · exact unfilled .timestamp (by decide)
  · exact unfilled .severity (by decide)
  · exact unfilled .facility (by decide)
  · exact unfilled .hostname (by decide)
  · exact unfilled .appName (by decide)
  · exact unfilled .processId (by decide)
  · exact unfilled .messageId (by decide)

namespace RecordType

/-- The record of a type that has a text in one field and nothing in the others. -/
def recordWith (type : RecordType) (field text : Text) : Record where
  type := type
  values := type.fields.map fun declaration =>
    if declaration.name = field then .text text else .null
  length_eq := List.length_map _

/-- That some record of a type has a message with a parameter. -/
def CanWrite (type : RecordType) (origin : Origin) (map : FieldMap) (id name : Text) : Prop :=
  ∃ (record : Record) (message : Message), record.type = type ∧
    record.toMessage origin map = .ok message ∧ message.Has id name

variable {type : RecordType} {field text : Text}

theorem get_recordWith (other : Text) :
    (type.recordWith field text).get other =
      if other ∈ type.fields.map FieldDeclaration.name ∧ other = field then .text text
      else .null := by
  by_cases declared : other ∈ type.fields.map FieldDeclaration.name
  · rcases List.getElem?_of_mem declared with ⟨index, isName⟩
    have own : (type.recordWith field text).values[index]? =
        some ((type.recordWith field text).get other) := Record.get_of_getElem? isName
    rw [List.getElem?_map] at isName
    rcases Option.map_eq_some_iff.mp isName with ⟨declaration, isDeclaration, rfl⟩
    have value : (type.recordWith field text).values[index]? =
        some (if declaration.name = field then .text text else .null) := by
      rw [recordWith, List.getElem?_map, isDeclaration]
      rfl
    rw [Option.some.inj (own.symm.trans value), if_congr (and_iff_right declared) rfl rfl]
  · rw [Record.get_of_undeclared declared, if_neg fun both => declared both.1]

theorem get_recordWith_eq_null_or_text (other : Text) :
    (type.recordWith field text).get other = .null ∨
      (type.recordWith field text).get other = .text text := by
  rw [get_recordWith]
  split
  · exact Or.inr rfl
  · exact Or.inl rfl

theorem exists_parameters_recordWith (type : RecordType) (field text : Text) :
    ∃ parameters, map.parameters (type.recordWith field text) = .ok parameters := by
  cases found : map.parameters (type.recordWith field text) with
  | ok parameters => exact ⟨parameters, rfl⟩
  | error fault =>
      rcases FieldMap.parameters_eq_error found with ⟨entry, _, _, obstructs⟩
      rcases Value.exists_parameterText_eq_error_iff.mpr ⟨fault, obstructs⟩ with ⟨_, refused⟩
      rcases type.get_recordWith_eq_null_or_text entry.field with isNull | isText
      · rw [isNull] at refused
        cases refused
      · rw [isText] at refused
        cases refused

theorem exists_body_recordWith {octets : Bytes} (encoded : text.encode = .ok octets)
    (type : RecordType) (field : Text) :
    ∃ body, map.body (type.recordWith field text) = .ok body := by
  rw [FieldMap.body]
  cases role : (type.recordWith field text).role? map.bodyField with
  | none => exact ⟨_, rfl⟩
  | some found =>
      rcases found with ⟨name, value⟩
      rcases Record.role?_eq_some_iff.mp role with ⟨_, rfl, filled⟩
      rcases type.get_recordWith_eq_null_or_text name with isNull | isText
      · rw [isNull] at filled
        cases filled
      · simp only [isText, encoded]
        exact ⟨_, rfl⟩

/-- Such a record has a message if the field has an entry and the text has octets. -/
theorem exists_toMessage_recordWith {specs : List FieldSpec} (placed : FieldMap.Placed specs map)
    (listed : field ∈ map.entryFields) {octets : Bytes} (encoded : text.encode = .ok octets)
    (type : RecordType) (origin : Origin) :
    ∃ message, (type.recordWith field text).toMessage origin map = .ok message := by
  have fills : ∀ role ∈ map.headRoles, (type.recordWith field text).Fills role.1 role.2 := by
    intro role isHead name isName
    have elsewhere : name ≠ field := by
      rintro rfl
      exact placed.ne_of_headRoles listed isHead isName
    rw [get_recordWith, if_neg fun both => elsewhere both.2]
    exact Or.inl rfl
  rcases Record.toMessage_of_fills origin fills with ⟨message, composed⟩
  rcases exists_parameters_recordWith type field text with ⟨parameters, areParameters⟩
  rcases exists_body_recordWith encoded type field with ⟨body, isBody⟩
  rw [composed, areParameters, isBody]
  exact ⟨_, rfl⟩

/-- The fields of a type have their places in its field map, and no other has one. -/
theorem exists_placed_declared {identity : Identity}
    (reflected : type.reflect identity = .ok map) :
    ∃ specs, FieldMap.Placed specs map ∧
      ∀ field ∈ map.entryFields, field ∈ type.fields.map FieldDeclaration.name := by
  rw [reflect, bind_eq_ok_iff] at reflected
  rcases reflected with ⟨specs, read, classified⟩
  have placed := FieldMap.Placed.ofFields classified
  refine ⟨specs, placed, fun field listed => ?_⟩
  rcases placed.exists_of_entry listed with ⟨spec, member, rfl, _⟩
  rcases (exists_of_mapM_eq_ok read).2 spec member with ⟨declaration, declared, isSpec⟩
  rw [name_of_spec isSpec]
  exact List.mem_map_of_mem declared

/-- An entry that is found is of use: some record has its parameter. -/
theorem canWrite_of_parameterField? (reflected : type.reflect origin.identity = .ok map)
    (found : map.parameterField? id name = some entry) : type.CanWrite origin map id name := by
  have listed : entry.field ∈ map.entryFields :=
    List.mem_map_of_mem (FieldMap.of_parameterField? found).1
  rcases exists_placed_declared reflected with ⟨specs, placed, declared⟩
  have encoded : Text.encode "x" = .ok [0x78] := rfl
  rcases exists_toMessage_recordWith placed listed encoded type origin with ⟨message, composed⟩
  have keeps : (type.recordWith entry.field "x").Keeps entry := by
    rw [Record.Keeps, get_recordWith, if_pos ⟨declared _ listed, rfl⟩]
    rintro ⟨_, empty⟩
    cases empty
  rcases Record.leads_of_first_kept composed (FieldMap.find?_keptFields found keeps) with
    ⟨parameter, leads, _⟩
  exact ⟨_, message, rfl, composed, leads.has⟩

end RecordType

namespace Record

/-- A parameter of a message has an entry. -/
theorem exists_parameterField?_of_has (composed : record.toMessage origin map = .ok message)
    (has : message.Has id name) : ∃ entry, map.parameterField? id name = some entry := by
  rcases has with ⟨element, member, isId, parameter, inside, named⟩
  rcases (composes_of_toMessage composed).structuredData with ⟨parameters, written, elements⟩
  rw [← elements] at member
  rcases List.mem_map.mp member with ⟨⟨own, members⟩, isGroup, rfl⟩
  have gathered := (ParameterGroups.gathers_ofList parameters _ isGroup).2 parameter inside
  rcases exists_field_of_mem_parameters written gathered with ⟨entry, kept, _, same⟩
  cases isId
  cases same
  cases named
  refine Option.ne_none_iff_exists'.mp fun missing => ?_
  exact FieldMap.parameterField?_eq_none_iff.mp missing entry (mem_keptFields_iff.mp kept).1
    ⟨rfl, rfl⟩

/-- That the look-up of a parameter tells about the message of a record: where there is no entry, no
entry of the type is for this parameter, no record of the type has it, and neither does the message;
and the first parameter of the name in the only element with the id, if the field of the entry that
is found is written at all, is written for this field. -/
structure LooksUp (origin : Origin) (map : FieldMap) (record : Record) (message : Message)
    (id name : Text) : Prop where
  unlisted : map.parameterField? id name = none ↔
    ∀ entry ∈ map.parameterFields, ¬(entry.elementId = id ∧ entry.name = name)
  unwritable : map.parameterField? id name = none ↔ ¬record.type.CanWrite origin map id name
  absent : map.parameterField? id name = none → ¬message.Has id name
  first : ∀ entry, map.parameterField? id name = some entry → record.Keeps entry →
    ∃ parameter, message.Leads id name parameter ∧ ∃ text,
      (record.get entry.field).parameterText = .ok text ∧ parameter.value = .text text

/-- What a field map says of a parameter is what becomes of it in the message of any record of the
type, also if several fields have the same element and the same name. -/
theorem look_up_agrees_with_message (reflected : record.type.reflect origin.identity = .ok map)
    (composed : record.toMessage origin map = .ok message) (id name : Text) :
    LooksUp origin map record message id name := by
  refine ⟨FieldMap.parameterField?_eq_none_iff, ⟨fun missing => ?_, fun unwritable => ?_⟩,
    fun missing has => ?_, fun entry found keeps => ?_⟩
  · rintro ⟨_, other, _, composedOther, has⟩
    rcases exists_parameterField?_of_has composedOther has with ⟨entry, found⟩
    cases missing.symm.trans found
  · refine Option.eq_none_iff_forall_ne_some.mpr fun entry found => ?_
    exact unwritable (RecordType.canWrite_of_parameterField? reflected found)
  · rcases exists_parameterField?_of_has composed has with ⟨entry, found⟩
    cases missing.symm.trans found
  · rcases leads_of_first_kept composed (FieldMap.find?_keptFields found keeps) with
      ⟨parameter, leads, writes⟩
    exact ⟨parameter, leads, writes.value⟩

/-- Two elements in turn with the same names, of which one is not written the second time. -/
theorem look_up_agrees_with_message_of_repeated_names :
    let origin := Origin.atEpoch ⟨"host", "app", "42"⟩
    let type : RecordType := ⟨"T", [{ name := "a", tag := some (.text "1@x n,omitempty") },
      { name := "b", tag := some (.text "2@y n") },
      { name := "c", tag := some (.text "1@x m,omitempty") },
      { name := "d", tag := some (.text "1@x n") },
      { name := "e", tag := some (.text "2@y n") }], by decide⟩
    let map : FieldMap := { FieldMap.empty origin.identity "T" with
      parameterFields := [⟨"a", "1@x", "n", true⟩, ⟨"b", "2@y", "n", false⟩,
        ⟨"c", "1@x", "m", true⟩, ⟨"d", "1@x", "n", false⟩, ⟨"e", "2@y", "n", false⟩] }
    let record : Record :=
      ⟨type, [.text "one", .int 2, .text "", .text "four", .text "five"], rfl⟩
    type.reflect origin.identity = .ok map ∧
      ∃ message, record.toMessage origin map = .ok message ∧
        (∃ parameter, message.Leads "1@x" "n" parameter ∧ parameter.value = .text "one") ∧
        (∃ parameter, message.Leads "2@y" "n" parameter ∧ parameter.value = .text "2") ∧
        ¬message.Has "2@y" "m" := by
  intro origin type map record
  have reflected : type.reflect origin.identity = .ok map := rfl
  have composed : record.toMessage origin map = .ok _ := rfl
  have keeps : record.Keeps ⟨"a", "1@x", "n", true⟩ := by
    rintro ⟨_, empty⟩
    cases empty
  have keepsToo : record.Keeps ⟨"b", "2@y", "n", false⟩ := by
    rintro ⟨never, _⟩
    cases never
  refine ⟨reflected, _, composed, ?_, ?_, ?_⟩
  · rcases (look_up_agrees_with_message reflected composed "1@x" "n").first _ rfl keeps with
      ⟨parameter, leads, text, isText, value⟩
    cases isText
    exact ⟨parameter, leads, value⟩
  · rcases (look_up_agrees_with_message reflected composed "2@y" "n").first _ rfl keepsToo with
      ⟨parameter, leads, text, isText, value⟩
    cases isText
    exact ⟨parameter, leads, value⟩
  · exact (look_up_agrees_with_message reflected composed "2@y" "m").absent rfl

end Record

end Syslog
