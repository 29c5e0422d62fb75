import Syslog.Proofs.Record.Failure
import Syslog.Proofs.Record.Grouping
import Syslog.Proofs.Record.Placement

namespace Syslog

/-!
# What depends on a field

Two records of one type that differ in one field only are composed step by step in the same way,
except where that field is read.  A role reads the field that fills it, a parameter the field of its
entry, and nothing reads a field without a place.  As no field has two places, the difference stays
where the field is put (`Record.fields_are_independent`).

For a parameter this is said with a hole: the structured data around its value is found once, from
one of the records, and any other record that keeps the field fills in nothing but its own text
(`Record.toMessage_around_parameter`).
-/

namespace Record

/-- A record has a value of its own for each field of its type. -/
theorem get_of_getElem? {record : Record} {index : Nat} {field : Text}
    (isField : (record.type.fields.map FieldDeclaration.name)[index]? = some field) :
    record.values[index]? = some (record.get field) := by
  have sameLength : record.values.length =
      (record.type.fields.map FieldDeclaration.name).length :=
    record.length_eq.trans (List.length_map _).symm
  have inside : index < record.values.length :=
    sameLength.symm ▸ (List.getElem?_eq_some_iff.mp isField).1
  rw [get, lookup_zip_of_getElem? record.type.distinct sameLength isField,
    List.getElem?_eq_getElem inside]
  rfl

theorem get_of_undeclared {record : Record} {field : Text}
    (undeclared : field ∉ record.type.fields.map FieldDeclaration.name) :
    record.get field = .null := by
  have missing : ((record.type.fields.map FieldDeclaration.name).zip
      record.values).lookup field = none := by
    refine List.lookup_eq_none_iff.mpr fun entry member => bne_iff_ne.mpr ?_
    rintro rfl
    exact undeclared (List.of_mem_zip member).1
  rw [get, missing]
  rfl

/-- That two records of one type have the same values in all fields but one. -/
structure DiffersIn (field : Text) (left right : Record) : Prop where
  type : right.type = left.type
  others : ∀ name, name ≠ field → right.get name = left.get name

theorem DiffersIn.refl (field : Text) (record : Record) : DiffersIn field record record :=
  ⟨rfl, fun _ _ => rfl⟩

/-- The record with another value in the field at the given place. -/
def withValue (record : Record) (index : Nat) (value : Value) : Record where
  type := record.type
  values := record.values.set index value
  length_eq := List.length_set.trans record.length_eq

/-- A record differs in a field from what it is with another value there. -/
theorem differsIn_withValue {record : Record} {index : Nat} {field : Text}
    (isField : (record.type.fields.map FieldDeclaration.name)[index]? = some field)
    (value : Value) : DiffersIn field record (record.withValue index value) := by
  refine ⟨rfl, fun name different => ?_⟩
  by_cases declared : name ∈ record.type.fields.map FieldDeclaration.name
  · rcases List.getElem?_of_mem declared with ⟨place, isName⟩
    have elsewhere : index ≠ place := by
      rintro rfl
      exact different (Option.some.inj (isName.symm.trans isField))
    have own := get_of_getElem? isName
    have put : (record.withValue index value).values[place]? =
        some ((record.withValue index value).get name) := get_of_getElem? isName
    rw [withValue, List.getElem?_set_ne elsewhere, own] at put
    exact (Option.some.inj put).symm
  · have undeclared : name ∉ (record.withValue index value).type.fields.map
        FieldDeclaration.name := declared
    rw [get_of_undeclared undeclared, get_of_undeclared declared]

end Record

/-- That a type has a field that is neither public nor tagged. -/
def RecordType.Skips (type : RecordType) (field : Text) : Prop :=
  ∃ declaration ∈ type.fields, declaration.name = field ∧ Role.ofName? field = none ∧
    field.head? = some (CodePoint.ofChar '_') ∧
    (declaration.tag = none ∨ declaration.tag = some (.text []))

namespace Message

/-- The part of a message that a role fills. -/
def part (message : Message) : Role → Value
  | .severity => message.severity
  | .facility => message.facility
  | .timestamp => message.timestamp
  | .hostname => message.hostname
  | .appName => message.appName
  | .processId => message.processId
  | .messageId => message.messageId
  | .body => message.body
  | .elementId => .null

/-- That two messages are the same but for the part of one role. -/
structure AgreesBut (role : Role) (left right : Message) : Prop where
  parts : ∀ other, other ≠ role → right.part other = left.part other
  structuredData : right.structuredData = left.structuredData

/-- Some elements with a hole for the value of one parameter. -/
structure Hole where
  before : List Element
  front : List Parameter
  rest : List Parameter
  behind : List Element

/-- The elements with a text in the hole, as the value of the parameter of an entry. -/
def Hole.fill (hole : Hole) (entry : ParameterField) (text : Text) : List Element :=
  hole.before ++
    ⟨.text entry.elementId, hole.front ++ ⟨.text entry.name, .text text⟩ :: hole.rest⟩ ::
      hole.behind

/-- That two messages are the same but for the value of one parameter, which has the name of an
entry and stands at the same place of the same element in both. -/
structure AgreesButValue (entry : ParameterField) (own other : Text) (left right : Message) :
    Prop where
  parts : ∀ role, right.part role = left.part role
  structuredData : ∃ hole : Hole,
    left.structuredData = hole.fill entry own ∧ right.structuredData = hole.fill entry other

theorem eq_of_parts {left right : Message} (parts : ∀ role, right.part role = left.part role)
    (structuredData : right.structuredData = left.structuredData) : right = left := by
  have severity := parts .severity
  have facility := parts .facility
  have timestamp := parts .timestamp
  have hostname := parts .hostname
  have appName := parts .appName
  have processId := parts .processId
  have messageId := parts .messageId
  have body := parts .body
  cases left
  cases right
  simp only [part] at *
  simp only [*]

end Message

/-! ## A part for each role -/

namespace FieldMap

/-- The value that a record has for a role. -/
def partOf (map : FieldMap) (origin : Origin) (record : Record) : Role → Except Fault Value
  | .severity => map.integerRole record map.severityField map.severityDefault.code
  | .facility => map.integerRole record map.facilityField map.facilityDefault.code
  | .timestamp => map.timeRole record origin.now
  | .hostname => map.textRole record map.hostnameField origin.identity.hostname
  | .appName => map.textRole record map.appNameField map.appNameDefault
  | .processId => map.textRole record map.processIdField origin.identity.processId
  | .messageId => map.textRole record map.messageIdField map.messageIdDefault
  | .body => map.body record
  | .elementId => .ok .null

variable {map : FieldMap} {origin : Origin} {record left right : Record} {message : Message}
  {field : Text}

theorem role?_eq (differs : Record.DiffersIn field left right) {located : Option Text}
    (elsewhere : located ≠ some field) : right.role? located = left.role? located := by
  cases located with
  | none => rfl
  | some name =>
      have same := differs.others name fun equal => elsewhere (congrArg some equal)
      rw [Record.role?, Record.role?, same]

theorem roleValue_eq {located : Option Text} (same : right.role? located = left.role? located)
    (expected : RoleKind) (read? : Value → Option Value) (default : Value) :
    map.roleValue right located expected read? default =
      map.roleValue left located expected read? default := by
  rw [roleValue, roleValue, same]

/-- A role that another field fills has the same value. -/
theorem partOf_eq (differs : Record.DiffersIn field left right) {role : Role}
    (elsewhere : map.locator? role ≠ some field) :
    map.partOf origin right role = map.partOf origin left role := by
  have same := role?_eq differs elsewhere
  cases role with
  | elementId => rfl
  | body =>
      rw [locator?] at same
      rw [partOf, partOf, body, body, same]
  | _ => exact roleValue_eq same _ _ _

/-- A message is composed of a part for each role and the elements of the parameters. -/
theorem toMessage_eq_ok_iff : record.toMessage origin map = .ok message ↔
    (∀ role, map.partOf origin record role = .ok (message.part role)) ∧
      ∃ parameters, map.parameters record = .ok parameters ∧
        (ParameterGroups.ofList parameters).elements = message.structuredData := by
  constructor
  · intro composed
    have composes := Record.composes_of_toMessage composed
    refine ⟨fun role => ?_, composes.structuredData⟩
    cases role with
    | severity => exact composes.severity
    | facility => exact composes.facility
    | timestamp => exact composes.timestamp
    | hostname => exact composes.hostname
    | appName => exact composes.appName
    | processId => exact composes.processId
    | messageId => exact composes.messageId
    | body => exact composes.body
    | elementId => rfl
  · rintro ⟨parts, parameters, found, elements⟩
    have timestamp := parts .timestamp
    have severity := parts .severity
    have facility := parts .facility
    have hostname := parts .hostname
    have appName := parts .appName
    have processId := parts .processId
    have messageId := parts .messageId
    have body := parts .body
    simp only [partOf] at timestamp severity facility hostname appName processId messageId body
    rw [Record.toMessage, timestamp, severity, facility, hostname, appName, processId, messageId,
      found, body]
    simp only [ok_bind, elements]
    rfl

end FieldMap

/-! ## The parameters -/

namespace ParameterGroups

theorem membersOf_append_cons (front behind : List (Text × Parameter)) (entry : Text × Parameter)
    (id : Text) :
    membersOf (front ++ entry :: behind) id =
      membersOf front id ++ (if entry.1 = id then [entry.2] else []) ++ membersOf behind id := by
  rw [membersOf, List.filter_append, List.filter_cons, List.map_append]
  split
  · next same => simp [membersOf, of_decide_eq_true same]
  · next different => simp [membersOf, of_decide_eq_false (Bool.eq_false_iff.mpr different)]

/-- The value of a parameter shows at one place of the elements, and nowhere else. -/
theorem exists_hole (front behind : List (Text × Parameter)) (entry : ParameterField) :
    ∃ hole : Message.Hole, ∀ text, (ofList
      (front ++ (entry.elementId, ⟨.text entry.name, .text text⟩) :: behind)).elements =
        hole.fill entry text := by
  let ids := (front.map Prod.fst ++ entry.elementId :: behind.map Prod.fst).eraseDups
  have distinct : ids.Nodup := nodup_eraseDups _
  have listed : entry.elementId ∈ ids :=
    List.mem_eraseDups.mpr (List.mem_append_right _ List.mem_cons_self)
  rcases List.append_of_mem listed with ⟨before, after, split⟩
  rw [split, List.nodup_middle, List.nodup_cons] at distinct
  let element : Text → Element := fun id => ⟨.text id, membersOf front id ++ membersOf behind id⟩
  refine ⟨⟨before.map element, membersOf front entry.elementId, membersOf behind entry.elementId,
    after.map element⟩, fun text => ?_⟩
  have other : ∀ id ∈ before ++ after, entry.elementId ≠ id := by
    rintro id inside rfl
    exact distinct.1 inside
  have isIds : ((front ++ (entry.elementId, (⟨.text entry.name, .text text⟩ : Parameter)) ::
      behind).map Prod.fst).eraseDups = before ++ entry.elementId :: after := by
    rw [List.map_append, List.map_cons]
    exact split
  rw [elements, ofList_eq, isIds, List.map_map, List.map_append, List.map_cons, Message.Hole.fill]
  refine congr (congrArg _ ?_) (congr (congrArg _ ?_) ?_)
  · refine List.map_congr_left fun id inside => ?_
    rw [Function.comp_apply, membersOf_append_cons,
      if_neg (other id (List.mem_append_left _ inside)), List.append_nil]
  · rw [Function.comp_apply, membersOf_append_cons, if_pos rfl, List.append_assoc]
    rfl
  · refine List.map_congr_left fun id inside => ?_
    rw [Function.comp_apply, membersOf_append_cons,
      if_neg (other id (List.mem_append_right _ inside)), List.append_nil]

end ParameterGroups

namespace Record

variable {map : FieldMap} {origin : Origin} {record left right : Record} {message : Message}
  {field : Text} {entry : ParameterField}

namespace DiffersIn

theorem keeps_iff (differs : DiffersIn field left right) (elsewhere : entry.field ≠ field) :
    right.Keeps entry ↔ left.Keeps entry := by
  rw [Keeps, Keeps, differs.others _ elsewhere]

theorem entryOf_eq (differs : DiffersIn field left right) (elsewhere : entry.field ≠ field) :
    right.entryOf entry = left.entryOf entry := by
  rw [entryOf, entryOf, differs.others _ elsewhere]

end DiffersIn

theorem keptFields_eq
    (same : ∀ entry ∈ map.parameterFields, (right.Keeps entry ↔ left.Keeps entry)) :
    map.keptFields right = map.keptFields left :=
  List.filter_congr fun entry listed => decide_eq_decide.mpr (same entry listed)

/-- A field without an entry does not matter for the parameters. -/
theorem parameters_eq (differs : DiffersIn field left right)
    (elsewhere : field ∉ map.entryFields) : map.parameters right = map.parameters left := by
  have other : ∀ entry ∈ map.parameterFields, entry.field ≠ field := by
    rintro entry listed rfl
    exact elsewhere (List.mem_map_of_mem listed)
  rw [parameters_eq_mapM, parameters_eq_mapM,
    keptFields_eq fun entry listed => differs.keeps_iff (other entry listed)]
  exact mapM_congr fun entry kept => differs.entryOf_eq (other entry (mem_keptFields_iff.mp kept).1)

/-- An entry has its field for itself. -/
theorem entry_unique (distinct : map.entryFields.Nodup) (listed : entry ∈ map.parameterFields)
    {other : ParameterField} (listedToo : other ∈ map.parameterFields)
    (same : other.field = entry.field) : other = entry :=
  List.inj_on_of_nodup_map distinct listedToo listed same

/-- The entries that are kept besides one have other fields. -/
theorem exists_keptFields_around (distinct : map.entryFields.Nodup)
    (listed : entry ∈ map.parameterFields) (keeps : record.Keeps entry) :
    ∃ front behind, map.keptFields record = front ++ entry :: behind ∧
      ∀ other ∈ front ++ behind, other.field ≠ entry.field := by
  rcases List.append_of_mem (mem_keptFields_iff.mpr ⟨listed, keeps⟩) with ⟨front, behind, split⟩
  refine ⟨front, behind, split, fun other inside same => ?_⟩
  have once : (front ++ entry :: behind).Nodup := by
    rw [← split]
    exact (List.Nodup.of_map _ distinct).filter _
  have isKept : other ∈ map.keptFields record := by
    rw [split]
    exact (List.perm_middle.symm.mem_iff).mp (List.mem_cons_of_mem _ inside)
  rw [entry_unique distinct listed (mem_keptFields_iff.mp isKept).1 same] at inside
  exact (List.nodup_cons.mp (List.nodup_middle.mp once)).1 inside

/-- Records that differ in a field that both keep have the same kept fields. -/
theorem keptFields_eq_of_keeps (distinct : map.entryFields.Nodup)
    (listed : entry ∈ map.parameterFields) (differs : DiffersIn entry.field left right)
    (keeps : left.Keeps entry) (keepsToo : right.Keeps entry) :
    map.keptFields right = map.keptFields left := by
  refine keptFields_eq fun other listedToo => ?_
  by_cases same : other.field = entry.field
  · rw [entry_unique distinct listed listedToo same]
    exact iff_of_true keepsToo keeps
  · exact differs.keeps_iff same

/-- Records that differ in a parameter have the same message around its value. -/
theorem toMessage_around_parameter (composed : left.toMessage origin map = .ok message)
    (noRole : ∀ role, map.locator? role ≠ some entry.field) (distinct : map.entryFields.Nodup)
    (listed : entry ∈ map.parameterFields) (keeps : left.Keeps entry) :
    ∃ hole : Message.Hole, ∀ right text, DiffersIn entry.field left right → right.Keeps entry →
      (right.get entry.field).parameterText = .ok text →
        right.toMessage origin map =
          .ok { message with structuredData := hole.fill entry text } := by
  rcases FieldMap.toMessage_eq_ok_iff.mp composed with ⟨parts, parameters, found, _⟩
  rcases exists_keptFields_around distinct listed keeps with ⟨front, behind, split, elsewhere⟩
  rw [parameters_eq_mapM, split, mapM_append_cons_eq_ok_iff] at found
  rcases found with ⟨first, _, last, isFirst, _, isLast, _⟩
  rcases ParameterGroups.exists_hole first last entry with ⟨hole, fills⟩
  refine ⟨hole, fun right text differs keepsToo isText => ?_⟩
  have isEntry : right.entryOf entry =
      .ok (entry.elementId, ⟨.text entry.name, .text text⟩) := by
    rw [entryOf, isText]
    rfl
  refine FieldMap.toMessage_eq_ok_iff.mpr ⟨fun role => ?_, _, ?_, fills text⟩
  · rw [FieldMap.partOf_eq differs (noRole role), parts role]
    cases role <;> rfl
  · rw [parameters_eq_mapM, keptFields_eq_of_keeps distinct listed differs keeps keepsToo, split,
      mapM_append_cons_eq_ok_iff]
    refine ⟨first, _, last, ?_, isEntry, ?_, rfl⟩
    · rw [← isFirst]
      exact mapM_congr fun other inside =>
        differs.entryOf_eq (elsewhere other (List.mem_append_left _ inside))
    · rw [← isLast]
      exact mapM_congr fun other inside =>
        differs.entryOf_eq (elsewhere other (List.mem_append_right _ inside))

end Record

/-! ## The place of the field -/

namespace FieldMap.Placed

variable {map : FieldMap} {specs : List FieldSpec} {field : Text}

/-- A field fills one role only, and then has no entry. -/
theorem locator_unique (placed : Placed specs map) (distinct : (specs.map FieldSpec.name).Nodup)
    {role : Role} (filled : map.locator? role = some field) :
    (∀ other, other ≠ role → map.locator? other ≠ some field) ∧ field ∉ map.entryFields := by
  rcases placed.exists_of_locator filled with ⟨spec, member, rfl, _⟩
  constructor
  · intro other different filledToo
    cases placed.place_unique distinct member (.role filled) (.role filledToo)
    exact different rfl
  · intro listed
    rcases List.getElem?_of_mem listed with ⟨index, found⟩
    cases placed.place_unique distinct member (.role filled) (.entry found)

/-- A field that has its place elsewhere fills no role and has no entry. -/
theorem unread_of_places (placed : Placed specs map) (distinct : (specs.map FieldSpec.name).Nodup)
    {spec : FieldSpec} (member : spec ∈ specs) {place : Place}
    (places : Places map specs spec place) (noRole : ∀ role, place ≠ .role role)
    (noEntry : ∀ index, place ≠ .entry index) :
    (∀ role, map.locator? role ≠ some spec.name) ∧ spec.name ∉ map.entryFields := by
  constructor
  · intro role filled
    exact noRole role (placed.place_unique distinct member places (.role filled))
  · intro listed
    rcases List.getElem?_of_mem listed with ⟨index, found⟩
    exact noEntry index (placed.place_unique distinct member places (.entry found))

/-- The field that gives the element is read for nothing else. -/
theorem unread_elementId (placed : Placed specs map) :
    (∀ role, map.locator? role ≠ some (Text.ofString "sd_id")) ∧
      Text.ofString "sd_id" ∉ map.entryFields := by
  have isElementId : ∀ spec : FieldSpec, spec.name = Text.ofString "sd_id" →
      spec.purpose = .elementId := by
    intro spec named
    refine FieldSpec.purpose_eq_iff.mpr (.elementId ?_)
    rw [named]
    rfl
  constructor
  · intro role filled
    rcases placed.exists_of_locator filled with ⟨spec, _, named, purpose⟩
    cases purpose.symm.trans (isElementId spec named)
  · intro listed
    rcases placed.exists_of_entry listed with ⟨spec, _, named, purpose⟩
    cases purpose.symm.trans (isElementId spec named)

end FieldMap.Placed

namespace RecordType

variable {type : RecordType} {identity : Identity} {map : FieldMap} {field : Text}

theorem name_of_spec {typeName : Text} {declaration : FieldDeclaration} {spec : FieldSpec}
    (read : declaration.spec typeName = .ok spec) : spec.name = declaration.name := by
  rw [FieldDeclaration.spec] at read
  split at read <;> cases read <;> rfl

/-- The fields of a type have their places in its field map. -/
theorem exists_placed_of_reflect (reflected : type.reflect identity = .ok map) :
    ∃ specs, FieldMap.Placed specs map ∧ (specs.map FieldSpec.name).Nodup ∧
      ∀ declaration ∈ type.fields, ∃ spec ∈ specs, declaration.spec type.name = .ok spec := by
  rw [reflect, bind_eq_ok_iff] at reflected
  rcases reflected with ⟨specs, read, classified⟩
  have reads := forall₂_of_mapM_eq_ok read
  refine ⟨specs, .ofFields classified, ?_, (exists_of_mapM_eq_ok read).1⟩
  have sameNames : specs.map FieldSpec.name = type.fields.map FieldDeclaration.name := by
    rw [← List.forall₂_eq_eq_eq, List.forall₂_map_left_iff, List.forall₂_map_right_iff]
    exact (reads.imp fun _ _ => name_of_spec).flip
  rw [sameNames]
  exact type.distinct

/-- A field that is neither public nor tagged is read for nothing. -/
theorem unread_of_skips (reflected : type.reflect identity = .ok map) (skips : type.Skips field) :
    (∀ role, map.locator? role ≠ some field) ∧ field ∉ map.entryFields := by
  rcases exists_placed_of_reflect reflected with ⟨specs, placed, distinctSpecs, read⟩
  rcases skips with ⟨declaration, declared, rfl, noRole, underscore, untagged⟩
  rcases read declaration declared with ⟨spec, member, isSpec⟩
  have hidden : spec = ⟨declaration.name, [], false⟩ := by
    rw [FieldDeclaration.spec, underscore] at isSpec
    rcases untagged with untagged | untagged <;>
      · rw [untagged] at isSpec
        cases isSpec
        rfl
  subst hidden
  refine placed.unread_of_places distinctSpecs member (.hidden noRole rfl rfl) ?_ ?_ <;>
    rintro _ ⟨⟩

end RecordType

namespace Record

variable {map : FieldMap} {origin : Origin} {left right : Record}
  {leftMessage rightMessage : Message} {field : Text}

theorem parts_eq (differs : DiffersIn field left right)
    (composedLeft : left.toMessage origin map = .ok leftMessage)
    (composedRight : right.toMessage origin map = .ok rightMessage) {role : Role}
    (elsewhere : map.locator? role ≠ some field) :
    rightMessage.part role = leftMessage.part role := by
  have isLeft := (FieldMap.toMessage_eq_ok_iff.mp composedLeft).1 role
  have isRight := (FieldMap.toMessage_eq_ok_iff.mp composedRight).1 role
  rw [FieldMap.partOf_eq differs elsewhere] at isRight
  exact Except.ok.inj (isRight.symm.trans isLeft)

theorem structuredData_eq (differs : DiffersIn field left right)
    (composedLeft : left.toMessage origin map = .ok leftMessage)
    (composedRight : right.toMessage origin map = .ok rightMessage)
    (elsewhere : field ∉ map.entryFields) :
    rightMessage.structuredData = leftMessage.structuredData := by
  rcases (FieldMap.toMessage_eq_ok_iff.mp composedLeft).2 with ⟨own, found, isLeft⟩
  rcases (FieldMap.toMessage_eq_ok_iff.mp composedRight).2 with ⟨other, foundToo, isRight⟩
  rw [parameters_eq differs elsewhere] at foundToo
  cases foundToo.symm.trans found
  rw [← isLeft, ← isRight]

/-- The value of a kept entry has a text. -/
theorem exists_text_of_keeps {record : Record} {message : Message} {entry : ParameterField}
    (composed : record.toMessage origin map = .ok message) (listed : entry ∈ map.parameterFields)
    (keeps : record.Keeps entry) :
    ∃ text, (record.get entry.field).parameterText = .ok text := by
  rcases (FieldMap.toMessage_eq_ok_iff.mp composed).2 with ⟨_, written, _⟩
  exact exists_text_of_parameters written listed keeps

/-- Two records of a type that differ in one field have the same message but for the place of that
field: the part of the role that it fills, or the value of its parameter if both keep it, which
stands at the same place of the same element.  If the field has no such place, because it gives the
element, is neither public nor tagged, or has lost its role to another, the messages are equal. -/
theorem fields_are_independent (reflected : left.type.reflect origin.identity = .ok map)
    (differs : DiffersIn field left right)
    (composedLeft : left.toMessage origin map = .ok leftMessage)
    (composedRight : right.toMessage origin map = .ok rightMessage) :
    (∀ role, map.locator? role = some field → leftMessage.AgreesBut role rightMessage) ∧
      (∀ entry ∈ map.parameterFields, entry.field = field → left.Keeps entry → right.Keeps entry →
        ∃ own other, (left.get field).parameterText = .ok own ∧
          (right.get field).parameterText = .ok other ∧
          leftMessage.AgreesButValue entry own other rightMessage) ∧
      (field = Text.ofString "sd_id" ∨ left.type.Skips field ∨
          (∀ role, map.locator? role ≠ some field) ∧ field ∉ map.entryFields →
        rightMessage = leftMessage) := by
  rcases RecordType.exists_placed_of_reflect reflected with ⟨specs, placed, distinctSpecs, _⟩
  refine ⟨?_, ?_, ?_⟩
  · intro role filled
    rcases placed.locator_unique distinctSpecs filled with ⟨others, noEntry⟩
    exact ⟨fun other different => parts_eq differs composedLeft composedRight
        (others other different),
      structuredData_eq differs composedLeft composedRight noEntry⟩
  · rintro entry listed rfl keepsLeft keepsRight
    rcases exists_text_of_keeps composedLeft listed keepsLeft with ⟨own, isOwn⟩
    rcases exists_text_of_keeps composedRight listed keepsRight with ⟨other, isOther⟩
    have noRole : ∀ role, map.locator? role ≠ some entry.field := fun role filled =>
      (placed.locator_unique distinctSpecs filled).2 (List.mem_map_of_mem listed)
    rcases toMessage_around_parameter composedLeft noRole (placed.nodup_entries distinctSpecs)
      listed keepsLeft with ⟨hole, around⟩
    have isLeft := around left own (.refl _ _) keepsLeft isOwn
    have isRight := around right other differs keepsRight isOther
    rw [composedLeft, Except.ok.injEq] at isLeft
    rw [composedRight, Except.ok.injEq] at isRight
    refine ⟨own, other, isOwn, isOther, fun role => ?_, hole, ?_, ?_⟩
    · exact parts_eq differs composedLeft composedRight (noRole role)
    · exact congrArg Message.structuredData isLeft
    · exact congrArg Message.structuredData isRight
  · intro unplaced
    have unread : (∀ role, map.locator? role ≠ some field) ∧ field ∉ map.entryFields := by
      rcases unplaced with rfl | skips | unread
      · exact placed.unread_elementId
      · exact RecordType.unread_of_skips reflected skips
      · exact unread
    exact Message.eq_of_parts
      (fun role => parts_eq differs composedLeft composedRight (unread.1 role))
      (structuredData_eq differs composedLeft composedRight unread.2)

/-- Three fields of one record in turn: a parameter in the middle of an element, the body, and one
that is neither public nor tagged. -/
theorem fields_are_independent_of_one_record :
    let origin := Origin.atEpoch ⟨"host", "app", "42"⟩
    let type : RecordType := ⟨"T", [
      { name := "text", tag := some (.text ",message") },
      { name := "sd_id", tag := some (.text "1@x") },
      { name := "a", tag := some (.text "2@y") },
      { name := "b" },
      { name := "user", tag := some (.text "2@y name,omitempty") },
      { name := "c", tag := some (.text "2@y") },
      { name := "_key" }], by decide⟩
    let record : Record := ⟨type,
      [.text "hello", .null, .int 1, .int 2, .text "alice", .int 3, .text "secret"], rfl⟩
    let map : FieldMap := { FieldMap.empty origin.identity "T" with
      bodyField := some "text"
      parameterFields := [⟨"a", "2@y", "a", false⟩, ⟨"b", "1@x", "b", false⟩,
        ⟨"user", "2@y", "name", true⟩, ⟨"c", "2@y", "c", false⟩]
      elementIdDefault := "1@x" }
    type.reflect origin.identity = .ok map ∧
      ∃ message, record.toMessage origin map = .ok message ∧
        (∃ other, (record.withValue 4 (.text "bob")).toMessage origin map = .ok other ∧
          message.AgreesButValue ⟨"user", "2@y", "name", true⟩ "alice" "bob" other) ∧
        (∃ other, (record.withValue 0 (.text "bye")).toMessage origin map = .ok other ∧
          message.AgreesBut .body other) ∧
        (record.withValue 6 .null).toMessage origin map = .ok message := by
  intro origin type record map
  have reflected : type.reflect origin.identity = .ok map := rfl
  have composed : record.toMessage origin map = .ok _ := rfl
  have inUser : DiffersIn "user" record (record.withValue 4 (.text "bob")) :=
    differsIn_withValue rfl _
  have inText : DiffersIn "text" record (record.withValue 0 (.text "bye")) :=
    differsIn_withValue rfl _
  have inKey : DiffersIn "_key" record (record.withValue 6 .null) := differsIn_withValue rfl _
  have hidden : type.Skips "_key" := ⟨{ name := "_key" }, by simp [type], rfl, rfl, rfl, .inl rfl⟩
  refine ⟨reflected, _, composed, ⟨_, rfl, ?_⟩, ⟨_, rfl, ?_⟩, ?_⟩
  · rcases (fields_are_independent reflected inUser composed rfl).2.1
        ⟨"user", "2@y", "name", true⟩ (by decide) rfl nofun nofun with
      ⟨own, other, isOwn, isOther, agrees⟩
    cases isOwn
    cases isOther
    exact agrees
  · exact (fields_are_independent reflected inText composed rfl).1 .body rfl
  · have same := (fields_are_independent reflected inKey composed rfl).2.2
      (.inr (.inl hidden))
    exact congrArg Except.ok same

end Record

end Syslog
