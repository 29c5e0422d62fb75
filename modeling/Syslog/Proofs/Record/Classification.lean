import Mathlib.Data.List.Induction
import Syslog.Proofs.Message.Constraint
import Syslog.Record.Reflection

namespace Syslog

/-!
# What a declaration leaves in the field map

Fields are classified one after another, and each of them does one of a dozen things to the field
map.  These are listed once, with what has been checked in each case (`FieldMap.Classified`), and
nothing else about the classification is used later on.

What holds of every field map follows by one induction over the fields (`FieldMap.Declared`): a role
is filled by the field that has its name, a default is either one that the format allows or the
one from outside, which no tag has replaced, and all names of elements and parameters are names,
however long.
-/

namespace Role

def name : Role → Text
  | .severity => "severity"
  | .facility => "facility"
  | .timestamp => "timestamp"
  | .hostname => "hostname"
  | .appName => "app_name"
  | .processId => "process_id"
  | .messageId => "message_id"
  | .body => "message"
  | .elementId => "sd_id"

theorem ofName?_name (role : Role) : ofName? role.name = some role := by
  cases role <;> rfl

theorem eq_name_of_ofName? {text : Text} {role : Role} (found : ofName? text = some role) :
    text = role.name := by
  have named : ∀ entry ∈ names, entry.1 = entry.2.name := by decide
  rcases List.lookup_eq_some_iff.mp found with ⟨before, after, split, _⟩
  refine named (text, role) ?_
  rw [split]
  exact List.mem_append_right before List.mem_cons_self

end Role

namespace Tag

/-- What becomes of a default by the tag of a field: an empty tag leaves it as it is, and any other
has to be a way to write the new one. -/
def Sets (written : Text → α → Prop) (tag : Text) (before after : α) : Prop :=
  (tag = [] ∧ after = before) ∨ (tag ≠ [] ∧ written tag after)

/-- A tag that is itself the default of a field of the header. -/
def IsToken (limit : Nat) (tag default : Text) : Prop :=
  default = tag ∧ (Value.text tag).IsToken limit

/-- A tag that is itself the id of an element, of any length. -/
def IsElementId (tag id : Text) : Prop := id = tag ∧ tag.isName true = true

theorem headerDefault_eq_ok_iff {limit : Nat} {tag default : Text} :
    headerDefault limit tag = .ok default ↔ IsToken limit tag default := by
  rw [headerDefault, IsToken]
  split
  · next valid =>
      rw [Bool.and_eq_true, decide_eq_true_eq] at valid
      have isToken : (Value.text tag).IsToken limit :=
        ⟨tag, rfl, valid.2, Text.isPrintUsAscii_iff.mp valid.1⟩
      simp only [Except.ok.injEq, isToken, and_true]
      exact eq_comm
  · next invalid =>
      constructor
      · intro impossible
        cases impossible
      · rintro ⟨_, text, same, short, printable⟩
        cases same
        refine absurd ?_ invalid
        rw [Text.isPrintUsAscii_iff.mpr printable, decide_eq_true short]
        rfl

theorem name_eq_ok_iff {fault : Text → TagFault} {text checked : Text} :
    Tag.name fault text = .ok checked ↔ checked = text ∧ text.isName true = true := by
  rw [Tag.name]
  split
  · next valid =>
      simp only [Except.ok.injEq, valid, and_true]
      exact eq_comm
  · next invalid => simp [invalid]

end Tag

namespace FieldMap

/-- What a field does to the field map that it is added to. -/
inductive Classified (map : FieldMap) (spec : FieldSpec) : FieldMap → Prop
  | severity {severityDefault : Severity} (role : Role.ofName? spec.name = some .severity)
      (tag : Tag.Sets (fun tag severity => Severity.ofKeyword? tag = some severity) spec.tag
        map.severityDefault severityDefault) :
      Classified map spec { map with severityField := some spec.name, severityDefault }
  | facility {facilityDefault : Facility} (role : Role.ofName? spec.name = some .facility)
      (tag : Tag.Sets (fun tag facility => Facility.ofKeyword? tag = some facility) spec.tag
        map.facilityDefault facilityDefault) :
      Classified map spec { map with facilityField := some spec.name, facilityDefault }
  | timestamp (role : Role.ofName? spec.name = some .timestamp) :
      Classified map spec { map with timestampField := some spec.name }
  | hostname (role : Role.ofName? spec.name = some .hostname) :
      Classified map spec { map with hostnameField := some spec.name }
  | appName {appNameDefault : Text} (role : Role.ofName? spec.name = some .appName)
      (tag : Tag.Sets (Tag.IsToken 48) spec.tag map.appNameDefault appNameDefault) :
      Classified map spec { map with appNameField := some spec.name, appNameDefault }
  | processId (role : Role.ofName? spec.name = some .processId) :
      Classified map spec { map with processIdField := some spec.name }
  | messageId {messageIdDefault : Text} (role : Role.ofName? spec.name = some .messageId)
      (tag : Tag.Sets (Tag.IsToken 32) spec.tag map.messageIdDefault messageIdDefault) :
      Classified map spec { map with messageIdField := some spec.name, messageIdDefault }
  | body (role : Role.ofName? spec.name = some .body) :
      Classified map spec { map with bodyField := some spec.name }
  | elementId {elementIdDefault : Text} (role : Role.ofName? spec.name = some .elementId)
      (tag : Tag.Sets Tag.IsElementId spec.tag map.elementIdDefault elementIdDefault) :
      Classified map spec { map with elementIdDefault }
  /-- Neither public nor tagged. -/
  | hidden (noRole : Role.ofName? spec.name = none) (untagged : spec.tag = [])
      (notPublic : spec.isPublic = false) : Classified map spec map
  | taggedBody (noRole : Role.ofName? spec.name = none)
      (tag : Text.parts ',' spec.tag = ([], [Tag.bodyWord])) :
      Classified map spec { map with bodyField := some spec.name }
  | parameter {field : ParameterField} (noRole : Role.ofName? spec.name = none)
      (source : field.field = spec.name)
      (target : Tag.target map.currentElementId spec.name (Text.parts ',' spec.tag).1 =
        (field.elementId, field.name))
      (isElementId : field.elementId.isName true = true) (isName : field.name.isName true = true)
      (attributes : Tag.omitEmpty? (Text.parts ',' spec.tag).2 = .ok field.omitEmpty) :
      Classified map spec { map with parameterFields := map.parameterFields ++ [field] }

variable {map next : FieldMap} {spec : FieldSpec}

theorem untagged_or_read {tag : Text} {read : Except TagFault FieldMap}
    (added : (if tag.isEmpty then .ok map else read) = .ok next) :
    (tag = [] ∧ next = map) ∨ (tag ≠ [] ∧ read = .ok next) := by
  cases tag with
  | nil =>
      cases added
      exact Or.inl ⟨rfl, rfl⟩
  | cons _ _ => exact Or.inr ⟨List.cons_ne_nil _ _, added⟩

theorem classified_of_addRole {role : Role} (found : Role.ofName? spec.name = some role)
    (added : map.addRole spec role = .ok next) : Classified map spec next := by
  cases role with
  | timestamp =>
      cases added
      exact .timestamp found
  | hostname =>
      cases added
      exact .hostname found
  | processId =>
      cases added
      exact .processId found
  | body =>
      cases added
      exact .body found
  | severity =>
      rcases untagged_or_read added with ⟨untagged, rfl⟩ | ⟨tagged, read⟩
      · exact .severity found (.inl ⟨untagged, rfl⟩)
      · split at read
        · next severity keyword =>
            cases read
            exact .severity found (.inr ⟨tagged, keyword⟩)
        · cases read
  | facility =>
      rcases untagged_or_read added with ⟨untagged, rfl⟩ | ⟨tagged, read⟩
      · exact .facility found (.inl ⟨untagged, rfl⟩)
      · split at read
        · next facility keyword =>
            cases read
            exact .facility found (.inr ⟨tagged, keyword⟩)
        · cases read
  | appName =>
      rcases untagged_or_read added with ⟨untagged, rfl⟩ | ⟨tagged, read⟩
      · exact .appName found (.inl ⟨untagged, rfl⟩)
      · rcases bind_eq_ok_iff.mp read with ⟨default, isDefault, same⟩
        cases same
        exact .appName found (.inr ⟨tagged, Tag.headerDefault_eq_ok_iff.mp isDefault⟩)
  | messageId =>
      rcases untagged_or_read added with ⟨untagged, rfl⟩ | ⟨tagged, read⟩
      · exact .messageId found (.inl ⟨untagged, rfl⟩)
      · rcases bind_eq_ok_iff.mp read with ⟨default, isDefault, same⟩
        cases same
        exact .messageId found (.inr ⟨tagged, Tag.headerDefault_eq_ok_iff.mp isDefault⟩)
  | elementId =>
      rcases untagged_or_read added with ⟨untagged, rfl⟩ | ⟨tagged, read⟩
      · exact .elementId found (.inl ⟨untagged, rfl⟩)
      · rcases bind_eq_ok_iff.mp read with ⟨default, isDefault, same⟩
        cases same
        exact .elementId found (.inr ⟨tagged, Tag.name_eq_ok_iff.mp isDefault⟩)

theorem classified_of_addParameter (noRole : Role.ofName? spec.name = none)
    (added : map.addParameter spec = .ok next) : Classified map spec next := by
  rw [addParameter] at added
  rcases split : Text.parts ',' spec.tag with ⟨namePart, attributes⟩
  simp only [split] at added
  split at added
  · next isBody =>
      rw [Bool.and_eq_true, List.isEmpty_iff, beq_iff_eq] at isBody
      rcases isBody with ⟨rfl, first⟩
      split at added
      · next alone =>
          cases added
          rcases attributes with _ | ⟨word, more⟩
          · cases first
          · cases first
            cases alone
            exact .taggedBody noRole split
      · cases added
  · simp only [bind_eq_ok_iff, Tag.name_eq_ok_iff] at added
    rcases added with ⟨_, ⟨rfl, isElementId⟩, _, ⟨rfl, isName⟩, omitEmpty, known, same⟩
    cases same
    exact .parameter noRole rfl (by rw [split]) isElementId isName (by rw [split]; exact known)

/-- A field that is added does one of the things listed. -/
theorem classified_of_add (added : map.add spec = .ok next) : Classified map spec next := by
  rw [add] at added
  split at added
  · next role found => exact classified_of_addRole found added
  · next noRole =>
      split at added
      · next skipped =>
          rw [Bool.and_eq_true, Bool.not_eq_true', List.isEmpty_iff] at skipped
          cases added
          exact .hidden noRole skipped.1 skipped.2
      · exact classified_of_addParameter noRole added

/-! ## What holds of every field map -/

/-- What holds of a type without fields and is kept by one more field holds of all field maps. -/
theorem ofFields_induction {identity : Identity} {typeName : Text}
    {Holds : List FieldSpec → FieldMap → Prop} (ofEmpty : Holds [] (empty identity typeName))
    (ofAdd : ∀ {specs spec map next}, Holds specs map → map.add spec = .ok next →
      Holds (specs ++ [spec]) next)
    {specs : List FieldSpec} (classified : ofFields identity typeName specs = .ok map) :
    Holds specs map := by
  -- the fields before are part of what holds, so the induction is on the last field
  induction specs using List.reverseRecOn generalizing map with
  | nil =>
      cases classified
      exact ofEmpty
  | append_singleton specs spec inductionHypothesis =>
      rw [ofFields, List.foldlM_append, bind_eq_ok_iff] at classified
      rcases classified with ⟨before, classifiedBefore, added⟩
      rw [List.foldlM_cons, bind_eq_ok_iff] at added
      rcases added with ⟨after, isAdded, same⟩
      cases same
      rw [addField, mapError_eq_ok_iff] at isAdded
      exact ofAdd (inductionHypothesis classifiedBefore) isAdded

/-- A default of the header is a token, or it is the one from outside and no field with its role
has a tag. -/
def HasDefault (limit : Nat) (role : Role) (outside : Text) (specs : List FieldSpec)
    (default : Text) : Prop :=
  (Value.text default).IsToken limit ∨
    default = outside ∧ ∀ spec ∈ specs, Role.ofName? spec.name = some role → spec.tag = []

/-- What the fields of a type leave in its field map. -/
structure Declared (identity : Identity) (typeName : Text) (specs : List FieldSpec)
    (map : FieldMap) : Prop where
  severityField : ∀ field, map.severityField = some field → field = "severity"
  facilityField : ∀ field, map.facilityField = some field → field = "facility"
  appNameField : ∀ field, map.appNameField = some field → field = "app_name"
  appNameDefault : HasDefault 48 .appName identity.appName specs map.appNameDefault
  messageIdField : ∀ field, map.messageIdField = some field → field = "message_id"
  messageIdDefault : HasDefault 32 .messageId typeName specs map.messageIdDefault
  elementIdDefault : map.elementIdDefault = [] ∨ map.elementIdDefault.isName true = true
  parameterFields : ∀ field ∈ map.parameterFields,
    field.elementId.isName true = true ∧ field.name.isName true = true

namespace HasDefault

variable {limit : Nat} {role : Role} {outside default : Text} {specs : List FieldSpec}

theorem keep (has : HasDefault limit role outside specs default)
    (other : Role.ofName? spec.name ≠ some role) :
    HasDefault limit role outside (specs ++ [spec]) default := by
  refine has.imp_right fun ⟨same, untagged⟩ => ⟨same, ?_⟩
  refine List.forall_mem_append.mpr ⟨untagged, List.forall_mem_singleton.mpr ?_⟩
  intro found
  exact absurd found other

theorem set {after : Text} (has : HasDefault limit role outside specs default)
    (tag : Tag.Sets (Tag.IsToken limit) spec.tag default after) :
    HasDefault limit role outside (specs ++ [spec]) after := by
  rcases tag with ⟨untagged, rfl⟩ | ⟨_, rfl, isToken⟩
  · refine has.imp_right fun ⟨same, others⟩ => ⟨same, ?_⟩
    exact List.forall_mem_append.mpr ⟨others, List.forall_mem_singleton.mpr fun _ => untagged⟩
  · exact Or.inl isToken

end HasDefault

namespace Declared

variable {identity : Identity} {typeName : Text} {specs : List FieldSpec}

theorem ofEmpty : Declared identity typeName [] (FieldMap.empty identity typeName) where
  severityField _ impossible := nomatch impossible
  facilityField _ impossible := nomatch impossible
  appNameField _ impossible := nomatch impossible
  appNameDefault := Or.inr ⟨rfl, List.forall_mem_nil _⟩
  messageIdField _ impossible := nomatch impossible
  messageIdDefault := Or.inr ⟨rfl, List.forall_mem_nil _⟩
  elementIdDefault := Or.inl rfl
  parameterFields := List.forall_mem_nil _

/-- A field that gives no default leaves what holds of the field map. -/
theorem keep (declared : Declared identity typeName specs map)
    (noAppName : Role.ofName? spec.name ≠ some .appName)
    (noMessageId : Role.ofName? spec.name ≠ some .messageId) :
    Declared identity typeName (specs ++ [spec]) map :=
  { declared with
    appNameDefault := declared.appNameDefault.keep noAppName
    messageIdDefault := declared.messageIdDefault.keep noMessageId }

/-- One more field leaves what holds of the field map. -/
theorem add (declared : Declared identity typeName specs map)
    (classified : Classified map spec next) :
    Declared identity typeName (specs ++ [spec]) next := by
  -- only two roles have defaults that depend on the tags before
  have keep : ∀ {role : Option Role}, Role.ofName? spec.name = role → role ≠ some .appName →
      role ≠ some .messageId → Declared identity typeName (specs ++ [spec]) map := by
    rintro _ rfl noAppName noMessageId
    exact declared.keep noAppName noMessageId
  have named : ∀ {role : Role} {field : Text}, Role.ofName? spec.name = some role →
      some spec.name = some field → field = role.name := by
    intro role field found same
    cases same
    exact Role.eq_name_of_ofName? found
  cases classified with
  | severity role =>
      exact { keep role (by decide) (by decide) with severityField := fun _ => named role }
  | facility role =>
      exact { keep role (by decide) (by decide) with facilityField := fun _ => named role }
  | timestamp role | hostname role | processId role | body role =>
      exact { keep role (by decide) (by decide) with }
  | appName role tag =>
      exact { declared with
        appNameField := fun _ => named role
        appNameDefault := declared.appNameDefault.set tag
        messageIdDefault := declared.messageIdDefault.keep (by rw [role]; decide) }
  | messageId role tag =>
      exact { declared with
        appNameDefault := declared.appNameDefault.keep (by rw [role]; decide)
        messageIdField := fun _ => named role
        messageIdDefault := declared.messageIdDefault.set tag }
  | elementId role tag =>
      have elementIdDefault := tag.elim
        (fun ⟨_, same⟩ => same ▸ declared.elementIdDefault)
        (fun ⟨_, same, isName⟩ => Or.inr (same ▸ isName))
      exact { keep role (by decide) (by decide) with elementIdDefault }
  | hidden noRole => exact keep noRole (by decide) (by decide)
  | taggedBody noRole => exact { keep noRole (by decide) (by decide) with }
  | parameter noRole _ _ isElementId isName =>
      have parameterFields := List.forall_mem_append.mpr
        ⟨declared.parameterFields, List.forall_mem_singleton.mpr ⟨isElementId, isName⟩⟩
      exact { keep noRole (by decide) (by decide) with parameterFields }

theorem ofFields (classified : FieldMap.ofFields identity typeName specs = .ok map) :
    Declared identity typeName specs map :=
  ofFields_induction ofEmpty (fun declared added => declared.add (classified_of_add added))
    classified

end Declared

end FieldMap

end Syslog
