import Syslog.Proofs.Record.Violation

namespace Syslog

/-!
# Fields one after another

All that a field finds of the fields before it is the id of the element in force, which is the tag
of the last of them that gives one.  So a list of fields can be classified in two parts: the second
part goes on where the first has ended, and adds to it or fails without regard to anything else
(`FieldMap.classification_is_compositional`).

What the whole list leaves is stated without the map that is handed on from field to field.  A slot
and a default are settled by the last field that has a say in them (`FieldMap.Settled`), an entry by
its own field and its place in the list (`FieldSpec.Enters`), and a fault by the first field that
breaks a rule (`FieldSpec.FirstViolation`).
-/

namespace FieldSpec

/-- The tag of a field with the name of a role, if it says anything. -/
def tagFor? (role : Role) (spec : FieldSpec) : Option Text :=
  if Role.ofName? spec.name = some role ∧ spec.tag ≠ [] then some spec.tag else none

/-- The last tag that some fields have for a role. -/
def lastTag? (role : Role) (specs : List FieldSpec) : Option Text :=
  (specs.filterMap (tagFor? role)).getLast?

/-- The id of the element in force behind some fields. -/
def elementIdBehind (specs : List FieldSpec) : Text :=
  (lastTag? .elementId specs).getD defaultElementId

/-- The entry of a field that is written as a parameter. -/
structure HasEntry (inForce : Text) (spec : FieldSpec) (entry : ParameterField) : Prop where
  field : entry.field = spec.name
  target : Tag.Targets inForce spec.name spec.namePart entry.elementId entry.name
  omitEmpty : entry.omitEmpty = true ↔ spec.attributes ≠ []

/-- The entries of fields that are declared behind others, in their order. -/
inductive Enters : (before specs : List FieldSpec) → List ParameterField → Prop
  | nil {before : List FieldSpec} : Enters before [] []
  | keep {before rest : List FieldSpec} {spec : FieldSpec} {entry : ParameterField}
      {entries : List ParameterField} (purpose : spec.purpose = .parameter)
      (has : spec.HasEntry (elementIdBehind before) entry)
      (more : Enters (before ++ [spec]) rest entries) :
      Enters before (spec :: rest) (entry :: entries)
  | skip {before rest : List FieldSpec} {spec : FieldSpec} {entries : List ParameterField}
      (purpose : spec.purpose ≠ .parameter) (more : Enters (before ++ [spec]) rest entries) :
      Enters before (spec :: rest) entries

/-- The fault of the first field, of those declared behind others, that breaks a rule. -/
inductive FirstViolation (typeName : Text) :
    (before specs : List FieldSpec) → DeclarationFault → Prop
  | here {before rest : List FieldSpec} {spec : FieldSpec} {cause : TagFault}
      (violates : spec.Violates (elementIdBehind before) cause) :
      FirstViolation typeName before (spec :: rest) ⟨typeName, spec.name, cause⟩
  | later {before rest : List FieldSpec} {spec : FieldSpec} {fault : DeclarationFault}
      (keeps : ∀ cause, ¬spec.Violates (elementIdBehind before) cause)
      (more : FirstViolation typeName (before ++ [spec]) rest fault) :
      FirstViolation typeName before (spec :: rest) fault

/-- That some field, of those declared behind others, breaks a rule where it stands. -/
def SomeViolation (before specs : List FieldSpec) : Prop :=
  ∃ passed spec rest cause, specs = passed ++ spec :: rest ∧
    spec.Violates (elementIdBehind (before ++ passed)) cause

variable {specs before : List FieldSpec} {spec : FieldSpec} {role : Role}

theorem lastTag?_append_singleton :
    lastTag? role (specs ++ [spec]) = (spec.tagFor? role).or (lastTag? role specs) := by
  rw [lastTag?, List.filterMap_append, List.getLast?_append]
  cases found : spec.tagFor? role with
  | none => simp [found, lastTag?]
  | some tag => simp [found]

theorem someViolation_cons_iff {rest : List FieldSpec} :
    SomeViolation before (spec :: rest) ↔
      (∃ cause, spec.Violates (elementIdBehind before) cause) ∨
        SomeViolation (before ++ [spec]) rest := by
  constructor
  · rintro ⟨passed, other, behind, cause, split, violates⟩
    cases passed with
    | nil =>
        cases split
        rw [List.append_nil] at violates
        exact Or.inl ⟨cause, violates⟩
    | cons first passed =>
        cases split
        rw [List.append_cons] at violates
        exact Or.inr ⟨passed, other, behind, cause, rfl, violates⟩
  · rintro (⟨cause, violates⟩ | ⟨passed, other, behind, cause, rfl, violates⟩)
    · refine ⟨[], spec, rest, cause, rfl, ?_⟩
      rwa [List.append_nil]
    · refine ⟨spec :: passed, other, behind, cause, rfl, ?_⟩
      rwa [List.append_cons]

/-- If some field breaks a rule, there is a first one. -/
theorem exists_firstViolation_iff (typeName : Text) :
    (∃ fault, FirstViolation typeName before specs fault) ↔ SomeViolation before specs := by
  induction specs generalizing before with
  | nil =>
      refine iff_of_false nofun ?_
      rintro ⟨passed, _, _, _, split, _⟩
      cases passed <;> cases split
  | cons spec rest inductionHypothesis =>
      rw [someViolation_cons_iff, ← inductionHypothesis]
      constructor
      · rintro ⟨fault, first⟩
        cases first with
        | here violates => exact Or.inl ⟨_, violates⟩
        | later _ more => exact Or.inr ⟨fault, more⟩
      · intro either
        by_cases violated : ∃ cause, spec.Violates (elementIdBehind before) cause
        · rcases violated with ⟨cause, violates⟩
          exact ⟨_, .here violates⟩
        · rcases either.resolve_left violated with ⟨fault, more⟩
          exact ⟨fault, .later (fun cause violates => violated ⟨cause, violates⟩) more⟩

end FieldSpec

namespace FieldMap

open FieldSpec

variable {identity : Identity} {typeName : Text} {map next : FieldMap} {specs : List FieldSpec}
  {spec : FieldSpec}

/-! ## What fields settle -/

/-- That a default is the one that the last tag for its role stands for, or else the one from
outside. -/
def IsLastDefault (role : Role) (written : Text → α → Prop) (outside : α) (specs : List FieldSpec)
    (default : α) : Prop :=
  match lastTag? role specs with
  | none => default = outside
  | some tag => written tag default

namespace IsLastDefault

variable {role : Role} {written : Text → α → Prop} {outside default after : α}

theorem keep (isLast : IsLastDefault role written outside specs default)
    (other : Role.ofName? spec.name ≠ some role) :
    IsLastDefault role written outside (specs ++ [spec]) default := by
  have untagged : spec.tagFor? role = none := if_neg fun given => other given.1
  rw [IsLastDefault, lastTag?_append_singleton, untagged]
  exact isLast

theorem set (isLast : IsLastDefault role written outside specs default)
    (isRole : Role.ofName? spec.name = some role) (sets : Tag.Sets written spec.tag default after) :
    IsLastDefault role written outside (specs ++ [spec]) after := by
  rw [IsLastDefault, lastTag?_append_singleton]
  rcases sets with ⟨untagged, rfl⟩ | ⟨tagged, isWritten⟩
  · rw [tagFor?, if_neg fun given => given.2 untagged]
    exact isLast
  · rw [tagFor?, if_pos ⟨isRole, tagged⟩]
    exact isWritten

end IsLastDefault

/-- Each default is that of the last field that gives it. -/
structure Defaults (identity : Identity) (typeName : Text) (specs : List FieldSpec)
    (map : FieldMap) : Prop where
  severity : IsLastDefault .severity
    (fun tag severity => Severity.ofKeyword? tag = some severity) .info specs map.severityDefault
  facility : IsLastDefault .facility
    (fun tag facility => Facility.ofKeyword? tag = some facility) .local0 specs map.facilityDefault
  appName : IsLastDefault .appName (Tag.IsToken 48) identity.appName specs map.appNameDefault
  messageId : IsLastDefault .messageId (Tag.IsToken 32) typeName specs map.messageIdDefault
  elementId : IsLastDefault .elementId Tag.IsElementId [] specs map.elementIdDefault

/-- What the fields of a type settle: its defaults, and its slots, each of which is that of the last
field for it. -/
structure Settled (identity : Identity) (typeName : Text) (specs : List FieldSpec)
    (map : FieldMap) : Prop extends Defaults identity typeName specs map where
  recordType : map.recordType = typeName
  locator : ∀ role, map.locator? role =
    (specs.filter (·.purpose = .role role)).getLast?.map FieldSpec.name

namespace Defaults

theorem ofEmpty : Defaults identity typeName [] (empty identity typeName) :=
  ⟨rfl, rfl, rfl, rfl, rfl⟩

/-- A field whose role has no default leaves all of them as they are. -/
theorem keep (defaults : Defaults identity typeName specs map)
    (noDefault : ∀ role ∈ [Role.severity, .facility, .appName, .messageId, .elementId],
      Role.ofName? spec.name ≠ some role) :
    Defaults identity typeName (specs ++ [spec]) map where
  severity := defaults.severity.keep (noDefault _ (by decide))
  facility := defaults.facility.keep (noDefault _ (by decide))
  appName := defaults.appName.keep (noDefault _ (by decide))
  messageId := defaults.messageId.keep (noDefault _ (by decide))
  elementId := defaults.elementId.keep (noDefault _ (by decide))

theorem add (defaults : Defaults identity typeName specs map)
    (classified : Classified map spec next) :
    Defaults identity typeName (specs ++ [spec]) next := by
  have other : ∀ {found : Option Role}, Role.ofName? spec.name = found → ∀ role, found ≠ some role →
      Role.ofName? spec.name ≠ some role := by
    rintro _ rfl role different
    exact different
  have keep : ∀ {found : Option Role}, Role.ofName? spec.name = found →
      (∀ role ∈ [Role.severity, .facility, .appName, .messageId, .elementId],
        found ≠ some role) → Defaults identity typeName (specs ++ [spec]) map := by
    rintro _ rfl noDefault
    exact defaults.keep noDefault
  cases classified with
  | timestamp role | hostname role | processId role | body role =>
      exact { keep role (by decide) with }
  | hidden noRole => exact keep noRole (by decide)
  | taggedBody noRole | parameter noRole => exact { keep noRole (by decide) with }
  | severity role tag =>
      exact {
        severity := defaults.severity.set role tag
        facility := defaults.facility.keep (other role _ (by decide))
        appName := defaults.appName.keep (other role _ (by decide))
        messageId := defaults.messageId.keep (other role _ (by decide))
        elementId := defaults.elementId.keep (other role _ (by decide)) }
  | facility role tag =>
      exact {
        severity := defaults.severity.keep (other role _ (by decide))
        facility := defaults.facility.set role tag
        appName := defaults.appName.keep (other role _ (by decide))
        messageId := defaults.messageId.keep (other role _ (by decide))
        elementId := defaults.elementId.keep (other role _ (by decide)) }
  | appName role tag =>
      exact {
        severity := defaults.severity.keep (other role _ (by decide))
        facility := defaults.facility.keep (other role _ (by decide))
        appName := defaults.appName.set role tag
        messageId := defaults.messageId.keep (other role _ (by decide))
        elementId := defaults.elementId.keep (other role _ (by decide)) }
  | messageId role tag =>
      exact {
        severity := defaults.severity.keep (other role _ (by decide))
        facility := defaults.facility.keep (other role _ (by decide))
        appName := defaults.appName.keep (other role _ (by decide))
        messageId := defaults.messageId.set role tag
        elementId := defaults.elementId.keep (other role _ (by decide)) }
  | elementId role tag =>
      exact {
        severity := defaults.severity.keep (other role _ (by decide))
        facility := defaults.facility.keep (other role _ (by decide))
        appName := defaults.appName.keep (other role _ (by decide))
        messageId := defaults.messageId.keep (other role _ (by decide))
        elementId := defaults.elementId.set role tag }

/-- The element that a field map remembers is the one in force behind its fields. -/
theorem currentElementId_eq (defaults : Defaults identity typeName specs map) :
    map.currentElementId = elementIdBehind specs := by
  have isLast := defaults.elementId
  rw [IsLastDefault] at isLast
  rw [currentElementId, elementIdBehind]
  cases found : lastTag? .elementId specs with
  | none =>
      rw [found] at isLast
      rw [isLast]
      rfl
  | some tag =>
      rw [found] at isLast
      rcases isLast with ⟨same, _⟩
      have filled : tag.isEmpty = false := by
        rcases List.mem_filterMap.mp (List.mem_of_getLast? found) with ⟨spec, _, isTag⟩
        rw [tagFor?, Option.ite_none_right_eq_some] at isTag
        rcases isTag with ⟨⟨_, tagged⟩, isTag⟩
        cases isTag
        exact List.isEmpty_eq_false_iff.mpr tagged
      rw [same, filled]
      rfl

end Defaults

theorem recordType_of_add (added : map.add spec = .ok next) :
    next.recordType = map.recordType := by
  cases classified_of_add added <;> rfl

theorem settled_of_ofFields (classified : ofFields identity typeName specs = .ok map) :
    Settled identity typeName specs map := by
  have defaults : Defaults identity typeName specs map :=
    ofFields_induction Defaults.ofEmpty
      (fun defaults added => defaults.add (classified_of_add added)) classified
  have recordType : map.recordType = typeName :=
    @ofFields_induction _ _ _ (fun _ map => map.recordType = typeName) rfl
      (fun same added => (recordType_of_add added).trans same) _ classified
  exact { defaults with recordType, locator := (Placed.ofFields classified).locator }

/-! ## What one field adds -/

namespace Adds

theorem purpose_ne_parameter (adds : Adds map spec next)
    (same : next.parameterFields = map.parameterFields) : spec.purpose ≠ .parameter := by
  intro parameter
  have entries := adds.entries
  rw [if_pos parameter, entryFields, entryFields, same] at entries
  exact List.cons_ne_nil _ _ (List.append_right_eq_self.mp entries.symm)

theorem purpose_eq_parameter (adds : Adds map spec next) {entry : ParameterField}
    (one : next.parameterFields = map.parameterFields ++ [entry]) : spec.purpose = .parameter := by
  by_contra different
  have entries := adds.entries
  rw [if_neg different, List.append_nil, entryFields, entryFields, one, List.map_append] at entries
  exact List.cons_ne_nil _ _ (List.append_right_eq_self.mp entries)

end Adds

/-- A field that is written as a parameter adds its entry behind all others, and any other field
leaves the entries as they are. -/
theorem entries_of_add (added : map.add spec = .ok next) :
    (spec.purpose = .parameter ∧ ∃ entry, spec.HasEntry map.currentElementId entry ∧
      next.parameterFields = map.parameterFields ++ [entry]) ∨
    (spec.purpose ≠ .parameter ∧ next.parameterFields = map.parameterFields) := by
  have adds := adds_of_add added
  cases classified_of_add added with
  | @parameter entry _ source target _ _ attributes =>
      exact Or.inl ⟨adds.purpose_eq_parameter rfl, entry,
        ⟨source, Tag.target_eq_iff.mp target, Tag.omitEmpty_iff attributes⟩, rfl⟩
  | _ => exact Or.inr ⟨adds.purpose_ne_parameter rfl, rfl⟩

theorem addField_eq_error_iff {fault : DeclarationFault} :
    map.addField spec = .error fault ↔
      ∃ cause, spec.Violates map.currentElementId cause ∧
        fault = ⟨map.recordType, spec.name, cause⟩ := by
  rw [addField, mapError_eq_error_iff]
  exact exists_congr fun _ => and_congr add_eq_error_iff eq_comm

/-! ## Fields behind others -/

variable {xs ys : List FieldSpec}

theorem ofFields_append (classified : ofFields identity typeName xs = .ok map) :
    ofFields identity typeName (xs ++ ys) = ys.foldlM addField map := by
  rw [ofFields, List.foldlM_append]
  change ofFields identity typeName xs >>= _ = _
  rw [classified, ok_bind]

theorem ofFields_append_singleton (classified : ofFields identity typeName xs = .ok map)
    (spec : FieldSpec) :
    ofFields identity typeName (xs ++ [spec]) = map.addField spec := by
  rw [ofFields_append classified, List.foldlM_cons]
  exact bind_pure _

/-- A fault among the first fields is the fault of all of them. -/
theorem ofFields_append_of_error {fault : DeclarationFault}
    (failed : ofFields identity typeName xs = .error fault) :
    ofFields identity typeName (xs ++ ys) = .error fault := by
  rw [ofFields, List.foldlM_append]
  change ofFields identity typeName xs >>= _ = _
  rw [failed]
  rfl

/-- The fields behind others fail with the fault of the first of them that breaks a rule. -/
theorem ofFields_append_eq_error_iff (classified : ofFields identity typeName xs = .ok map)
    {fault : DeclarationFault} :
    ofFields identity typeName (xs ++ ys) = .error fault ↔
      FirstViolation typeName xs ys fault := by
  induction ys generalizing xs map with
  | nil =>
      rw [List.append_nil, classified]
      exact iff_of_false nofun nofun
  | cons spec rest inductionHypothesis =>
      have settled := settled_of_ofFields classified
      have inForce := settled.currentElementId_eq
      have step := ofFields_append_singleton classified spec
      rw [List.append_cons]
      cases added : map.addField spec with
      | error reported =>
          rw [ofFields_append_of_error (step.trans added), ← added, addField_eq_error_iff,
            settled.recordType, inForce]
          constructor
          · rintro ⟨cause, violates, rfl⟩
            exact .here violates
          · intro first
            cases first with
            | here violates => exact ⟨_, violates, rfl⟩
            | later keeps =>
                rcases addField_eq_error_iff.mp added with ⟨cause, violates, _⟩
                rw [inForce] at violates
                exact absurd violates (keeps cause)
      | ok next =>
          rw [inductionHypothesis (step.trans added)]
          have keeps : ∀ cause, ¬spec.Violates (elementIdBehind xs) cause := by
            intro cause violates
            rw [← inForce] at violates
            cases added.symm.trans (addField_eq_error_iff.mpr ⟨cause, violates, rfl⟩)
          constructor
          · exact .later keeps
          · intro first
            cases first with
            | here violates => exact absurd violates (keeps _)
            | later _ more => exact more

/-- The fields behind others add their entries behind those of the others. -/
theorem exists_entries_of_append (classified : ofFields identity typeName xs = .ok map)
    {whole : FieldMap} (classifiedAll : ofFields identity typeName (xs ++ ys) = .ok whole) :
    ∃ entries, whole.parameterFields = map.parameterFields ++ entries ∧ Enters xs ys entries := by
  induction ys generalizing xs map with
  | nil =>
      rw [List.append_nil, classified] at classifiedAll
      cases classifiedAll
      exact ⟨[], (List.append_nil _).symm, .nil⟩
  | cons spec rest inductionHypothesis =>
      have step := ofFields_append_singleton classified spec
      rw [List.append_cons] at classifiedAll
      cases added : map.addField spec with
      | error reported =>
          cases classifiedAll.symm.trans (ofFields_append_of_error (step.trans added))
      | ok next =>
          rcases inductionHypothesis (step.trans added) classifiedAll with ⟨entries, behind, more⟩
          rw [addField, mapError_eq_ok_iff] at added
          rcases entries_of_add added with ⟨parameter, entry, has, one⟩ | ⟨different, same⟩
          · rw [(settled_of_ofFields classified).currentElementId_eq] at has
            refine ⟨entry :: entries, ?_, .keep parameter has more⟩
            rw [behind, one, List.append_assoc, List.singleton_append]
          · exact ⟨entries, by rw [behind, same], .skip different more⟩

/-- Fields are classified in two parts as they are in one.  A fault in the first part is that of the
whole.  Otherwise the whole fails exactly if a field of the second part breaks a rule behind the
fields before it, and then with the fault of the first such field.  If it does not fail, it has the
entries of the first part as they were, followed by those of the second, and every slot and default
is that of the last field that settles it. -/
theorem classification_is_compositional (identity : Identity) (typeName : Text)
    (xs ys : List FieldSpec) :
    (∀ fault, ofFields identity typeName xs = .error fault →
      ofFields identity typeName (xs ++ ys) = .error fault) ∧
    ∀ map, ofFields identity typeName xs = .ok map →
      ((∃ fault, ofFields identity typeName (xs ++ ys) = .error fault) ↔ SomeViolation xs ys) ∧
      (∀ fault, ofFields identity typeName (xs ++ ys) = .error fault ↔
        FirstViolation typeName xs ys fault) ∧
      ∀ whole, ofFields identity typeName (xs ++ ys) = .ok whole →
        (∃ entries, whole.parameterFields = map.parameterFields ++ entries ∧
          Enters xs ys entries) ∧
        Settled identity typeName (xs ++ ys) whole := by
  refine ⟨fun _ => ofFields_append_of_error, fun map classified => ⟨?_, ?_, ?_⟩⟩
  · rw [← exists_firstViolation_iff typeName]
    exact exists_congr fun _ => ofFields_append_eq_error_iff classified
  · exact fun _ => ofFields_append_eq_error_iff classified
  · intro whole classifiedAll
    exact ⟨exists_entries_of_append classified classifiedAll, settled_of_ofFields classifiedAll⟩

/-- Two elements, one for each part, and a fault in front of them. -/
theorem classification_is_compositional_of_two_elements :
    let identity : Identity := ⟨"host", "app", "42"⟩
    let loud : FieldSpec := { name := "severity", tag := "loud" }
    let xs : List FieldSpec := [{ name := "sd_id", tag := "1@a" }, { name := "user" }]
    let ys : List FieldSpec := [{ name := "key" }, { name := "sd_id", tag := "2@b" },
      { name := "Host", tag := ",omitempty" }, { name := "text", tag := "3@c name" }]
    ofFields identity "T" ([loud] ++ ys) =
        .error ⟨"T", "severity", .unknownSeverity "loud"⟩ ∧
      ∃ map whole, ofFields identity "T" xs = .ok map ∧
        ofFields identity "T" (xs ++ ys) = .ok whole ∧
        (∃ entries, whole.parameterFields = map.parameterFields ++ entries ∧
          Enters xs ys entries) ∧
        Settled identity "T" (xs ++ ys) whole := by
  intro identity loud xs ys
  refine ⟨(classification_is_compositional identity "T" [loud] ys).1 _ rfl, _, _, rfl, rfl, ?_⟩
  exact ((classification_is_compositional identity "T" xs ys).2 _ rfl).2.2 _ rfl

end FieldMap

end Syslog
