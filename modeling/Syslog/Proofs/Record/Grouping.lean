import Mathlib.Data.List.Forall2
import Mathlib.Data.List.Nodup
import Mathlib.Data.List.Perm.Basic
import Syslog.Proofs.Record.Composition

namespace Syslog

/-!
# Elements as groups

The fields of a record that are written as parameters name their elements in any order, and fields
for one element may stand apart.  Grouping brings them together without moving anything else: the
elements are in the order in which their ids turn up first, and the parameters of an element are in
the order of their fields (`Record.elements_are_stable_groups`).

The groups are first given in closed form for any list of parameters (`ParameterGroups.ofList_eq`),
by an induction on the last parameter, since this is where a parameter is put.
-/

namespace ParameterGroups

variable {entries : List (Text × Parameter)} {id : Text} {parameter : Parameter}

/-- The parameters that belong to an element, in their order. -/
def membersOf (entries : List (Text × Parameter)) (id : Text) : List Parameter :=
  (entries.filter (·.1 = id)).map Prod.snd

theorem membersOf_append_singleton (entry : Text × Parameter) :
    membersOf (entries ++ [entry]) id =
      membersOf entries id ++ if entry.1 = id then [entry.2] else [] := by
  rw [membersOf, List.filter_append, List.map_append]
  split
  · next same => simp [membersOf, same]
  · next different => simp [membersOf, different]

theorem membersOf_ne_nil (occurs : id ∈ entries.map Prod.fst) : membersOf entries id ≠ [] := by
  rcases List.mem_map.mp occurs with ⟨entry, member, same⟩
  refine mt List.map_eq_nil_iff.mp (List.ne_nil_of_mem (a := entry) ?_)
  exact List.mem_filter.mpr ⟨member, decide_eq_true same⟩

theorem membersOf_eq_nil (fresh : id ∉ entries.map Prod.fst) : membersOf entries id = [] := by
  rw [membersOf, List.filter_eq_nil_iff.mpr, List.map_nil]
  intro entry member same
  exact fresh (List.mem_map.mpr ⟨entry, member, of_decide_eq_true same⟩)

/-! ## Where a parameter is put -/

theorem add_of_mem {ids : List Text} {members : Text → List Parameter} (distinct : ids.Nodup)
    (listed : id ∈ ids) :
    add id parameter (ids.map fun present => (present, members present)) =
      ids.map fun present =>
        (present, members present ++ if id = present then [parameter] else []) := by
  induction ids with
  | nil => cases listed
  | cons first rest inductionHypothesis =>
      rcases List.nodup_cons.mp distinct with ⟨once, distinctRest⟩
      rw [List.map_cons, List.map_cons, add]
      split
      · next same =>
          subst same
          rw [if_pos rfl]
          refine congrArg (_ :: ·) (List.map_congr_left fun present later => ?_)
          have different : first ≠ present := fun same => once (same ▸ later)
          rw [if_neg different, List.append_nil]
      · next different =>
          have later := (List.mem_cons.mp listed).resolve_left (Ne.symm different)
          rw [if_neg (Ne.symm different), List.append_nil, inductionHypothesis distinctRest later]

theorem add_of_not_mem {groups : ParameterGroups} (fresh : id ∉ groups.map Prod.fst) :
    add id parameter groups = groups ++ [(id, [parameter])] := by
  induction groups with
  | nil => rfl
  | cons group rest inductionHypothesis =>
      rw [List.map_cons, List.mem_cons, not_or] at fresh
      rcases fresh with ⟨different, freshRest⟩
      rw [add, if_neg (Ne.symm different), inductionHypothesis freshRest]
      rfl

theorem ofList_append_singleton (entry : Text × Parameter) :
    ofList (entries ++ [entry]) = (ofList entries).add entry.1 entry.2 := by
  rw [ofList, List.foldl_append]
  rfl

/-- The groups are those of the ids that turn up, in the order in which they do, and each of them
has all its parameters. -/
theorem ofList_eq (entries : List (Text × Parameter)) :
    ofList entries =
      (entries.map Prod.fst).eraseDups.map fun id => (id, membersOf entries id) := by
  induction entries using List.reverseRecOn with
  | nil => rfl
  | append_singleton entries entry inductionHypothesis =>
      have distinct := nodup_eraseDups (entries.map Prod.fst)
      rw [ofList_append_singleton, inductionHypothesis, List.map_append, List.map_singleton,
        eraseDups_append_singleton]
      simp only [membersOf_append_singleton]
      split
      · next occurs =>
          rw [List.append_nil, add_of_mem distinct (List.mem_eraseDups.mpr occurs)]
      · next fresh =>
          have freshId : entry.1 ∉ ((entries.map Prod.fst).eraseDups.map
              fun id => (id, membersOf entries id)).map Prod.fst := by
            simpa [List.mem_eraseDups] using fresh
          rw [add_of_not_mem freshId, List.map_append, List.map_singleton, if_pos rfl,
            membersOf_eq_nil fresh]
          refine congrArg (· ++ _) (List.map_congr_left fun id listed => ?_)
          rw [if_neg, List.append_nil]
          rintro rfl
          exact fresh (List.mem_eraseDups.mp listed)

/-- Nothing is lost in the groups, and nothing is in them twice. -/
theorem perm_add (groups : ParameterGroups) :
    ((add id parameter groups).flatMap Prod.snd).Perm (groups.flatMap Prod.snd ++ [parameter]) := by
  induction groups with
  | nil => exact List.Perm.refl _
  | cons group rest inductionHypothesis =>
      rw [add]
      split
      · rw [List.flatMap_cons, List.flatMap_cons, List.append_assoc, List.append_assoc]
        exact List.perm_append_comm.append_left _
      · rw [List.flatMap_cons, List.flatMap_cons, List.append_assoc]
        exact inductionHypothesis.append_left _

theorem perm_ofList (entries : List (Text × Parameter)) :
    ((ofList entries).flatMap Prod.snd).Perm (entries.map Prod.snd) := by
  induction entries using List.reverseRecOn with
  | nil => exact List.Perm.refl _
  | append_singleton entries entry inductionHypothesis =>
      rw [ofList_append_singleton, List.map_append]
      exact (perm_add _).trans (inductionHypothesis.append_right _)

end ParameterGroups

/-! ## The fields of a record -/

namespace Record

/-- That a field of a record is written as a parameter. -/
structure Writes (record : Record) (field : ParameterField) (parameter : Parameter) : Prop where
  name : parameter.name = .text field.name
  value : ∃ text, (record.get field.field).parameterText = .ok text ∧ parameter.value = .text text

/-- That elements are the groups of some fields: one element for each id, in the order in which the
ids turn up first, with the parameters of the fields that have the id, in the order of the fields.
All fields together are all parameters together. -/
structure Groups (record : Record) (fields : List ParameterField) (elements : List Element) :
    Prop where
  distinct : (elements.map Element.id).Nodup
  ids : elements.map Element.id =
    (fields.map ParameterField.elementId).eraseDups.map Value.text
  filled : ∀ element ∈ elements, element.parameters ≠ []
  parameters : ∀ element ∈ elements, ∀ id, element.id = .text id →
    List.Forall₂ record.Writes (fields.filter (·.elementId = id)) element.parameters
  complete : ∃ written, List.Forall₂ record.Writes fields written ∧
    (elements.flatMap Element.parameters).Perm written
  none : elements = [] ↔ fields = []

variable {map : FieldMap} {record : Record}

/-- The parameters of a record are those of its kept fields, one for each. -/
theorem forall₂_writes_of_parameters {entries : List (Text × Parameter)}
    (found : map.parameters record = .ok entries) :
    List.Forall₂ (fun field entry => entry.1 = field.elementId ∧ record.Writes field entry.2)
      (map.keptFields record) entries := by
  rw [parameters_eq_mapM] at found
  refine (forall₂_of_mapM_eq_ok found).imp fun field entry written => ?_
  rcases map_eq_ok_iff.mp written with ⟨text, isText, rfl⟩
  exact ⟨rfl, rfl, text, isText, rfl⟩

theorem groups_ofList {fields : List ParameterField} {entries : List (Text × Parameter)}
    (written : List.Forall₂
      (fun field entry => entry.1 = field.elementId ∧ record.Writes field entry.2)
      fields entries) :
    Groups record fields (ParameterGroups.ofList entries).elements := by
  have sameIds : fields.map ParameterField.elementId = entries.map Prod.fst := by
    rw [← List.forall₂_eq_eq_eq, List.forall₂_map_left_iff, List.forall₂_map_right_iff]
    exact written.imp fun _ _ writes => writes.1.symm
  have elements : (ParameterGroups.ofList entries).elements =
      (fields.map ParameterField.elementId).eraseDups.map fun id =>
        ⟨.text id, ParameterGroups.membersOf entries id⟩ := by
    rw [ParameterGroups.elements, ParameterGroups.ofList_eq, List.map_map, sameIds]
    rfl
  have ids : (ParameterGroups.ofList entries).elements.map Element.id =
      (fields.map ParameterField.elementId).eraseDups.map Value.text := by
    rw [elements, List.map_map]
    rfl
  refine ⟨?_, ids, ?_, ?_, ⟨entries.map Prod.snd, ?_, ?_⟩, ?_⟩
  · rw [ids]
    exact (nodup_eraseDups _).map fun _ _ => Value.text.inj
  · intro element member
    rw [elements] at member
    rcases List.mem_map.mp member with ⟨id, listed, rfl⟩
    rw [List.mem_eraseDups, sameIds] at listed
    exact ParameterGroups.membersOf_ne_nil listed
  · intro element member id isId
    rw [elements] at member
    rcases List.mem_map.mp member with ⟨own, _, rfl⟩
    cases isId
    have sameId : ∀ (field : ParameterField) (entry : Text × Parameter),
        entry.1 = field.elementId ∧ record.Writes field entry.2 →
          (decide (field.elementId = id) = true ↔ decide (entry.1 = id) = true) := by
      rintro field entry ⟨same, _⟩
      rw [same]
    have filtered := List.rel_filter (fun _ _ writes => sameId _ _ writes) written
    exact List.forall₂_map_right_iff.mpr (filtered.imp fun _ _ writes => writes.2)
  · exact List.forall₂_map_right_iff.mpr (written.imp fun _ _ writes => writes.2)
  · rw [ParameterGroups.elements, List.flatMap_map]
    exact ParameterGroups.perm_ofList entries
  · rw [elements, List.map_eq_nil_iff, List.eq_nil_iff_forall_not_mem,
      ← @List.map_eq_nil_iff _ _ ParameterField.elementId, List.eq_nil_iff_forall_not_mem]
    simp only [List.mem_eraseDups]

/-- The structured data of a message has the parameters of the kept fields, grouped by element.  No
field is lost or written twice, and none changes its element or its place within it. -/
theorem elements_are_stable_groups {origin : Origin} {message : Message}
    (composed : record.toMessage origin map = .ok message) :
    Groups record (map.keptFields record) message.structuredData := by
  rcases (composes_of_toMessage composed).structuredData with ⟨entries, found, same⟩
  rw [← same]
  exact groups_ofList (forall₂_writes_of_parameters found)

/-- Fields for two elements in turn, one of which is left out. -/
theorem elements_are_stable_groups_of_alternating_fields :
    let identity : Identity := ⟨"host", "app", "42"⟩
    let map : FieldMap := { FieldMap.empty identity "T" with
      parameterFields := [⟨"a", "1@x", "a", false⟩, ⟨"b", "2@y", "b", false⟩,
        ⟨"c", "1@x", "c", true⟩, ⟨"d", "1@x", "d", true⟩] }
    let record : Record := ⟨⟨"T", [{ name := "a" }, { name := "b" }, { name := "c" },
      { name := "d" }], by decide⟩, [.text "one", .bool false, .text "", .text "four"], rfl⟩
    ∃ message, record.toMessage (Origin.atEpoch identity) map = .ok message ∧
      message.structuredData.map Element.id = [.text "1@x", .text "2@y"] ∧
      Groups record (map.keptFields record) message.structuredData :=
  ⟨_, rfl, rfl, elements_are_stable_groups rfl⟩

end Record

end Syslog
