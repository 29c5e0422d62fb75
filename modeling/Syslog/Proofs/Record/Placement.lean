import Mathlib.Data.List.Nodup
import Syslog.Proofs.Record.Classification

namespace Syslog

/-!
# The place of every field

A field map has a slot for each role and an entry for each parameter.  A slot holds one field, and a
field that comes later and is for the same role takes it over without a word.

The fields of a record type have distinct names, so that this can only happen to the body: one
field can have its name, and any others its tag.  The last of these is the body, and the ones before
it are left without a place.  Every other field has exactly one
(`FieldMap.every_field_has_one_place`).
-/

/-- What a field is for, as its name, its tag and its visibility have it. -/
inductive Purpose
  | role (role : Role)
  /-- Naming the element of the parameters behind it. -/
  | elementId
  | hidden
  | parameter
deriving DecidableEq

namespace FieldSpec

/-- The tag of a field that is the body whatever its name. -/
def bodyTag : Text := ",message"

def purpose (spec : FieldSpec) : Purpose :=
  match Role.ofName? spec.name with
  | some .elementId => .elementId
  | some role => .role role
  | none =>
    if spec.tag = [] ∧ spec.isPublic = false then .hidden
    else if spec.tag = bodyTag then .role .body
    else .parameter

/-- The purposes, with what is known of a field that has one. -/
inductive IsFor (spec : FieldSpec) : Purpose → Prop
  | role {role : Role} (named : Role.ofName? spec.name = some role) (proper : role ≠ .elementId) :
      IsFor spec (.role role)
  | elementId (named : Role.ofName? spec.name = some .elementId) : IsFor spec .elementId
  | hidden (noRole : Role.ofName? spec.name = none) (untagged : spec.tag = [])
      (notPublic : spec.isPublic = false) : IsFor spec .hidden
  | body (noRole : Role.ofName? spec.name = none) (tag : spec.tag = bodyTag) :
      IsFor spec (.role .body)
  | parameter (noRole : Role.ofName? spec.name = none)
      (shown : ¬(spec.tag = [] ∧ spec.isPublic = false)) (tag : spec.tag ≠ bodyTag) :
      IsFor spec .parameter

theorem isFor_purpose (spec : FieldSpec) : spec.IsFor spec.purpose := by
  rw [purpose]
  split
  · next named => exact .elementId named
  · next role proper named => exact .role named proper
  · next noRole =>
      split
      · next hidden => exact .hidden noRole hidden.1 hidden.2
      · next shown =>
          split
          · next tag => exact .body noRole tag
          · next tag => exact .parameter noRole shown tag

theorem purpose_eq_iff {spec : FieldSpec} {purpose : Purpose} :
    spec.purpose = purpose ↔ spec.IsFor purpose := by
  constructor
  · rintro rfl
    exact spec.isFor_purpose
  · intro isFor
    rw [FieldSpec.purpose]
    cases isFor with
    | role named proper =>
        rw [named]
        split
        · next same => exact absurd (Option.some.inj same) proper
        · next same => rw [Option.some.inj same]
        · next impossible => cases impossible
    | elementId named => rw [named]
    | hidden noRole untagged notPublic =>
        rw [noRole]
        exact if_pos ⟨untagged, notPublic⟩
    | body noRole tag =>
        rw [noRole, tag]
        exact (if_neg fun hidden => absurd hidden.1 (by decide)).trans (if_pos rfl)
    | parameter noRole shown tag =>
        rw [noRole]
        exact (if_neg shown).trans (if_neg tag)

/-- A field is for the role of its name, unless its tag makes it the body. -/
theorem eq_body_or_name {spec : FieldSpec} {role : Role} (purpose : spec.purpose = .role role) :
    role = .body ∨ spec.name = role.name := by
  cases purpose_eq_iff.mp purpose with
  | role named _ => exact Or.inr (Role.eq_name_of_ofName? named)
  | body _ _ => exact Or.inl rfl

end FieldSpec

/-! ## Tags -/

/-- The parts of a text, put together again. -/
theorem Text.joined_parts (separator : CodePoint) (text : Text) :
    (parts separator text).1 ++ (parts separator text).2.flatMap (separator :: ·) = text := by
  induction text with
  | nil => rfl
  | cons c rest inductionHypothesis =>
      rcases found : parts separator rest with ⟨head, tail⟩
      rw [found] at inductionHypothesis
      simp only [parts, found]
      split
      · next same =>
          subst same
          exact congrArg (c :: ·) inductionHypothesis
      · exact congrArg (c :: ·) inductionHypothesis

theorem FieldSpec.parts_eq_body_iff {tag : Text} :
    Text.parts ',' tag = ([], [Tag.bodyWord]) ↔ tag = bodyTag := by
  constructor
  · intro parts
    have joined := Text.joined_parts ',' tag
    rw [parts] at joined
    exact joined.symm
  · rintro rfl
    rfl

namespace FieldMap

/-- The field that fills a role.  That of the element is not kept. -/
def locator? (map : FieldMap) : Role → Option Text
  | .severity => map.severityField
  | .facility => map.facilityField
  | .timestamp => map.timestampField
  | .hostname => map.hostnameField
  | .appName => map.appNameField
  | .processId => map.processIdField
  | .messageId => map.messageIdField
  | .body => map.bodyField
  | .elementId => none

/-- The fields of the entries, in their order. -/
def entryFields (map : FieldMap) : List Text := map.parameterFields.map ParameterField.field

variable {map next : FieldMap} {spec : FieldSpec}

/-! ## One field -/

/-- What a field does to slots and entries: it takes over the slot of its role, or it comes last
among the parameters. -/
structure Adds (map : FieldMap) (spec : FieldSpec) (next : FieldMap) : Prop where
  locator : ∀ role, next.locator? role =
    if spec.purpose = .role role then some spec.name else map.locator? role
  entries : next.entryFields =
    map.entryFields ++ if spec.purpose = .parameter then [spec.name] else []

namespace Adds

theorem ofRole {role : Role} (isFor : spec.IsFor (.role role))
    (own : next.locator? role = some spec.name)
    (others : ∀ other, other ≠ role → next.locator? other = map.locator? other)
    (entries : next.entryFields = map.entryFields) : Adds map spec next where
  locator other := by
    rw [FieldSpec.purpose_eq_iff.mpr isFor]
    by_cases same : other = role
    · subst same
      rw [own, if_pos rfl]
    · rw [others other same, if_neg fun equal => same (Purpose.role.inj equal).symm]
  entries := by
    rw [FieldSpec.purpose_eq_iff.mpr isFor, entries, if_neg Purpose.noConfusion, List.append_nil]

theorem ofNone (noRole : ∀ role, spec.purpose ≠ .role role)
    (noParameter : spec.purpose ≠ .parameter)
    (locator : ∀ role, next.locator? role = map.locator? role)
    (entries : next.entryFields = map.entryFields) : Adds map spec next where
  locator role := by rw [if_neg (noRole role), locator]
  entries := by rw [if_neg noParameter, entries, List.append_nil]

end Adds

theorem adds_of_named {role : Role} (named : Role.ofName? spec.name = some role)
    (classified : Classified map spec next) : Adds map spec next := by
  cases classified with
  | severity isRole | facility isRole | timestamp isRole | hostname isRole | appName isRole
  | processId isRole | messageId isRole | body isRole =>
      refine .ofRole (.role isRole (by decide)) rfl (fun other different => ?_) rfl
      cases other <;> first | rfl | exact absurd rfl different
  | elementId isRole =>
      have purpose := FieldSpec.purpose_eq_iff.mpr (.elementId isRole)
      refine .ofNone (by simp [purpose]) (by simp [purpose]) (fun other => ?_) rfl
      cases other <;> rfl
  | hidden noRole | taggedBody noRole | parameter noRole =>
      rw [noRole] at named
      cases named

theorem adds_of_shown (noRole : Role.ofName? spec.name = none)
    (shown : ¬(spec.tag = [] ∧ spec.isPublic = false))
    (classified : Classified map spec next) : Adds map spec next := by
  cases classified with
  | taggedBody _ tag =>
      have isBody := FieldSpec.parts_eq_body_iff.mp tag
      refine .ofRole (.body noRole isBody) rfl (fun other different => ?_) rfl
      cases other <;> first | rfl | exact absurd rfl different
  | parameter _ source _ _ _ attributes =>
      -- a parameter has no attribute that it does not know
      have notBody : spec.tag ≠ FieldSpec.bodyTag := by
        intro isBody
        rw [FieldSpec.parts_eq_body_iff.mpr isBody] at attributes
        cases attributes
      have purpose := FieldSpec.purpose_eq_iff.mpr (.parameter noRole shown notBody)
      refine ⟨fun role => ?_, ?_⟩
      · rw [purpose, if_neg Purpose.noConfusion]
        cases role <;> rfl
      · rw [purpose, if_pos rfl, entryFields, List.map_append, List.map_singleton, source]
        rfl
  | hidden _ untagged notPublic => exact absurd ⟨untagged, notPublic⟩ shown
  | _ isRole =>
      rw [noRole] at isRole
      cases isRole

/-- What a field does to slots and entries depends on its purpose only. -/
theorem adds_of_add (added : map.add spec = .ok next) : Adds map spec next := by
  have classified := classified_of_add added
  cases named : Role.ofName? spec.name with
  | some role => exact adds_of_named named classified
  | none =>
      by_cases hidden : spec.tag = [] ∧ spec.isPublic = false
      · have purpose := FieldSpec.purpose_eq_iff.mpr (.hidden named hidden.1 hidden.2)
        rw [add, named, hidden.1, hidden.2] at added
        cases added
        exact .ofNone (by simp [purpose]) (by simp [purpose]) (fun _ => rfl) rfl
      · exact adds_of_shown named hidden classified

/-! ## All fields -/

/-- The last field that is for a role has its slot, and the fields that are for parameters have the
entries, in their order. -/
structure Placed (specs : List FieldSpec) (map : FieldMap) : Prop where
  locator : ∀ role, map.locator? role =
    (specs.filter (·.purpose = .role role)).getLast?.map FieldSpec.name
  entries : map.entryFields = (specs.filter (·.purpose = .parameter)).map FieldSpec.name

/-- The places that a field can have, or the reason why it has none. -/
inductive Place
  | role (role : Role)
  | entry (index : Nat)
  | elementId
  | hidden
  | replaced

/-- What a field with this place is for. -/
def Place.purpose : Place → Purpose
  | .role filled => .role filled
  | .entry _ => .parameter
  | .elementId => .elementId
  | .hidden => .hidden
  | .replaced => .role .body

/-- That a field of a type has a place in its field map: it fills a role, it is that of an entry, it
has the name that gives the element, or it is neither public nor tagged.  A field for the body
loses its place to one that comes later. -/
inductive Places (map : FieldMap) (specs : List FieldSpec) (spec : FieldSpec) : Place → Prop
  | role {role : Role} (filled : map.locator? role = some spec.name) :
      Places map specs spec (.role role)
  | entry {index : Nat} (listed : map.entryFields[index]? = some spec.name) :
      Places map specs spec (.entry index)
  | elementId (named : spec.name = Text.ofString "sd_id") : Places map specs spec .elementId
  | hidden (noRole : Role.ofName? spec.name = none) (untagged : spec.tag = [])
      (notPublic : spec.isPublic = false) : Places map specs spec .hidden
  | replaced {before behind : List FieldSpec} {other : FieldSpec}
      (split : specs = before ++ spec :: behind) (isBody : spec.purpose = .role .body)
      (later : other ∈ behind) (isBodyToo : other.purpose = .role .body) :
      Places map specs spec .replaced

variable {specs : List FieldSpec}

theorem name_ne_of_later (distinct : (specs.map FieldSpec.name).Nodup)
    {before behind : List FieldSpec} (split : specs = before ++ spec :: behind)
    {other : FieldSpec} (later : other ∈ behind) : other.name ≠ spec.name := by
  rw [split, List.map_append, List.map_cons] at distinct
  rcases List.nodup_cons.mp (List.nodup_append.mp distinct).2.1 with ⟨fresh, _⟩
  intro same
  rw [← same] at fresh
  exact fresh (List.mem_map_of_mem later)

namespace Placed

theorem add (placed : Placed specs map) (adds : Adds map spec next) :
    Placed (specs ++ [spec]) next where
  locator role := by
    rw [adds.locator, placed.locator, List.filter_append]
    split
    · next same => simp [same]
    · next different => simp [different]
  entries := by
    rw [adds.entries, placed.entries, List.filter_append, List.map_append]
    split
    · next same => simp [same]
    · next different => simp [different]

theorem ofFields {identity : Identity} {typeName : Text}
    (classified : FieldMap.ofFields identity typeName specs = .ok map) : Placed specs map := by
  refine ofFields_induction ?_ (fun placed added => placed.add (adds_of_add added)) classified
  exact ⟨fun role => by cases role <;> rfl, rfl⟩

theorem exists_of_locator (placed : Placed specs map) {role : Role} {name : Text}
    (found : map.locator? role = some name) :
    ∃ spec ∈ specs, spec.name = name ∧ spec.purpose = .role role := by
  rw [placed.locator] at found
  rcases Option.map_eq_some_iff.mp found with ⟨spec, isLast, same⟩
  rcases List.mem_filter.mp (List.mem_of_getLast? isLast) with ⟨member, purpose⟩
  exact ⟨spec, member, same, of_decide_eq_true purpose⟩

theorem exists_of_entry (placed : Placed specs map) {name : Text}
    (listed : name ∈ map.entryFields) :
    ∃ spec ∈ specs, spec.name = name ∧ spec.purpose = .parameter := by
  rw [placed.entries] at listed
  rcases List.mem_map.mp listed with ⟨spec, inside, same⟩
  rcases List.mem_filter.mp inside with ⟨member, purpose⟩
  exact ⟨spec, member, same, of_decide_eq_true purpose⟩

/-- The last field for a role fills it. -/
theorem locator_of_last (placed : Placed specs map) {role : Role}
    {before behind : List FieldSpec} (split : specs = before ++ spec :: behind)
    (purpose : spec.purpose = .role role) (last : ∀ other ∈ behind, other.purpose ≠ .role role) :
    map.locator? role = some spec.name := by
  have none : behind.filter (·.purpose = .role role) = [] :=
    List.filter_eq_nil_iff.mpr fun other later =>
      ne_true_of_eq_false (decide_eq_false (last other later))
  rw [placed.locator, split, List.filter_append, List.filter_cons,
    if_pos (decide_eq_true purpose), none, List.getLast?_concat, Option.map_some]

/-- Any other field for it does not. -/
theorem locator_ne_of_later (placed : Placed specs map)
    (distinct : (specs.map FieldSpec.name).Nodup) {role : Role} {before behind : List FieldSpec}
    (split : specs = before ++ spec :: behind) {other : FieldSpec} (later : other ∈ behind)
    (purpose : other.purpose = .role role) : map.locator? role ≠ some spec.name := by
  have filled : behind.filter (·.purpose = .role role) ≠ [] :=
    List.ne_nil_of_mem (List.mem_filter.mpr ⟨later, decide_eq_true purpose⟩)
  rw [placed.locator, split, List.append_cons, List.filter_append,
    List.getLast?_append_of_ne_nil _ filled]
  intro found
  rcases Option.map_eq_some_iff.mp found with ⟨last, isLast, same⟩
  exact name_ne_of_later distinct split (List.mem_filter.mp (List.mem_of_getLast? isLast)).1 same

theorem exists_place (placed : Placed specs map) (distinct : (specs.map FieldSpec.name).Nodup)
    (member : spec ∈ specs) : ∃ place, Places map specs spec place := by
  cases purpose : spec.purpose with
  | role role =>
      rcases List.append_of_mem member with ⟨before, behind, split⟩
      by_cases replaced : ∃ other ∈ behind, other.purpose = .role role
      · rcases replaced with ⟨other, later, purposeOther⟩
        -- two fields with different names can only be for the body
        have isBody : role = .body := by
          rcases FieldSpec.eq_body_or_name purpose with isBody | named
          · exact isBody
          · refine (FieldSpec.eq_body_or_name purposeOther).resolve_right fun namedToo => ?_
            exact name_ne_of_later distinct split later (namedToo.trans named.symm)
        subst isBody
        exact ⟨.replaced, .replaced split purpose later purposeOther⟩
      · refine ⟨.role role, .role (placed.locator_of_last split purpose ?_)⟩
        exact fun other later same => replaced ⟨other, later, same⟩
  | elementId =>
      cases FieldSpec.purpose_eq_iff.mp purpose with
      | elementId named => exact ⟨.elementId, .elementId (Role.eq_name_of_ofName? named)⟩
  | hidden =>
      cases FieldSpec.purpose_eq_iff.mp purpose with
      | hidden noRole untagged notPublic => exact ⟨.hidden, .hidden noRole untagged notPublic⟩
  | parameter =>
      have listed : spec.name ∈ map.entryFields := by
        rw [placed.entries]
        exact List.mem_map_of_mem (List.mem_filter.mpr ⟨member, decide_eq_true purpose⟩)
      rcases List.getElem?_of_mem listed with ⟨index, found⟩
      exact ⟨.entry index, .entry found⟩

theorem purpose_of_places (placed : Placed specs map)
    (distinct : (specs.map FieldSpec.name).Nodup) (member : spec ∈ specs) {place : Place}
    (places : Places map specs spec place) : spec.purpose = place.purpose := by
  cases places with
  | role filled =>
      rcases placed.exists_of_locator filled with ⟨other, memberOther, same, purpose⟩
      cases List.inj_on_of_nodup_map distinct memberOther member same
      exact purpose
  | entry listed =>
      rcases placed.exists_of_entry (List.mem_of_getElem? listed) with
        ⟨other, memberOther, same, purpose⟩
      cases List.inj_on_of_nodup_map distinct memberOther member same
      exact purpose
  | elementId named =>
      refine FieldSpec.purpose_eq_iff.mpr (.elementId ?_)
      rw [named]
      rfl
  | hidden noRole untagged notPublic =>
      exact FieldSpec.purpose_eq_iff.mpr (.hidden noRole untagged notPublic)
  | replaced _ isBody _ _ => exact isBody

theorem nodup_entries (placed : Placed specs map) (distinct : (specs.map FieldSpec.name).Nodup) :
    map.entryFields.Nodup := by
  rw [placed.entries]
  exact (List.filter_sublist.map FieldSpec.name).nodup distinct

theorem place_unique (placed : Placed specs map) (distinct : (specs.map FieldSpec.name).Nodup)
    (member : spec ∈ specs) {place other : Place} (places : Places map specs spec place)
    (placesOther : Places map specs spec other) : place = other := by
  have same := (placed.purpose_of_places distinct member places).symm.trans
    (placed.purpose_of_places distinct member placesOther)
  cases places with
  | role filled =>
      cases placesOther with
      | role => exact congrArg Place.role (Purpose.role.inj same)
      | replaced split _ later isBody =>
          cases same
          exact absurd filled (placed.locator_ne_of_later distinct split later isBody)
      | _ => cases same
  | entry listed =>
      cases placesOther with
      | entry listedOther =>
          rcases List.getElem?_eq_some_iff.mp listed with ⟨inside, _⟩
          exact congrArg Place.entry ((List.getElem?_inj inside
            (placed.nodup_entries distinct)).mp (listed.trans listedOther.symm))
      | _ => cases same
  | replaced split _ later isBody =>
      cases placesOther with
      | role filled =>
          cases same
          exact absurd filled (placed.locator_ne_of_later distinct split later isBody)
      | replaced => rfl
      | _ => cases same
  | elementId | hidden =>
      cases placesOther <;> first | rfl | cases same

end Placed

/-- A map can be made from any list of fields.  If these have distinct names, as those of a record
type always do, then every field has one place in the map: one role, one entry, or one reason to
have neither.  Conversely, every role is filled by a field that is for it, and every entry is that
of a field that is for a parameter. -/
theorem every_field_has_one_place {identity : Identity} {typeName : Text}
    (distinct : (specs.map FieldSpec.name).Nodup)
    (classified : ofFields identity typeName specs = .ok map) :
    (∀ spec ∈ specs, ∃! place, map.Places specs spec place) ∧
      (∀ role name, map.locator? role = some name →
        ∃ spec ∈ specs, spec.name = name ∧ spec.purpose = .role role) ∧
      ∀ name ∈ map.entryFields, ∃ spec ∈ specs, spec.name = name ∧ spec.purpose = .parameter := by
  have placed := Placed.ofFields classified
  refine ⟨fun spec member => ?_, fun _ _ => placed.exists_of_locator,
    fun _ => placed.exists_of_entry⟩
  rcases placed.exists_place distinct member with ⟨place, places⟩
  exact ⟨place, places, fun _ other => placed.place_unique distinct member other places⟩

/-- A type with a field of every kind, one of which would be the body if it came last. -/
theorem every_field_has_one_place_of_two_bodies :
    let specs : List FieldSpec := [{ name := "message" }, { name := "sd_id", tag := "9@x" },
      { name := "user" }, { name := "_key", isPublic := false },
      { name := "text", tag := ",message" }]
    ∃ map, ofFields ⟨"host", "app", "42"⟩ "T" specs = .ok map ∧
      (specs.map FieldSpec.name).Nodup ∧ ∀ spec ∈ specs, ∃! place, map.Places specs spec place := by
  intro specs
  have distinct : (specs.map FieldSpec.name).Nodup := by decide
  exact ⟨_, rfl, distinct, (every_field_has_one_place distinct rfl).1⟩

/-- A public field with the name of the body is in no role and in no entry if a later one has the
tag. -/
theorem earlier_body_has_no_place :
    let specs : List FieldSpec := [{ name := "message" }, { name := "text", tag := ",message" }]
    ∃ map, ofFields ⟨"host", "app", "42"⟩ "T" specs = .ok map ∧
      (specs.map FieldSpec.name).Nodup ∧
      (∀ role, map.locator? role ≠ some (Text.ofString "message")) ∧ map.entryFields = [] := by
  refine ⟨_, rfl, by decide, fun role => ?_, rfl⟩
  cases role <;> decide

end FieldMap

end Syslog
