import Mathlib.Data.List.TakeDrop
import Mathlib.Data.List.TakeWhile
import Syslog.Proofs.Record.Placement

namespace Syslog

/-!
# What can be wrong with a field

A field is judged by its own name, tag and visibility, and all that comes in from the fields before
it is the id of the element in force.  The rules are listed here without reference to the readers
that the classification is made of (`FieldSpec.Violates`), each with what is reported if a field
breaks it.  They exclude each other, because a rule for a parameter counts only if those before it
have been kept.

The form of a tag is stated on texts too (`Tag.Gives`): what gives an element is recognised by its
digits, its mark and its token, and all else is a name.
-/

namespace Tag

/-- The id of an element as a tag can give it: digits of any script, the mark, and a token without
blanks. -/
def IsAddress (id : Text) : Prop :=
  ∃ digits token, id = digits ++ CodePoint.ofChar '@' :: token ∧
    digits ≠ [] ∧ (∀ c ∈ digits, c.isDecimal = true) ∧
    token ≠ [] ∧ ∀ c ∈ token, c.isBlank = false

/-- That a text gives an element and nothing else, or with it, behind a space, a name on the same
line. -/
inductive Gives (id : Text) : Option Text → Text → Prop
  | alone (address : IsAddress id) : Gives id none id
  | named {name : Text} (address : IsAddress id) (oneLine : CodePoint.ofChar '\n' ∉ name) :
      Gives id (some name) (id ++ CodePoint.ofChar ' ' :: name)

/-- A span is the longest part in front that passes a test, and the rest. -/
private theorem of_span_eq {test : CodePoint → Bool} {text front behind : Text}
    (split : text.span test = (front, behind)) :
    front ++ behind = text ∧ ∀ c ∈ front, test c = true := by
  rw [List.span_eq_takeWhile_dropWhile] at split
  cases split
  exact ⟨List.takeWhile_append_dropWhile, fun _ => List.mem_takeWhile_imp⟩

theorem gives_of_elementAndName? {text id : Text} {name : Option Text}
    (found : elementAndName? text = some (id, name)) : Gives id name text := by
  rcases inDigits : text.span CodePoint.isDecimal with ⟨digits, afterDigits⟩
  rcases of_span_eq inDigits with ⟨rfl, areDigits⟩
  simp only [elementAndName?, inDigits] at found
  split at found
  · cases found
  · next mark rest =>
      rcases inToken : rest.span (!·.isBlank) with ⟨token, afterToken⟩
      rcases of_span_eq inToken with ⟨rfl, isToken⟩
      simp only [inToken] at found
      split at found
      · cases found
      · next filled =>
          simp only [Bool.or_eq_true, List.isEmpty_iff, bne_iff_ne, not_or, not_not] at filled
          rcases filled with ⟨⟨hasDigits, hasToken⟩, rfl⟩
          have address : IsAddress (digits ++ CodePoint.ofChar '@' :: token) :=
            ⟨digits, token, rfl, hasDigits, areDigits, hasToken, fun c member =>
              (Bool.not_eq_true' _).mp (isToken c member)⟩
          split at found
          · cases found
            rw [List.append_nil]
            exact .alone address
          · next blank name =>
              split at found
              · next oneLine =>
                  cases found
                  rcases oneLine with ⟨rfl, oneLine⟩
                  have named := Gives.named address fun member =>
                    oneLine (List.contains_iff_mem.mpr member)
                  rwa [List.append_assoc] at named
              · cases found

/-- Digits end before the mark, and a token before a blank. -/
theorem elementAndName?_address {digits token : Text} (hasDigits : digits ≠ [])
    (areDigits : ∀ c ∈ digits, c.isDecimal = true) (hasToken : token ≠ [])
    (isToken : ∀ c ∈ token, c.isBlank = false) (tail : Text)
    (ends : tail.takeWhile (!·.isBlank) = []) :
    elementAndName? (digits ++ CodePoint.ofChar '@' :: (token ++ tail)) =
      match tail with
      | [] => some (digits ++ CodePoint.ofChar '@' :: token, none)
      | blank :: name =>
        if blank = CodePoint.ofChar ' ' ∧ ¬name.contains (CodePoint.ofChar '\n') then
          some (digits ++ CodePoint.ofChar '@' :: token, some name)
        else none := by
  have isMark : (CodePoint.ofChar '@').isDecimal = false := by decide
  have notBlank : ∀ c ∈ token, (!c.isBlank) = true := fun c member => by rw [isToken c member]; rfl
  have filled : (digits.isEmpty || token.isEmpty ||
      CodePoint.ofChar '@' != CodePoint.ofChar '@') = false := by
    rw [List.isEmpty_eq_false_iff.mpr hasDigits, List.isEmpty_eq_false_iff.mpr hasToken]
    rfl
  have rest : tail.dropWhile (!·.isBlank) = tail := by
    have whole := List.takeWhile_append_dropWhile (p := (!·.isBlank)) (l := tail)
    rwa [ends] at whole
  rw [elementAndName?, List.span_eq_takeWhile_dropWhile,
    List.takeWhile_append_of_pos areDigits, List.dropWhile_append_of_pos areDigits,
    List.takeWhile_cons_of_neg (Bool.eq_false_iff.mp isMark),
    List.dropWhile_cons_of_neg (Bool.eq_false_iff.mp isMark), List.append_nil]
  dsimp only
  rw [List.span_eq_takeWhile_dropWhile, List.takeWhile_append_of_pos notBlank,
    List.dropWhile_append_of_pos notBlank, ends, rest, List.append_nil]
  dsimp only
  rw [filled]
  cases tail <;> rfl

/-- The reader of tags finds exactly what they give. -/
theorem elementAndName?_eq_some_iff {text id : Text} {name : Option Text} :
    elementAndName? text = some (id, name) ↔ Gives id name text := by
  constructor
  · exact gives_of_elementAndName?
  · intro gives
    cases gives with
    | alone address =>
        rcases address with ⟨digits, token, rfl, hasDigits, areDigits, hasToken, isToken⟩
        have read := elementAndName?_address hasDigits areDigits hasToken isToken [] rfl
        rwa [List.append_nil] at read
    | @named name address oneLine =>
        rcases address with ⟨digits, token, rfl, hasDigits, areDigits, hasToken, isToken⟩
        have read := elementAndName?_address hasDigits areDigits hasToken isToken
          (CodePoint.ofChar ' ' :: name) rfl
        rw [List.append_assoc, List.cons_append, read]
        exact if_pos ⟨rfl, fun member => oneLine (List.contains_iff_mem.mp member)⟩

/-- A name that is given, or else one that is derived from that of the field. -/
def nameOr (fieldName given : Text) : Text := if given = [] then derivedName fieldName else given

/-- The element and the name of a parameter, by the part of its tag before the attributes: the
element is the one that the tag gives, or else the one in force, and then all of the part is the
name. -/
inductive Targets (inForce fieldName namePart : Text) : (id name : Text) → Prop
  | own {id : Text} {name : Option Text} (gives : Gives id name namePart) :
      Targets inForce fieldName namePart id (nameOr fieldName (name.getD []))
  | plain (none : ∀ id name, ¬Gives id name namePart) :
      Targets inForce fieldName namePart inForce (nameOr fieldName namePart)

theorem targets_target (inForce fieldName namePart : Text) : Targets inForce fieldName namePart
    (target inForce fieldName namePart).1 (target inForce fieldName namePart).2 := by
  have derives : ∀ given : Text,
      (if given.isEmpty then derivedName fieldName else given) = nameOr fieldName given := by
    intro given
    cases given <;> rfl
  rw [target]
  cases found : elementAndName? namePart with
  | none =>
      dsimp only
      rw [derives]
      refine .plain fun id name gives => ?_
      cases found.symm.trans (elementAndName?_eq_some_iff.mpr gives)
  | some own =>
      dsimp only
      rw [derives]
      exact .own (elementAndName?_eq_some_iff.mp found)

variable {inForce fieldName namePart id name : Text}

/-- A tag has one target. -/
theorem Targets.unique {otherId otherName : Text}
    (targets : Targets inForce fieldName namePart id name)
    (other : Targets inForce fieldName namePart otherId otherName) :
    id = otherId ∧ name = otherName := by
  cases targets with
  | own gives =>
      cases other with
      | own givesToo =>
          cases (elementAndName?_eq_some_iff.mpr gives).symm.trans
            (elementAndName?_eq_some_iff.mpr givesToo)
          exact ⟨rfl, rfl⟩
      | plain none => exact absurd gives (none _ _)
  | plain none =>
      cases other with
      | own gives => exact absurd gives (none _ _)
      | plain => exact ⟨rfl, rfl⟩

theorem target_eq_iff : target inForce fieldName namePart = (id, name) ↔
    Targets inForce fieldName namePart id name := by
  constructor
  · intro same
    have targets := targets_target inForce fieldName namePart
    rwa [same] at targets
  · intro targets
    rcases (targets_target inForce fieldName namePart).unique targets with ⟨sameId, sameName⟩
    exact Prod.ext sameId sameName

end Tag

/-! ## The rules for a field -/

namespace FieldSpec

/-- The tag up to the attributes. -/
def namePart (spec : FieldSpec) : Text := (Text.parts ',' spec.tag).1

def attributes (spec : FieldSpec) : List Text := (Text.parts ',' spec.tag).2

/-- That a field is to be written as a parameter, be its tag in order or not. -/
structure AsksForParameter (spec : FieldSpec) : Prop where
  noRole : Role.ofName? spec.name = none
  shown : ¬(spec.tag = [] ∧ spec.isPublic = false)
  noBody : ¬(spec.namePart = [] ∧ spec.attributes.head? = some Tag.bodyWord)

/-- The rules that a field can break, given the id of the element in force, and what is reported
then. -/
inductive Violates (inForce : Text) (spec : FieldSpec) : TagFault → Prop
  | severity (role : Role.ofName? spec.name = some .severity) (tagged : spec.tag ≠ [])
      (unknown : Severity.ofKeyword? spec.tag = none) :
      Violates inForce spec (.unknownSeverity spec.tag)
  | facility (role : Role.ofName? spec.name = some .facility) (tagged : spec.tag ≠ [])
      (unknown : Facility.ofKeyword? spec.tag = none) :
      Violates inForce spec (.unknownFacility spec.tag)
  | appName (role : Role.ofName? spec.name = some .appName) (tagged : spec.tag ≠ [])
      (invalid : ¬(Value.text spec.tag).IsToken 48) :
      Violates inForce spec (.headerDefault 48 spec.tag)
  | messageId (role : Role.ofName? spec.name = some .messageId) (tagged : spec.tag ≠ [])
      (invalid : ¬(Value.text spec.tag).IsToken 32) :
      Violates inForce spec (.headerDefault 32 spec.tag)
  | elementId (role : Role.ofName? spec.name = some .elementId) (tagged : spec.tag ≠ [])
      (invalid : ¬(Value.text spec.tag).IsName true) :
      Violates inForce spec (.elementId spec.tag)
  | bodyAttributes {words : List Text} (noRole : Role.ofName? spec.name = none)
      (isBody : spec.namePart = []) (attributes : spec.attributes = Tag.bodyWord :: words)
      (more : words ≠ []) :
      Violates inForce spec (.unknownAttributes words)
  | parameterElement {id name : Text} (parameter : spec.AsksForParameter)
      (targets : Tag.Targets inForce spec.name spec.namePart id name)
      (invalid : ¬(Value.text id).IsName true) :
      Violates inForce spec (.elementId id)
  | parameterName {id name : Text} (parameter : spec.AsksForParameter)
      (targets : Tag.Targets inForce spec.name spec.namePart id name)
      (isElementId : (Value.text id).IsName true) (invalid : ¬(Value.text name).IsName true) :
      Violates inForce spec (.parameterName name)
  | unknownWord {id name word : Text} {before behind : List Text}
      (parameter : spec.AsksForParameter)
      (targets : Tag.Targets inForce spec.name spec.namePart id name)
      (isElementId : (Value.text id).IsName true) (isName : (Value.text name).IsName true)
      (attributes : spec.attributes = before ++ word :: behind)
      (known : ∀ other ∈ before, other = Tag.omitEmptyWord) (unknown : word ≠ Tag.omitEmptyWord) :
      Violates inForce spec (.unknownAttribute word)

end FieldSpec

namespace Tag

theorem headerDefault_eq_error_iff {limit : Nat} {tag : Text} {fault : TagFault} :
    headerDefault limit tag = .error fault ↔
      ¬(Value.text tag).IsToken limit ∧ fault = .headerDefault limit tag := by
  cases outcome : headerDefault limit tag with
  | ok default =>
      have isToken := (headerDefault_eq_ok_iff.mp outcome).2
      exact ⟨nofun, fun invalid => absurd isToken invalid.1⟩
  | error reported =>
      have invalid : ¬(Value.text tag).IsToken limit := fun isToken =>
        nomatch outcome.symm.trans (headerDefault_eq_ok_iff.mpr ⟨rfl, isToken⟩)
      have same : reported = .headerDefault limit tag := by
        rw [headerDefault] at outcome
        split at outcome
        · cases outcome
        · exact (Except.error.inj outcome).symm
      rw [same, Except.error.injEq, eq_comm]
      exact ⟨fun reports => ⟨invalid, reports⟩, And.right⟩

theorem isName_iff_of_text {text : Text} :
    text.isName true = true ↔ (Value.text text).IsName true := by
  rw [Text.isName_iff]
  constructor
  · intro valid
    exact ⟨text, rfl, valid⟩
  · rintro ⟨_, same, valid⟩
    cases same
    exact valid

theorem name_eq_error_iff {report : Text → TagFault} {text : Text} {fault : TagFault} :
    Tag.name report text = .error fault ↔
      ¬(Value.text text).IsName true ∧ fault = report text := by
  rw [Tag.name, ← isName_iff_of_text]
  split
  · next valid => simp [valid]
  · next invalid => simp [invalid, eq_comm]

theorem find?_ne_omitEmptyWord_iff {attributes : List Text} {word : Text} :
    attributes.find? (· != omitEmptyWord) = some word ↔
      ∃ before behind, attributes = before ++ word :: behind ∧
        (∀ other ∈ before, other = omitEmptyWord) ∧ word ≠ omitEmptyWord := by
  rw [List.find?_eq_some_iff_append, bne_iff_ne]
  simp only [Bool.not_eq_true', bne_eq_false_iff_eq]
  constructor
  · rintro ⟨unknown, before, behind, split, known⟩
    exact ⟨before, behind, split, known, unknown⟩
  · rintro ⟨before, behind, split, known, unknown⟩
    exact ⟨unknown, before, behind, split, known⟩

/-- Of the attributes that are not known the first is reported. -/
theorem omitEmpty?_eq_error_iff {attributes : List Text} {fault : TagFault} :
    omitEmpty? attributes = .error fault ↔
      ∃ word before behind, attributes = before ++ word :: behind ∧
        (∀ other ∈ before, other = omitEmptyWord) ∧ word ≠ omitEmptyWord ∧
          fault = .unknownAttribute word := by
  have reports : omitEmpty? attributes = .error fault ↔
      ∃ word, attributes.find? (· != omitEmptyWord) = some word ∧
        fault = .unknownAttribute word := by
    rw [omitEmpty?]
    cases attributes.find? (· != omitEmptyWord) <;> simp [eq_comm]
  rw [reports]
  refine exists_congr fun word => ?_
  rw [find?_ne_omitEmptyWord_iff]
  constructor
  · rintro ⟨⟨before, behind, split, known, unknown⟩, rfl⟩
    exact ⟨before, behind, split, known, unknown, rfl⟩
  · rintro ⟨before, behind, split, known, unknown, rfl⟩
    exact ⟨⟨before, behind, split, known, unknown⟩, rfl⟩

theorem omitEmpty_iff {attributes : List Text} {omitEmpty : Bool}
    (known : omitEmpty? attributes = .ok omitEmpty) : omitEmpty = true ↔ attributes ≠ [] := by
  rw [omitEmpty?] at known
  split at known
  · cases known
  · cases known
    rw [Bool.not_eq_true', List.isEmpty_eq_false_iff]

end Tag

namespace FieldMap

variable {map : FieldMap} {spec : FieldSpec} {fault : TagFault}

theorem tagged_and_read {read : Except TagFault FieldMap} :
    (if spec.tag.isEmpty then .ok map else read) = .error fault ↔
      spec.tag ≠ [] ∧ read = .error fault := by
  cases spec.tag with
  | nil => simp
  | cons first rest => simp

theorem violates_of_addRole {role : Role} (found : Role.ofName? spec.name = some role)
    (failed : map.addRole spec role = .error fault) :
    spec.Violates map.currentElementId fault := by
  cases role with
  | timestamp | hostname | processId | body => cases failed
  | severity =>
      rcases tagged_and_read.mp failed with ⟨tagged, read⟩
      split at read
      · cases read
      · next unknown =>
          cases read
          exact .severity found tagged unknown
  | facility =>
      rcases tagged_and_read.mp failed with ⟨tagged, read⟩
      split at read
      · cases read
      · next unknown =>
          cases read
          exact .facility found tagged unknown
  | appName =>
      rcases tagged_and_read.mp failed with ⟨tagged, read⟩
      rcases bind_eq_error_iff.mp read with failed | ⟨_, _, impossible⟩
      · rcases Tag.headerDefault_eq_error_iff.mp failed with ⟨invalid, rfl⟩
        exact .appName found tagged invalid
      · cases impossible
  | messageId =>
      rcases tagged_and_read.mp failed with ⟨tagged, read⟩
      rcases bind_eq_error_iff.mp read with failed | ⟨_, _, impossible⟩
      · rcases Tag.headerDefault_eq_error_iff.mp failed with ⟨invalid, rfl⟩
        exact .messageId found tagged invalid
      · cases impossible
  | elementId =>
      rcases tagged_and_read.mp failed with ⟨tagged, read⟩
      rcases bind_eq_error_iff.mp read with failed | ⟨_, _, impossible⟩
      · rcases Tag.name_eq_error_iff.mp failed with ⟨invalid, rfl⟩
        exact .elementId found tagged invalid
      · cases impossible

theorem addRole_of_violates {role : Role} (found : Role.ofName? spec.name = some role)
    (violates : spec.Violates map.currentElementId fault) :
    map.addRole spec role = .error fault := by
  cases violates with
  | severity isRole tagged unknown =>
      cases found.symm.trans isRole
      exact tagged_and_read.mpr ⟨tagged, by rw [unknown]⟩
  | facility isRole tagged unknown =>
      cases found.symm.trans isRole
      exact tagged_and_read.mpr ⟨tagged, by rw [unknown]⟩
  | appName isRole tagged invalid =>
      cases found.symm.trans isRole
      refine tagged_and_read.mpr ⟨tagged, bind_eq_error_iff.mpr (.inl ?_)⟩
      exact Tag.headerDefault_eq_error_iff.mpr ⟨invalid, rfl⟩
  | messageId isRole tagged invalid =>
      cases found.symm.trans isRole
      refine tagged_and_read.mpr ⟨tagged, bind_eq_error_iff.mpr (.inl ?_)⟩
      exact Tag.headerDefault_eq_error_iff.mpr ⟨invalid, rfl⟩
  | elementId isRole tagged invalid =>
      cases found.symm.trans isRole
      refine tagged_and_read.mpr ⟨tagged, bind_eq_error_iff.mpr (.inl ?_)⟩
      exact Tag.name_eq_error_iff.mpr ⟨invalid, rfl⟩
  | bodyAttributes noRole => cases found.symm.trans noRole
  | parameterElement parameter | parameterName parameter | unknownWord parameter =>
      cases found.symm.trans parameter.noRole

theorem addParameter_of_body {words : List Text} (isBody : spec.namePart = [])
    (attributes : spec.attributes = Tag.bodyWord :: words) :
    map.addParameter spec =
      if words = [] then .ok { map with bodyField := some spec.name }
      else .error (.unknownAttributes words) := by
  have split : Text.parts ',' spec.tag = ([], Tag.bodyWord :: words) := Prod.ext isBody attributes
  rw [addParameter, split]
  cases words <;> rfl

theorem addParameter_of_asks (parameter : spec.AsksForParameter) :
    map.addParameter spec = do
      let id ← Tag.name TagFault.elementId
        (Tag.target map.currentElementId spec.name spec.namePart).1
      let name ← Tag.name TagFault.parameterName
        (Tag.target map.currentElementId spec.name spec.namePart).2
      let omitEmpty ← Tag.omitEmpty? spec.attributes
      return { map with
        parameterFields := map.parameterFields ++ [⟨spec.name, id, name, omitEmpty⟩] } := by
  have notBody : (spec.namePart.isEmpty && spec.attributes.head? == some Tag.bodyWord) = false := by
    rw [Bool.eq_false_iff, ne_eq, Bool.and_eq_true, List.isEmpty_iff, beq_iff_eq]
    exact parameter.noBody
  rw [addParameter]
  change (if (spec.namePart.isEmpty && spec.attributes.head? == some Tag.bodyWord) = true
    then _ else _) = _
  rw [notBody]
  rfl

theorem violates_of_asks (parameter : spec.AsksForParameter)
    (failed : map.addParameter spec = .error fault) :
    spec.Violates map.currentElementId fault := by
  have targets := Tag.targets_target map.currentElementId spec.name spec.namePart
  rw [addParameter_of_asks parameter, bind_eq_error_iff] at failed
  rcases failed with failed | ⟨id, isId, failed⟩
  · rcases Tag.name_eq_error_iff.mp failed with ⟨invalid, rfl⟩
    exact .parameterElement parameter targets invalid
  rcases bind_eq_error_iff.mp failed with failed | ⟨name, isName, failed⟩
  · rcases Tag.name_eq_error_iff.mp failed with ⟨invalid, rfl⟩
    exact .parameterName parameter targets
      (Tag.isName_iff_of_text.mp (Tag.name_eq_ok_iff.mp isId).2) invalid
  rcases bind_eq_error_iff.mp failed with failed | ⟨_, _, impossible⟩
  · rcases Tag.omitEmpty?_eq_error_iff.mp failed with
      ⟨word, before, behind, split, known, unknown, rfl⟩
    exact .unknownWord parameter targets (Tag.isName_iff_of_text.mp (Tag.name_eq_ok_iff.mp isId).2)
      (Tag.isName_iff_of_text.mp (Tag.name_eq_ok_iff.mp isName).2) split known unknown
  · cases impossible

theorem violates_of_addParameter (noRole : Role.ofName? spec.name = none)
    (shown : ¬(spec.tag = [] ∧ spec.isPublic = false))
    (failed : map.addParameter spec = .error fault) :
    spec.Violates map.currentElementId fault := by
  by_cases body : spec.namePart = [] ∧ spec.attributes.head? = some Tag.bodyWord
  · rcases List.head?_eq_some_iff.mp body.2 with ⟨words, attributes⟩
    rw [addParameter_of_body body.1 attributes] at failed
    split at failed
    · cases failed
    · next more =>
        cases failed
        exact .bodyAttributes noRole body.1 attributes more
  · exact violates_of_asks ⟨noRole, shown, body⟩ failed

theorem addParameter_of_violates (noRole : Role.ofName? spec.name = none)
    (violates : spec.Violates map.currentElementId fault) :
    map.addParameter spec = .error fault := by
  -- a target that is known is the one that is read
  have reads : ∀ {id name : Text},
      Tag.Targets map.currentElementId spec.name spec.namePart id name →
        (Tag.target map.currentElementId spec.name spec.namePart).1 = id ∧
          (Tag.target map.currentElementId spec.name spec.namePart).2 = name :=
    (Tag.targets_target _ _ _).unique
  have passes : ∀ {report : Text → TagFault} {text : Text}, (Value.text text).IsName true →
      Tag.name report text = .ok text :=
    fun isName => Tag.name_eq_ok_iff.mpr ⟨rfl, Tag.isName_iff_of_text.mpr isName⟩
  cases violates with
  | severity isRole | facility isRole | appName isRole | messageId isRole | elementId isRole =>
      cases noRole.symm.trans isRole
  | bodyAttributes _ isBody attributes more =>
      rw [addParameter_of_body isBody attributes, if_neg more]
  | parameterElement parameter targets invalid =>
      rcases reads targets with ⟨rfl, rfl⟩
      rw [addParameter_of_asks parameter, Tag.name_eq_error_iff.mpr ⟨invalid, rfl⟩]
      rfl
  | parameterName parameter targets isElementId invalid =>
      rcases reads targets with ⟨rfl, rfl⟩
      rw [addParameter_of_asks parameter, passes isElementId, ok_bind,
        Tag.name_eq_error_iff.mpr ⟨invalid, rfl⟩]
      rfl
  | unknownWord parameter targets isElementId isName attributes known unknown =>
      rcases reads targets with ⟨rfl, rfl⟩
      rw [addParameter_of_asks parameter, passes isElementId, ok_bind, passes isName, ok_bind,
        Tag.omitEmpty?_eq_error_iff.mpr ⟨_, _, _, attributes, known, unknown, rfl⟩]
      rfl

/-- A field that is neither public nor tagged breaks no rule. -/
theorem not_violates_of_hidden {inForce : Text} (noRole : Role.ofName? spec.name = none)
    (untagged : spec.tag = []) (notPublic : spec.isPublic = false) :
    ¬spec.Violates inForce fault := by
  intro violates
  cases violates with
  | severity isRole | facility isRole | appName isRole | messageId isRole | elementId isRole =>
      cases noRole.symm.trans isRole
  | bodyAttributes _ _ attributes =>
      rw [FieldSpec.attributes, untagged] at attributes
      cases attributes
  | parameterElement parameter | parameterName parameter | unknownWord parameter =>
      exact parameter.shown ⟨untagged, notPublic⟩

/-- A field is refused exactly if it breaks a rule, and the rule is what is reported. -/
theorem add_eq_error_iff :
    map.add spec = .error fault ↔ spec.Violates map.currentElementId fault := by
  rw [add]
  split
  · next role found => exact ⟨violates_of_addRole found, addRole_of_violates found⟩
  · next noRole =>
      split
      · next skipped =>
          rw [Bool.and_eq_true, Bool.not_eq_true', List.isEmpty_iff] at skipped
          refine iff_of_false (fun same => ?_) (not_violates_of_hidden noRole skipped.1 skipped.2)
          cases same
      · next shown =>
          rw [Bool.and_eq_true, Bool.not_eq_true', List.isEmpty_iff] at shown
          exact ⟨violates_of_addParameter noRole shown, addParameter_of_violates noRole⟩

end FieldMap

end Syslog
