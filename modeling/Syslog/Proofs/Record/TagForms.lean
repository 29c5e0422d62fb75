import Syslog.Proofs.Record.Succession
import Syslog.Proofs.Time.Written

namespace Syslog

/-!
# What tags can say

A tag is read from the outside in: attributes are cut off at commas, what is left is taken for an
element if it begins like one, and all else is a name.  So that a tag says what its author means,
its words must not be taken for something else: a comma would end them, a space would end the
element, and a name that begins like an element would be one.

Of words in which none of this can happen every element and every name can be written, and exactly
that is read (`FieldMap.tags_express_elements_and_names`).  The name that is derived from that of
the field is the only one that is not written in the tag, and so the only one that can be refused.
-/

namespace Tag

/-- A name of any length that no comma cuts in two. -/
structure IsWord (text : Text) : Prop where
  filled : text ≠ []
  inside : ∀ c ∈ text, IsNameCharacter c.val ∧ c.val ≠ ','.toNat

instance (code : Nat) : Decidable (IsNameCharacter code) := inferInstanceAs (Decidable (_ ∧ _))

instance (text : Text) : Decidable (IsWord text) :=
  decidable_of_iff (text ≠ [] ∧ ∀ c ∈ text, IsNameCharacter c.val ∧ c.val ≠ ','.toNat)
    ⟨fun ⟨filled, inside⟩ => ⟨filled, inside⟩, fun ⟨filled, inside⟩ => ⟨filled, inside⟩⟩

/-- The id of an element: ASCII digits, the mark and a word. -/
def IsElement (id : Text) : Prop :=
  ∃ digits token, id = digits ++ CodePoint.ofChar '@' :: token ∧
    digits ≠ [] ∧ (∀ c ∈ digits, IsDigit c.val) ∧ IsWord token

/-- A text that begins like the id of an element: with digits of any script and the mark, and with
something behind them. -/
def IsNumbered (text : Text) : Prop :=
  ∃ digits rest, text = digits ++ CodePoint.ofChar '@' :: rest ∧
    digits ≠ [] ∧ (∀ c ∈ digits, c.isDecimal = true) ∧ rest ≠ []

/-- A tag with its attributes. -/
def written (namePart : Text) (attributes : List Text) : Text :=
  namePart ++ attributes.flatMap (CodePoint.ofChar ',' :: ·)

/-! ## Words -/

theorem isDecimal_of_isDigit {c : CodePoint} (digit : IsDigit c.val) : c.isDecimal = true := by
  have first : (0x30, 0x39) ∈ decimalRanges := by decide
  refine List.any_eq_true.mpr ⟨_, first, ?_⟩
  rw [Bool.and_eq_true, decide_eq_true_eq, decide_eq_true_eq]
  exact digit

theorem isBlank_of_isPrintable {c : CodePoint} (printable : IsPrintable c.val) :
    c.isBlank = false := by
  have apart : ∀ range ∈ blankRanges, range.2 < 33 ∨ 126 < range.1 := by decide
  refine List.any_eq_false.mpr fun range listed => ?_
  rw [Bool.and_eq_true, decide_eq_true_eq, decide_eq_true_eq]
  rintro ⟨atLeast, atMost⟩
  rcases apart range listed with below | above
  · exact absurd (Nat.le_trans printable.1 atMost) (Nat.not_le_of_lt below)
  · exact absurd (Nat.le_trans atLeast printable.2) (Nat.not_le_of_lt above)

namespace IsWord

variable {word : Text}

theorem printable (isWord : IsWord word) {c : CodePoint} (member : c ∈ word) : IsPrintable c.val :=
  (isWord.inside c member).1.1

theorem comma_not_mem (isWord : IsWord word) : CodePoint.ofChar ',' ∉ word := by
  intro member
  exact (isWord.inside _ member).2 rfl

theorem space_not_mem (isWord : IsWord word) : CodePoint.ofChar ' ' ∉ word := by
  intro member
  exact absurd (isWord.printable member) (by decide)

theorem newline_not_mem (isWord : IsWord word) : CodePoint.ofChar '\n' ∉ word := by
  intro member
  exact absurd (isWord.printable member) (by decide)

theorem isName (isWord : IsWord word) : (Value.text word).IsName true :=
  ⟨word, rfl, isWord.filled, nofun, fun c member => (isWord.inside c member).1⟩

end IsWord

namespace IsElement

variable {id : Text}

theorem isAddress (isElement : IsElement id) : IsAddress id := by
  rcases isElement with ⟨digits, token, rfl, hasDigits, areDigits, isToken⟩
  exact ⟨digits, token, rfl, hasDigits, fun c member => isDecimal_of_isDigit (areDigits c member),
    isToken.filled, fun c member => isBlank_of_isPrintable (isToken.printable member)⟩

theorem isWord (isElement : IsElement id) : IsWord id := by
  rcases isElement with ⟨digits, token, rfl, hasDigits, areDigits, isToken⟩
  have ofDigit : ∀ code, IsDigit code → IsNameCharacter code ∧ code ≠ ','.toNat := by
    intro code digit
    have bounds : 48 ≤ code ∧ code ≤ 57 := digit
    refine ⟨⟨digit.printable, ?_, ?_, ?_⟩, ?_⟩ <;>
      exact fun same => absurd (same ▸ bounds) (by decide)
  have ofMark : IsNameCharacter (CodePoint.ofChar '@').val ∧
      (CodePoint.ofChar '@').val ≠ ','.toNat := by
    refine ⟨⟨by decide, ?_, ?_, ?_⟩, ?_⟩ <;> decide
  refine ⟨List.append_ne_nil_of_left_ne_nil hasDigits _, ?_⟩
  refine List.forall_mem_append.mpr ⟨fun c member => ofDigit _ (areDigits c member), ?_⟩
  exact List.forall_mem_cons.mpr ⟨ofMark, isToken.inside⟩

/-- An element and a name without commas make a tag without commas. -/
theorem comma_not_mem (isElement : IsElement id) {behind : Text}
    (clear : CodePoint.ofChar ',' ∉ behind) :
    CodePoint.ofChar ',' ∉ id ++ CodePoint.ofChar ' ' :: behind := by
  intro member
  rcases List.mem_append.mp member with inside | inside
  · exact isElement.isWord.comma_not_mem inside
  · exact clear ((List.mem_cons.mp inside).resolve_left (by decide))

end IsElement

/-- A word that does not begin like an element gives none. -/
theorem not_gives_of_isWord {word id : Text} {name : Option Text} (isWord : IsWord word)
    (notNumbered : ¬IsNumbered word) : ¬Gives id name word := by
  intro gives
  cases gives with
  | alone address =>
      rcases address with ⟨digits, token, rfl, hasDigits, areDigits, hasToken, _⟩
      exact notNumbered ⟨digits, token, rfl, hasDigits, areDigits, hasToken⟩
  | named => exact isWord.space_not_mem (List.mem_append_right _ List.mem_cons_self)

/-! ## Tags -/

/-- What has no separator goes to the first part. -/
theorem parts_append {separator : CodePoint} {front behind head : Text} {words : List Text}
    (clear : separator ∉ front) (found : Text.parts separator behind = (head, words)) :
    Text.parts separator (front ++ behind) = (front ++ head, words) := by
  induction front with
  | nil => exact found
  | cons c rest inductionHypothesis =>
      rcases not_or.mp (List.mem_cons.not.mp clear) with ⟨different, clearRest⟩
      rw [List.cons_append, Text.parts, inductionHypothesis clearRest]
      exact if_neg fun same => different same.symm

/-- The words of a tag are found again. -/
theorem parts_written {namePart : Text} {attributes : List Text}
    (whole : CodePoint.ofChar ',' ∉ namePart)
    (separate : ∀ word ∈ attributes, CodePoint.ofChar ',' ∉ word) :
    Text.parts ',' (written namePart attributes) = (namePart, attributes) := by
  induction attributes generalizing namePart with
  | nil =>
      have none : Text.parts ',' [] = ([], []) := rfl
      exact (parts_append whole none).trans (by rw [List.append_nil])
  | cons word more inductionHypothesis =>
      rcases List.forall_mem_cons.mp separate with ⟨clear, others⟩
      have behind : Text.parts ',' (CodePoint.ofChar ',' :: written word more) =
          ([], word :: more) := by
        rw [Text.parts, inductionHypothesis clear others]
        exact if_pos rfl
      exact (parts_append whole behind).trans (by rw [List.append_nil])

end Tag

namespace FieldMap

open FieldSpec

/-- How a tag with some attributes comes out that asks for a parameter: the parameter gets an entry
behind all others, which can be left out if there are attributes, and the first attribute that is
not `omitempty` is reported. -/
structure Yields (map : FieldMap) (fieldName id name : Text) (attributes : List Text)
    (outcome : Except DeclarationFault FieldMap) : Prop where
  entered : (∀ word ∈ attributes, word = Tag.omitEmptyWord) →
    outcome = .ok { map with
      parameterFields := map.parameterFields ++ [⟨fieldName, id, name, !attributes.isEmpty⟩] }
  refused : ∀ known word more, attributes = known ++ word :: more →
    (∀ other ∈ known, other = Tag.omitEmptyWord) → word ≠ Tag.omitEmptyWord →
      outcome = .error ⟨map.recordType, fieldName, .unknownAttribute word⟩

variable {map : FieldMap} {spec : FieldSpec} {id name : Text}

theorem yields_of_targets (parameter : spec.AsksForParameter)
    (targets : Tag.Targets map.currentElementId spec.name spec.namePart id name)
    (isElementId : (Value.text id).IsName true) (isName : (Value.text name).IsName true) :
    Yields map spec.name id name spec.attributes (map.addField spec) where
  entered known := by
    have shown : ¬(spec.tag.isEmpty && !spec.isPublic) = true := by
      rw [Bool.and_eq_true, Bool.not_eq_true', List.isEmpty_iff]
      exact parameter.shown
    have omitEmpty : Tag.omitEmpty? spec.attributes = .ok !spec.attributes.isEmpty := by
      have none : spec.attributes.find? (· != Tag.omitEmptyWord) = none :=
        List.find?_eq_none.mpr fun word member => by simp [known word member]
      rw [Tag.omitEmpty?, none]
    have added : map.add spec = .ok { map with
        parameterFields := map.parameterFields ++
          [⟨spec.name, id, name, !spec.attributes.isEmpty⟩] } := by
      rw [add, parameter.noRole]
      dsimp only
      rw [if_neg shown, addParameter_of_asks parameter, Tag.target_eq_iff.mpr targets,
        Tag.name_eq_ok_iff.mpr ⟨rfl, Tag.isName_iff_of_text.mpr isElementId⟩, ok_bind,
        Tag.name_eq_ok_iff.mpr ⟨rfl, Tag.isName_iff_of_text.mpr isName⟩, ok_bind, omitEmpty,
        ok_bind]
      rfl
    rw [addField, added]
    rfl
  refused known word more split isKnown unknown :=
    addField_eq_error_iff.mpr
      ⟨_, .unknownWord parameter targets isElementId isName split isKnown unknown, rfl⟩

/-- The element in force has a name. -/
theorem currentElementId_isName {identity : Identity} {typeName : Text} {specs : List FieldSpec}
    (declared : Declared identity typeName specs map) :
    (Value.text map.currentElementId).IsName true := by
  rw [← Tag.isName_iff_of_text, currentElementId]
  split
  · decide
  · next filled =>
      rw [List.isEmpty_iff] at filled
      exact declared.elementIdDefault.resolve_left filled

variable {identity : Identity} {typeName fieldName namePart : Text} {before : List FieldSpec}
  {attributes : List Text}

/-- A tag without a role that gives a parameter comes out with its element and its name, if they are
names. -/
theorem outcome_of_targets (classified : ofFields identity typeName before = .ok map)
    (noRole : Role.ofName? fieldName = none) (isPublic : Bool) (filled : namePart ≠ [])
    (whole : CodePoint.ofChar ',' ∉ namePart)
    (separate : ∀ word ∈ attributes, CodePoint.ofChar ',' ∉ word)
    (targets : Tag.Targets (elementIdBehind before) fieldName namePart id name)
    (isElementId : (Value.text id).IsName true) :
    let outcome := ofFields identity typeName
      (before ++ [⟨fieldName, Tag.written namePart attributes, isPublic⟩])
    ((Value.text name).IsName true → Yields map fieldName id name attributes outcome) ∧
      (¬(Value.text name).IsName true →
        outcome = .error ⟨map.recordType, fieldName, .parameterName name⟩) := by
  let spec : FieldSpec := ⟨fieldName, Tag.written namePart attributes, isPublic⟩
  have parts : Text.parts ',' spec.tag = (namePart, attributes) := Tag.parts_written whole separate
  have isNamePart : spec.namePart = namePart := congrArg Prod.fst parts
  have areAttributes : spec.attributes = attributes := congrArg Prod.snd parts
  have parameter : spec.AsksForParameter :=
    { noRole
      shown := fun hidden => filled (List.append_eq_nil_iff.mp hidden.1).1
      noBody := fun body => filled (isNamePart.symm.trans body.1) }
  rw [← isNamePart, ← (settled_of_ofFields classified).currentElementId_eq] at targets
  dsimp only
  rw [ofFields_append_singleton classified]
  constructor
  · intro isName
    have yields := yields_of_targets parameter targets isElementId isName
    rwa [areAttributes] at yields
  · intro invalid
    exact addField_eq_error_iff.mpr
      ⟨_, .parameterName parameter targets isElementId invalid, rfl⟩

/-- Elements and names that are made of words can be written in a tag, and are read from it.  Behind
any fields, and whatever the attributes, an element and a name give just these, an element alone or
with a space behind it gives that element and the name that is derived from that of the field, and a
name that does not begin like an element gives the element in force and just that name.  Nothing but
a derived name that is none is refused, apart from attributes. -/
theorem tags_express_elements_and_names
    (classified : ofFields identity typeName before = .ok map)
    (noRole : Role.ofName? fieldName = none) (isPublic : Bool)
    (isElement : Tag.IsElement id) (isWord : Tag.IsWord name)
    (separate : ∀ word ∈ attributes, CodePoint.ofChar ',' ∉ word) :
    let outcome namePart := ofFields identity typeName
      (before ++ [⟨fieldName, Tag.written namePart attributes, isPublic⟩])
    let derived := Tag.derivedName fieldName
    let space := CodePoint.ofChar ' '
    Yields map fieldName id name attributes (outcome (id ++ space :: name)) ∧
      (∀ namePart ∈ [id, id ++ [space]],
        ((Value.text derived).IsName true →
          Yields map fieldName id derived attributes (outcome namePart)) ∧
        (¬(Value.text derived).IsName true →
          outcome namePart = .error ⟨typeName, fieldName, .parameterName derived⟩)) ∧
      (¬Tag.IsNumbered name →
        Yields map fieldName (elementIdBehind before) name attributes (outcome name)) := by
  intro outcome derived space
  have settled := settled_of_ofFields classified
  have address := isElement.isAddress
  have isElementId := isElement.isWord.isName
  have givesName : Tag.nameOr fieldName name = name := if_neg isWord.filled
  have filled : ∀ behind : Text, id ++ behind ≠ [] :=
    List.append_ne_nil_of_left_ne_nil isElement.isWord.filled
  refine ⟨?_, ?_, ?_⟩
  · have both : Tag.Targets (elementIdBehind before) fieldName (id ++ space :: name) id
        (Tag.nameOr fieldName name) := .own (.named address isWord.newline_not_mem)
    rw [givesName] at both
    exact (outcome_of_targets classified noRole isPublic (filled _)
      (isElement.comma_not_mem isWord.comma_not_mem) separate both isElementId).1 isWord.isName
  · have alone : Tag.Targets (elementIdBehind before) fieldName id id derived :=
      .own (.alone address)
    have spaced : Tag.Targets (elementIdBehind before) fieldName (id ++ [space]) id derived :=
      .own (.named address List.not_mem_nil)
    rw [← settled.recordType]
    refine List.forall_mem_cons.mpr ⟨?_, List.forall_mem_singleton.mpr ?_⟩
    · exact outcome_of_targets classified noRole isPublic isElement.isWord.filled
        isElement.isWord.comma_not_mem separate alone isElementId
    · exact outcome_of_targets classified noRole isPublic (filled _)
        (isElement.comma_not_mem List.not_mem_nil) separate spaced isElementId
  · intro notNumbered
    have none : ∀ id own, ¬Tag.Gives id own name :=
      fun _ _ => Tag.not_gives_of_isWord isWord notNumbered
    have plain : Tag.Targets (elementIdBehind before) fieldName name (elementIdBehind before)
        (Tag.nameOr fieldName name) := .plain none
    have inForce : (Value.text (elementIdBehind before)).IsName true := by
      rw [← settled.currentElementId_eq]
      exact currentElementId_isName (Declared.ofFields classified)
    rw [givesName] at plain
    exact (outcome_of_targets classified noRole isPublic isWord.filled isWord.comma_not_mem
      separate plain inForce).1 isWord.isName

/-- An element with two marks, and a name with one. -/
theorem tags_express_elements_and_names_of_two_marks :
    let identity : Identity := ⟨"host", "app", "42"⟩
    let before : List FieldSpec := [{ name := "sd_id", tag := "9@x" }]
    let attributes : List Text := ["omitempty"]
    let outcome (namePart : Text) := ofFields identity "T"
      (before ++ [⟨"User", Tag.written namePart attributes, true⟩])
    ∃ map, ofFields identity "T" before = .ok map ∧
      Yields map "User" "12@a@b" "x@1" attributes (outcome "12@a@b x@1") ∧
      Yields map "User" "12@a@b" "user" attributes (outcome "12@a@b ") ∧
      Yields map "User" "9@x" "x@1" attributes (outcome "x@1") := by
  intro identity before attributes outcome
  have areDigits : ∀ c ∈ Text.ofString "12", 48 ≤ c.val ∧ c.val ≤ 57 := by decide
  have isElement : Tag.IsElement "12@a@b" := ⟨"12", "a@b", rfl, by decide, areDigits, by decide⟩
  have notNumbered : ¬Tag.IsNumbered "x@1" := by
    rintro ⟨digits, rest, same, hasDigits, areDigits, _⟩
    cases digits with
    | nil => exact hasDigits rfl
    | cons first others =>
        rw [← (List.cons.inj same).1] at areDigits
        exact absurd (areDigits _ List.mem_cons_self) (by decide)
  have isWord : Tag.IsWord "x@1" := by decide
  have separate : ∀ word ∈ attributes, CodePoint.ofChar ',' ∉ word := by decide
  have classified : ofFields identity "T" before = .ok _ := rfl
  have noRole : Role.ofName? "User" = none := rfl
  rcases tags_express_elements_and_names classified noRole true isElement isWord separate with
    ⟨both, alone, named⟩
  have derives : (Value.text (Tag.derivedName "User")).IsName true :=
    Tag.isName_iff_of_text.mp (by decide)
  exact ⟨_, classified, both, (alone _ (List.mem_cons_of_mem _ List.mem_cons_self)).1 derives,
    named notNumbered⟩

end FieldMap

end Syslog
