import Syslog.Proofs.Message.Constraint
import Syslog.Proofs.Message.Reading

namespace Syslog

/-!
# Messages under the cap

The cap on names is the only thing in which the strict check differs from the permissive one.  It
lets through what the permissive check lets through and what has short names only, in the same
checked form, so that the octets are the same as well (`Message.carries_false_iff`).  Which part is
reported when a check fails may differ between the two, and is of no concern here.

A message can be brought under the cap by leaving out the parameters with long names.  The element
of a parameter may be left empty by this, and then it goes as well.  Header and body stay as they
are, in the message and in what is read from its line.
-/

/-- A text that is short enough to be a name under the cap. -/
def Value.isShort : Value → Bool
  | .text content => content.length ≤ 32
  | _ => false

namespace Element

/-- The element with those of its parameters that have short names. -/
def capped (element : Element) : Element :=
  { element with parameters := element.parameters.filter (·.name.isShort) }

/-- The elements with such parameters only, where none is left without any. -/
def cappedAll (elements : List Element) : List Element :=
  (elements.map capped).filter (!·.parameters.isEmpty)

/-- Nothing but the parameters with long names is lost, and the others keep their order. -/
theorem parameters_cappedAll (elements : List Element) :
    (cappedAll elements).flatMap Element.parameters =
      (elements.flatMap Element.parameters).filter (·.name.isShort) := by
  induction elements with
  | nil => rfl
  | cons element rest inductionHypothesis =>
      rw [List.flatMap_cons, List.filter_append, ← inductionHypothesis, cappedAll, List.map_cons,
        List.filter_cons]
      split
      · rfl
      · next empty =>
          rw [Bool.not_eq_true, Bool.not_eq_false', List.isEmpty_iff] at empty
          exact (congrArg (· ++ _) empty).symm

end Element

namespace Message

/-- That all names of a message are texts of at most thirty-two characters. -/
def HasShortNames (message : Message) : Prop :=
  ∀ element ∈ message.structuredData, element.id.isShort = true ∧
    ∀ parameter ∈ element.parameters, parameter.name.isShort = true

/-- The message with the parameters only whose names are short. -/
def capped (message : Message) : Message :=
  { message with structuredData := Element.cappedAll message.structuredData }

end Message

namespace Reading

@[inherit_doc Message.capped]
def capped (reading : Reading) : Reading :=
  { reading with structuredData := Element.cappedAll reading.structuredData }

/-- That two lines differ by the parameters with long names, which only one of them has. -/
structure IsCapped (reading full : Reading) : Prop where
  head : reading = { full with structuredData := reading.structuredData }
  structuredData : reading.structuredData = Element.cappedAll full.structuredData
  parameters : reading.structuredData.flatMap Element.parameters =
    (full.structuredData.flatMap Element.parameters).filter (·.name.isShort)

theorem isCapped_capped (full : Reading) : full.capped.IsCapped full :=
  ⟨rfl, rfl, Element.parameters_cappedAll full.structuredData⟩

end Reading

namespace WireElement

@[inherit_doc Element.capped]
def capped (wire : WireElement) : WireElement :=
  { wire with parameters := wire.parameters.filter (·.name.text.length ≤ 32) }

theorem element_capped (wire : WireElement) : wire.capped.element = wire.element.capped := by
  rw [element, element, capped, Element.capped, List.filter_map]
  rfl

end WireElement

namespace WireMessage

@[inherit_doc Message.capped]
def capped (wire : WireMessage) : WireMessage :=
  { wire with
    structuredData := (wire.structuredData.map WireElement.capped).filter (!·.parameters.isEmpty) }

theorem elements_capped (wire : WireMessage) :
    wire.capped.structuredData.map WireElement.element =
      Element.cappedAll (wire.structuredData.map WireElement.element) := by
  have commutes : Element.capped ∘ WireElement.element = WireElement.element ∘ WireElement.capped :=
    funext fun wire => wire.element_capped.symm
  rw [Element.cappedAll, List.map_map, commutes, ← List.map_map, List.filter_map]
  refine congrArg _ (List.filter_congr fun wire _ => ?_)
  rw [Function.comp_apply, WireElement.element, List.isEmpty_map]

theorem reading_capped (wire : WireMessage) : wire.capped.reading = wire.reading.capped := by
  rw [reading, elements_capped]
  rfl

end WireMessage

/-! ## The two checks -/

theorem Text.isName_false_iff {text : Text} :
    text.isName false = true ↔ text.isName true = true ∧ text.length ≤ 32 := by
  simp only [Text.isName_iff, reduceCtorEq, false_implies, true_implies, true_and]
  tauto

theorem Value.isName_false_iff {value : Value} :
    value.IsName false ↔ value.IsName true ∧ value.isShort = true := by
  constructor
  · rintro ⟨text, rfl, filled, short, characters⟩
    exact ⟨⟨text, rfl, filled, nofun, characters⟩, decide_eq_true (short rfl)⟩
  · rintro ⟨⟨text, rfl, filled, _, characters⟩, short⟩
    exact ⟨text, rfl, filled, fun _ => of_decide_eq_true short, characters⟩

theorem WireElement.namesWithin_false_iff {wire : WireElement} :
    wire.NamesWithin false ↔ wire.id.text.length ≤ 32 ∧
      ∀ parameter ∈ wire.parameters, parameter.name.text.length ≤ 32 := by
  simp only [NamesWithin, Text.isName_false_iff, wire.id.valid, true_and]
  exact and_congr_right fun _ => forall₂_congr fun parameter _ =>
    and_iff_right parameter.name.valid

namespace Message

variable {message : Message} {wire : WireMessage}

theorem Carries.hasShortNames_iff (carries : message.Carries true wire) :
    message.HasShortNames ↔ ∀ element ∈ wire.structuredData, element.NamesWithin false := by
  rw [HasShortNames, carries.structuredData, List.forall_mem_map]
  refine forall₂_congr fun element _ => ?_
  rw [WireElement.namesWithin_false_iff, WireElement.element, List.forall_mem_map]
  simp only [WireParameter.parameter, Value.isShort, decide_eq_true_eq]

theorem carries_false_iff :
    message.Carries false wire ↔ message.Carries true wire ∧ message.HasShortNames := by
  constructor
  · intro carries
    have lifted : message.Carries true wire :=
      { carries with namesWithin := fun element member =>
          ⟨element.id.valid, fun parameter _ => parameter.name.valid⟩ }
    exact ⟨lifted, lifted.hasShortNames_iff.mpr carries.namesWithin⟩
  · rintro ⟨carries, short⟩
    exact { carries with namesWithin := carries.hasShortNames_iff.mp short }

/-- The cap decides over names only, and not over the octets. -/
theorem marshal_false_eq_ok_iff {octets : Bytes} : message.marshal false = .ok octets ↔
    message.marshal true = .ok octets ∧ message.HasShortNames := by
  simp only [marshal_eq_ok_iff, carries_false_iff]
  constructor
  · rintro ⟨wire, ⟨carries, short⟩, encoded⟩
    exact ⟨⟨wire, carries, encoded⟩, short⟩
  · rintro ⟨⟨wire, carries, encoded⟩, short⟩
    exact ⟨wire, ⟨carries, short⟩, encoded⟩

/-- A message that is accepted without the cap is accepted under it once its long-named parameters
have been left out, if the ids of its elements are short. -/
theorem Carries.capped (carries : message.Carries true wire)
    (short : ∀ element ∈ message.structuredData, element.id.isShort = true) :
    message.capped.Carries false wire.capped :=
  { carries with
    structuredData := by
      rw [WireMessage.elements_capped, ← carries.structuredData]
      rfl
    namesWithin := by
      intro element member
      rcases List.mem_map.mp (List.mem_of_mem_filter member) with ⟨original, inside, rfl⟩
      rw [carries.structuredData, List.forall_mem_map] at short
      refine WireElement.namesWithin_false_iff.mpr ⟨?_, fun parameter kept => ?_⟩
      · exact of_decide_eq_true (short original inside)
      · exact of_decide_eq_true (List.mem_filter.mp kept).2 }

end Message

end Syslog
