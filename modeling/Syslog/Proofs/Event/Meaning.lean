import Syslog.Event.Renderer
import Syslog.Proofs.Message.Constraint
import Syslog.Proofs.Message.Decoded
import Syslog.Proofs.Value.Words

namespace Syslog

/-!
# What an event says

A renderer reads an event under seven keys, and every other key that is a name becomes a
parameter.  What is read is stated here key by key and without reference to the renderer: which
integer counts as the severity, what is displayed in a field of the header, which value is the
body, and which entries are written, in which order.  A level or a value that cannot be put into
words stands for nothing and is not displayed.

Each reader of the renderer is then shown to read just that, so that what is said of lines
elsewhere can be said of events.
-/

namespace Event

/-- The severity of an event that was logged by a method: an integer of its own, or else that of
its level, which is the method if none is given. -/
inductive HasSeverity (method : Text) (event : Event) : Int → Prop
  | own {code : Int} (given : event.valueOf? "severity" = some (.int code)) :
      HasSeverity method event code
  | ofLevel {severity : Severity} (absent : ∀ code, event.valueOf? "severity" ≠ some (.int code))
      (stands : Severity.ofLevel ((event.valueOf? "level").getD (.text method)) = .ok severity) :
      HasSeverity method event severity.code

/-- What is displayed of the value under a key, or the default if that is absent or empty. -/
inductive Displays (event : Event) (key : String) (default : Text) : Text → Prop
  | own {value : Value} (given : event.valueOf? key = some value)
      (filled : value.isEmpty = false) (hasWords : value.HasWords) :
      Displays event key default value.shown
  | default (lacking : ∀ value, event.valueOf? key = some value → value.isEmpty = true) :
      Displays event key default default

/-- The value under a key, where null counts as absent. -/
def present? (event : Event) (key : String) : Option Value :=
  (event.valueOf? key).filter (!·.isNull)

/-- The value that the body displays: the message, or else the event. -/
def bodyValue? (event : Event) : Option Value :=
  (event.present? "message").or (event.present? "event")

/-- The keys that are read for something else than the time. -/
def readKeys : List Text := ["level", "severity", "message", "event", "app_name", "msg_id"]

def IsReadKey (key : Value) : Prop := ∃ word ∈ readKeys, key = .text word

/-- A key whose entry becomes a parameter: a name that is not read for anything else. -/
def IsParameterKey (allowLong : Bool) (key : Value) : Prop :=
  key.IsName allowLong ∧ ¬IsReadKey key ∧ key ≠ .text "timestamp"

/-- The parameters that an event is written with: one for each entry that becomes a parameter, in
the order of the entries. -/
inductive Writes (allowLong : Bool) : Event → List Parameter → Prop
  | nil : Writes allowLong [] []
  | keep {key value : Value} {text : Text} {rest : Event} {parameters : List Parameter}
      (kept : IsParameterKey allowLong key) (written : value.parameterText = .ok text)
      (more : Writes allowLong rest parameters) :
      Writes allowLong ((key, value) :: rest) (⟨key, .text text⟩ :: parameters)
  | skip {key value : Value} {rest : Event} {parameters : List Parameter}
      (skipped : ¬IsParameterKey allowLong key) (more : Writes allowLong rest parameters) :
      Writes allowLong ((key, value) :: rest) parameters

variable {allowLong : Bool} {method : Text} {event : Event}

/-! ## The head and the body -/

theorem hasSeverity_iff {code : Int} :
    event.HasSeverity method code ↔ Renderer.severity method event = .ok code := by
  constructor
  · intro has
    cases has with
    | own given => simp only [Renderer.severity, given, Option.bind_some, Value.int?]
    | ofLevel absent stands =>
        have noInteger : (event.valueOf? "severity").bind Value.int? = none := by
          rw [Option.bind_eq_none_iff]
          intro value given
          cases value with
          | int number => exact absurd given (absent number)
          | _ => rfl
        simp only [Renderer.severity, noInteger, stands]
        rfl
  · intro isSeverity
    rw [Renderer.severity] at isSeverity
    split at isSeverity
    · next code found =>
        cases isSeverity
        rcases Option.bind_eq_some_iff.mp found with ⟨value, given, isInteger⟩
        cases value with
        | int number =>
            cases isInteger
            exact .own given
        | _ => cases isInteger
    · next noInteger =>
        rcases map_eq_ok_iff.mp isSeverity with ⟨severity, stands, rfl⟩
        refine .ofLevel (fun code given => ?_) stands
        rw [given] at noInteger
        cases noInteger

theorem displays_iff {key : String} {default text : Text} :
    event.Displays key default text ↔ Renderer.textOf event key default = .ok text := by
  constructor
  · intro displays
    cases displays with
    | own given filled hasWords =>
        simp only [Renderer.textOf, given, filled, Bool.false_eq_true, if_false]
        exact Value.inWords_eq_ok_iff_hasWords.mpr ⟨hasWords, rfl⟩
    | default lacking =>
        rw [Renderer.textOf]
        split
        · next value given => exact if_pos (lacking value given)
        · rfl
  · intro isText
    rw [Renderer.textOf] at isText
    split at isText
    · next value given =>
        split at isText
        · next empty =>
            cases isText
            refine .default fun other givenOther => ?_
            cases given.symm.trans givenOther
            exact empty
        · next filled =>
            rcases Value.inWords_eq_ok_iff_hasWords.mp isText with ⟨hasWords, rfl⟩
            exact .own given (Bool.eq_false_iff.mpr filled) hasWords
    · next absent =>
        cases isText
        refine .default fun value given => ?_
        rw [given] at absent
        cases absent

theorem ne_null_of_present? {key : String} {value : Value}
    (present : event.present? key = some value) : value ≠ .null := by
  rintro rfl
  rw [present?, Option.filter_eq_some_iff] at present
  exact absurd present.2 (by decide)

theorem bodyValue_eq (event : Event) :
    Renderer.bodyValue event = event.bodyValue?.getD .null := by
  rw [Renderer.bodyValue, bodyValue?, present?, present?]
  cases event.valueOf? "message" with
  | none =>
      cases event.valueOf? "event" with
      | none => rfl
      | some value => cases value <;> rfl
  | some value =>
      cases value with
      | null =>
          cases event.valueOf? "event" with
          | none => rfl
          | some value => cases value <;> rfl
      | _ => rfl

/-- The octets of the body are those of what its value displays, if it displays anything. -/
theorem body_eq_ok_iff {octets : Bytes} :
    Renderer.body event = .ok octets ↔
      (event.bodyValue? = none ∧ octets = []) ∨
        ∃ value, event.bodyValue? = some value ∧ value.HasWords ∧
          value.shown.isEncodable = true ∧ value.shown.utf8 = octets := by
  rw [Renderer.body, bodyValue_eq]
  cases found : event.bodyValue? with
  | none =>
      simp only [Option.getD_none, true_and, reduceCtorEq, false_and, exists_false, or_false,
        Except.ok.injEq]
      exact eq_comm
  | some value =>
      have notNull : value ≠ .null := by
        rw [bodyValue?, Option.or_eq_some_iff] at found
        rcases found with present | ⟨_, present⟩ <;> exact ne_null_of_present? present
      simp only [Option.getD_some, bind_eq_ok_iff, mapError_eq_ok_iff,
        Value.inWords_eq_ok_iff_hasWords, Text.encode_eq_ok_iff, and_assoc, exists_and_left,
        exists_eq_left', reduceCtorEq, false_and, false_or, Option.some.injEq]

/-! ## The parameters -/

theorem isReadKey_text_iff {name : Text} : IsReadKey (.text name) ↔ name ∈ readKeys := by
  simp only [IsReadKey, Value.text.injEq, exists_eq_right']

theorem mem_reservedKeys_iff {name : Text} :
    name ∈ Renderer.reservedKeys ↔ name ∈ readKeys ∨ name = "timestamp" := by
  have moved : ∀ a b c d e f g : Text,
      name ∈ [a, b, c, d, e, f, g] ↔ name ∈ [a, b, c, d, f, g] ∨ name = e := by
    intro a b c d e f g
    simp only [List.mem_cons, List.not_mem_nil, or_false]
    tauto
  exact moved _ _ _ _ _ _ _

theorem parameterName?_eq_some_iff {key : Value} {name : Text} :
    Renderer.parameterName? allowLong key = some name ↔
      key = .text name ∧ IsParameterKey allowLong key := by
  cases key with
  | text text =>
      have isName : (Value.text text).IsName allowLong ↔ text.isName allowLong = true := by
        rw [Text.isName_iff]
        simp only [Value.IsName, Value.text.injEq, exists_eq_left']
      have free : (!Renderer.reservedKeys.contains text) = true ↔
          ¬IsReadKey (.text text) ∧ Value.text text ≠ .text "timestamp" := by
        rw [Bool.not_eq_true', Bool.eq_false_iff, ne_eq, List.contains_iff_mem,
          mem_reservedKeys_iff, not_or, isReadKey_text_iff, ne_eq, Value.text.injEq]
      rw [Renderer.parameterName?, IsParameterKey, isName, ← free, Value.text.injEq]
      split
      · next kept =>
          rw [Bool.and_eq_true] at kept
          simp only [Option.some.injEq, kept, and_self, and_true]
      · next dropped =>
          rw [Bool.and_eq_true] at dropped
          simp only [reduceCtorEq, false_iff]
          rintro ⟨_, name, free⟩
          exact dropped ⟨free, name⟩
  | _ =>
      simp only [Renderer.parameterName?, reduceCtorEq, false_and]

theorem parameterName?_of_isParameterKey {key : Value} (kept : IsParameterKey allowLong key) :
    ∃ name, key = .text name ∧ Renderer.parameterName? allowLong key = some name := by
  rcases kept.1 with ⟨name, rfl, _⟩
  exact ⟨name, rfl, parameterName?_eq_some_iff.mpr ⟨rfl, kept⟩⟩

theorem parameterName?_of_not_isParameterKey {key : Value}
    (skipped : ¬IsParameterKey allowLong key) : Renderer.parameterName? allowLong key = none := by
  rw [Option.eq_none_iff_forall_ne_some]
  intro name found
  exact skipped (parameterName?_eq_some_iff.mp found).2

/-- What the renderer makes of the entries is what the event is written with. -/
theorem writes_iff {parameters : List Parameter} :
    Writes allowLong event parameters ↔ Renderer.parameters allowLong event = .ok parameters := by
  constructor
  · intro writes
    induction writes with
    | nil => rfl
    | keep kept written _ inductionHypothesis =>
        rcases parameterName?_of_isParameterKey kept with ⟨name, rfl, found⟩
        simp only [Renderer.parameters, found, bind_eq_ok_iff]
        exact ⟨_, written, _, inductionHypothesis, rfl⟩
    | skip skipped _ inductionHypothesis =>
        simp only [Renderer.parameters, parameterName?_of_not_isParameterKey skipped]
        exact inductionHypothesis
  · intro found
    induction event generalizing parameters with
    | nil =>
        cases found
        exact .nil
    | cons entry rest inductionHypothesis =>
        rcases entry with ⟨key, value⟩
        by_cases kept : IsParameterKey allowLong key
        · rcases parameterName?_of_isParameterKey kept with ⟨name, rfl, isName⟩
          simp only [Renderer.parameters, isName, bind_eq_ok_iff] at found
          rcases found with ⟨text, written, others, foundOthers, same⟩
          cases same
          exact .keep kept written (inductionHypothesis foundOthers)
        · simp only [Renderer.parameters, parameterName?_of_not_isParameterKey kept] at found
          exact .skip kept (inductionHypothesis found)

theorem Writes.unique {others : List Parameter} (writes : Writes allowLong event parameters)
    (writesOthers : Writes allowLong event others) : parameters = others :=
  Except.ok.inj ((writes_iff.mp writes).symm.trans (writes_iff.mp writesOthers))

/-- An event can be written if the value of each entry that is kept has a text. -/
theorem exists_writes_iff :
    (∃ parameters, Writes allowLong event parameters) ↔
      ∀ entry ∈ event, IsParameterKey allowLong entry.1 →
        ∃ text, entry.2.parameterText = .ok text := by
  constructor
  · rintro ⟨parameters, writes⟩
    induction writes with
    | nil => exact List.forall_mem_nil _
    | keep _ written _ inductionHypothesis =>
        exact List.forall_mem_cons.mpr ⟨fun _ => ⟨_, written⟩, inductionHypothesis⟩
    | skip skipped _ inductionHypothesis =>
        exact List.forall_mem_cons.mpr ⟨fun kept => absurd kept skipped, inductionHypothesis⟩
  · intro texts
    induction event with
    | nil => exact ⟨[], .nil⟩
    | cons entry rest inductionHypothesis =>
        rcases List.forall_mem_cons.mp texts with ⟨first, others⟩
        rcases inductionHypothesis others with ⟨parameters, writes⟩
        by_cases kept : IsParameterKey allowLong entry.1
        · rcases first kept with ⟨text, written⟩
          exact ⟨_, .keep kept written writes⟩
        · exact ⟨parameters, .skip kept writes⟩

/-- The parameters are the entries that are kept, with the texts of their values. -/
theorem Writes.mem_iff {parameters : List Parameter} (writes : Writes allowLong event parameters)
    {parameter : Parameter} :
    parameter ∈ parameters ↔
      ∃ entry ∈ event, IsParameterKey allowLong entry.1 ∧ parameter.name = entry.1 ∧
        ∃ text, entry.2.parameterText = .ok text ∧ parameter.value = .text text := by
  induction writes with
  | nil => simp
  | @keep key value text _ _ kept written _ inductionHypothesis =>
      have first : parameter = ⟨key, .text text⟩ ↔
          IsParameterKey allowLong key ∧ parameter.name = key ∧
            ∃ text, value.parameterText = .ok text ∧ parameter.value = .text text := by
        cases parameter
        simp [kept, written]
      rw [List.mem_cons, inductionHypothesis, first]
      simp only [List.mem_cons, exists_eq_or_imp]
  | @skip key value _ _ skipped _ inductionHypothesis =>
      rw [inductionHypothesis]
      simp only [List.mem_cons, exists_eq_or_imp, skipped, false_and, false_or]

theorem Writes.exists_of_kept {parameters : List Parameter}
    (writes : Writes allowLong event parameters) {entry : Value × Value} (member : entry ∈ event)
    (kept : IsParameterKey allowLong entry.1) :
    ∃ text, entry.2.parameterText = .ok text ∧
      (⟨entry.1, .text text⟩ : Parameter) ∈ parameters := by
  rcases exists_writes_iff.mp ⟨parameters, writes⟩ entry member kept with ⟨text, written⟩
  exact ⟨text, written, writes.mem_iff.mpr ⟨entry, member, kept, rfl, text, written, rfl⟩⟩

end Event

end Syslog
