import Mathlib.Algebra.Group.Int.Defs
import Syslog.Proofs.Message.Decoded
import Syslog.Proofs.Value.Words
import Syslog.Value.ParameterText

namespace Syslog

/-!
# What cannot be written as JSON

A value has no JSON if there is an obstacle somewhere in it: an integer that needs more than 64
bits, a text without a UTF-8 form, a key that is not a text, a list or dictionary that stands
inside of too many containers, or a failure that cannot be put into words.  Obstacles are
described here as the parts of a value, and without the writer; the writer fails exactly if
there is one (`Value.exists_jsonAt_eq_error_iff`), and what it reports is always the kind of one
that is there.

Numbers and texts that stand alone are not written as JSON when they become parameters, so only
the obstacles inside of other values count for these, and an integer only for its digits.
-/

namespace Value

/-- The text of a value that is written as a JSON string. -/
def jsonString? : Value → Option Text
  | .text content => some content
  | .octets kind content => some (kind.quoted content)
  | .object display => some display
  | .failure kind argument => (inWords shown (.failure kind argument)).toOption
  | _ => none

/-- What the writer cannot get past, in a value that stands inside of `depth` containers. -/
inductive HasObstacle : JsonFault → (depth : Nat) → Value → Prop
  | integer {depth : Nat} {number : Int} (wide : number < -2 ^ 63 ∨ 2 ^ 64 ≤ number) :
      HasObstacle .integerRange depth (.int number)
  | surrogate {depth : Nat} {value : Value} {content : Text} {c : CodePoint}
      (isString : value.jsonString? = some content) (member : c ∈ content)
      (isSurrogate : 0xD800 ≤ c.val ∧ c.val ≤ 0xDFFF) : HasObstacle .surrogates depth value
  | wordless {depth : Nat} {kind : FailureKind} {argument : Value}
      (noWords : ¬(Value.failure kind argument).HasWords) :
      HasObstacle (.wordless kind.name) depth (.failure kind argument)
  | deepList {items : List Value} : HasObstacle .tooDeep 254 (.list items)
  | deepDict {entries : Entries} : HasObstacle .tooDeep 254 (.dict entries)
  | listItem {fault : JsonFault} {depth : Nat} {items : List Value} {item : Value}
      (member : item ∈ items) (inside : HasObstacle fault ((depth + 1) % 256) item) :
      HasObstacle fault depth (.list items)
  | tupleItem {fault : JsonFault} {depth : Nat} {items : List Value} {item : Value}
      (member : item ∈ items) (inside : HasObstacle fault ((depth + 1) % 256) item) :
      HasObstacle fault depth (.tuple items)
  | keyKind {depth : Nat} {entries : Entries} {key value : Value}
      (member : (key, value) ∈ entries) (notText : key.text? = none) :
      HasObstacle .keyKind depth (.dict entries)
  | key {depth : Nat} {entries : Entries} {name : Text} {value : Value} {c : CodePoint}
      (member : (.text name, value) ∈ entries) (inside : c ∈ name)
      (isSurrogate : 0xD800 ≤ c.val ∧ c.val ≤ 0xDFFF) :
      HasObstacle .surrogates depth (.dict entries)
  | content {fault : JsonFault} {depth : Nat} {entries : Entries} {key value : Value}
      (member : (key, value) ∈ entries) (inside : HasObstacle fault ((depth + 1) % 256) value) :
      HasObstacle fault depth (.dict entries)

variable {fault : JsonFault} {depth : Nat}

/-- What stands in the way in a dictionary also does so in one with an entry more. -/
theorem HasObstacle.cons_dict {entries : Entries}
    (obstacle : HasObstacle fault depth (.dict entries)) (entry : Value × Value) :
    HasObstacle fault depth (.dict (entry :: entries)) := by
  cases obstacle with
  | surrogate isString => cases isString
  | deepDict => exact .deepDict
  | keyKind member notText => exact .keyKind (List.mem_cons_of_mem _ member) notText
  | key member inside isSurrogate => exact .key (List.mem_cons_of_mem _ member) inside isSurrogate
  | content member inside => exact .content (List.mem_cons_of_mem _ member) inside

/-! ## The leaves -/

theorem exists_surrogate_of_not_isEncodable {content : Text}
    (refused : ¬content.isEncodable = true) :
    ∃ c ∈ content, 0xD800 ≤ c.val ∧ c.val ≤ 0xDFFF := by
  rw [Text.isEncodable_iff] at refused
  push Not at refused
  exact refused

theorem string_eq_error_iff {content : Text} :
    Json.string content = .error fault ↔
      fault = .surrogates ∧ ∃ c ∈ content, 0xD800 ≤ c.val ∧ c.val ≤ 0xDFFF := by
  rw [Json.string]
  split
  · next encodable =>
      simp only [reduceCtorEq, false_iff]
      rintro ⟨_, c, member, surrogate⟩
      have scalar := Text.isEncodable_iff.mp encodable c member
      omega
  · next refused =>
      rw [Except.error.injEq, eq_comm]
      exact (and_iff_left (exists_surrogate_of_not_isEncodable refused)).symm

theorem integer_eq_error_iff {number : Int} :
    Json.integer number = .error fault ↔
      fault = .integerRange ∧ (number < -2 ^ 63 ∨ 2 ^ 64 ≤ number) := by
  have low : (Nat.pow 2 63 : Int) = 2 ^ 63 := by norm_cast
  have high : (Nat.pow 2 64 : Int) = 2 ^ 64 := by norm_cast
  rw [Json.integer, low, high]
  split
  · next inside =>
      simp only [reduceCtorEq, false_iff]
      omega
  · next outside =>
      rw [Except.error.injEq, eq_comm]
      exact (and_iff_left (by omega)).symm

theorem jsonString?_failure_eq_some_iff {kind : FailureKind} {argument : Value} {content : Text} :
    jsonString? (.failure kind argument) = some content ↔
      inWords shown (.failure kind argument) = .ok content := by
  rw [jsonString?]
  cases inWords shown (.failure kind argument) <;> simp [Except.toOption]

theorem jsonAt_of_jsonString? {value : Value} {content : Text}
    (isString : value.jsonString? = some content) : value.jsonAt depth = Json.string content := by
  cases value with
  | text _ | octets _ _ | object _ =>
      cases isString
      simp only [jsonAt]
  | failure kind argument => rw [jsonAt, jsonString?_failure_eq_some_iff.mp isString]
  | _ => cases isString

/-- A value that is written as a string fails by a surrogate in it. -/
theorem hasObstacle_of_string {value : Value} {content : Text}
    (isString : value.jsonString? = some content) (failed : value.jsonAt depth = .error fault) :
    HasObstacle fault depth value := by
  rw [jsonAt_of_jsonString? isString] at failed
  rcases string_eq_error_iff.mp failed with ⟨rfl, c, member, isSurrogate⟩
  exact .surrogate isString member isSurrogate

/-! ## What is reported is there -/

mutual

theorem hasObstacle_of_jsonAt : ∀ (depth : Nat) (value : Value),
    value.jsonAt depth = .error fault → HasObstacle fault depth value
  | _, .null, failed | _, .bool true, failed | _, .bool false, failed | _, .float _, failed
  | _, .time _, failed => by simp only [jsonAt, reduceCtorEq] at failed
  | _, .int _, failed => by
      rw [jsonAt] at failed
      rcases integer_eq_error_iff.mp failed with ⟨rfl, wide⟩
      exact .integer wide
  | _, .text _, failed | _, .octets _ _, failed | _, .object _, failed =>
      hasObstacle_of_string rfl failed
  | _, .failure kind argument, failed => by
      cases worded : inWords shown (.failure kind argument) with
      | ok content =>
          exact hasObstacle_of_string (jsonString?_failure_eq_some_iff.mpr worded) failed
      | error obstacle =>
          rw [jsonAt, worded] at failed
          cases failed
          exact .wordless (exists_inWords_eq_error_iff.mp ⟨obstacle, worded⟩)
  | depth, .list items, failed => by
      rw [jsonAt] at failed
      split at failed
      · next full =>
          cases failed
          cases full
          exact .deepList
      · rcases exists_of_jsonItems _ items (map_eq_error_iff.mp failed) with ⟨item, member, inside⟩
        exact .listItem member inside
  | depth, .tuple items, failed => by
      rw [jsonAt] at failed
      rcases exists_of_jsonItems _ items (map_eq_error_iff.mp failed) with ⟨item, member, inside⟩
      exact .tupleItem member inside
  | depth, .dict entries, failed => by
      rw [jsonAt] at failed
      split at failed
      · next full =>
          cases failed
          cases full
          exact .deepDict
      · exact hasObstacle_of_jsonEntries depth entries (map_eq_error_iff.mp failed)

theorem exists_of_jsonItems : ∀ (depth : Nat) (items : List Value),
    jsonItems depth items = .error fault → ∃ item ∈ items, HasObstacle fault depth item
  | _, [], failed => by cases failed
  | depth, item :: rest, failed => by
      rw [jsonItems, bind_eq_error_iff] at failed
      rcases failed with first | ⟨_, _, later⟩
      · exact ⟨item, List.mem_cons_self, hasObstacle_of_jsonAt depth item first⟩
      · rcases bind_eq_error_iff.mp later with others | ⟨_, _, impossible⟩
        · rcases exists_of_jsonItems depth rest others with ⟨found, member, inside⟩
          exact ⟨found, List.mem_cons_of_mem _ member, inside⟩
        · cases impossible

theorem hasObstacle_of_jsonEntries : ∀ (depth : Nat) (entries : Entries),
    jsonEntries (Json.deeper depth) entries = .error fault →
      HasObstacle fault depth (.dict entries)
  | _, [], failed => by cases failed
  | depth, (.text name, value) :: rest, failed => by
      rw [jsonEntries, bind_eq_error_iff] at failed
      rcases failed with badName | ⟨_, _, later⟩
      · rcases string_eq_error_iff.mp badName with ⟨rfl, c, inside, isSurrogate⟩
        exact .key List.mem_cons_self inside isSurrogate
      · rcases bind_eq_error_iff.mp later with badValue | ⟨_, _, last⟩
        · exact .content List.mem_cons_self (hasObstacle_of_jsonAt _ value badValue)
        · rcases bind_eq_error_iff.mp last with others | ⟨_, _, impossible⟩
          · exact (hasObstacle_of_jsonEntries depth rest others).cons_dict _
          · cases impossible
  | _, (.null, _) :: _, failed | _, (.bool _, _) :: _, failed | _, (.int _, _) :: _, failed
  | _, (.float _, _) :: _, failed | _, (.octets _ _, _) :: _, failed
  | _, (.list _, _) :: _, failed | _, (.tuple _, _) :: _, failed | _, (.dict _, _) :: _, failed
  | _, (.time _, _) :: _, failed | _, (.object _, _) :: _, failed
  | _, (.failure _ _, _) :: _, failed => by
      cases failed
      exact .keyKind List.mem_cons_self rfl

end

/-! ## What is there is reported -/

theorem exists_of_written_list {items : List Value} {text : Text}
    (written : jsonAt depth (.list items) = .ok text) :
    ∃ parts, jsonItems (Json.deeper depth) items = .ok parts := by
  rw [jsonAt] at written
  split at written
  · cases written
  · rcases map_eq_ok_iff.mp written with ⟨parts, writtenItems, _⟩
    exact ⟨parts, writtenItems⟩

theorem exists_of_written_dict {entries : Entries} {text : Text}
    (written : jsonAt depth (.dict entries) = .ok text) :
    ∃ parts, jsonEntries (Json.deeper depth) entries = .ok parts := by
  rw [jsonAt] at written
  split at written
  · cases written
  · rcases map_eq_ok_iff.mp written with ⟨parts, writtenEntries, _⟩
    exact ⟨parts, writtenEntries⟩

theorem exists_json_of_mem_items {depth : Nat} {items : List Value} {parts : List Text}
    (written : jsonItems depth items = .ok parts) {item : Value} (member : item ∈ items) :
    ∃ text, item.jsonAt depth = .ok text := by
  induction items generalizing parts with
  | nil => cases member
  | cons first rest inductionHypothesis =>
      rw [jsonItems, bind_eq_ok_iff] at written
      rcases written with ⟨text, writtenFirst, later⟩
      rcases bind_eq_ok_iff.mp later with ⟨texts, writtenOthers, _⟩
      rcases List.mem_cons.mp member with rfl | member
      · exact ⟨text, writtenFirst⟩
      · exact inductionHypothesis writtenOthers member

theorem exists_json_of_mem_entries {depth : Nat} {entries : Entries} {parts : List Text}
    (written : jsonEntries depth entries = .ok parts) {key value : Value}
    (member : (key, value) ∈ entries) :
    ∃ name quoted text, key = .text name ∧ Json.string name = .ok quoted ∧
      value.jsonAt depth = .ok text := by
  induction entries generalizing parts with
  | nil => cases member
  | cons first rest inductionHypothesis =>
      rcases first with ⟨firstKey, firstValue⟩
      cases firstKey with
      | text name =>
          rw [jsonEntries, bind_eq_ok_iff] at written
          rcases written with ⟨quoted, writtenName, later⟩
          rcases bind_eq_ok_iff.mp later with ⟨text, writtenValue, last⟩
          rcases bind_eq_ok_iff.mp last with ⟨texts, writtenOthers, _⟩
          rcases List.mem_cons.mp member with same | member
          · cases same
            exact ⟨name, quoted, text, rfl, writtenName, writtenValue⟩
          · exact inductionHypothesis writtenOthers member
      | _ => cases written

/-- Nothing stands in the way of a value that is written; the induction is on where the obstacle
would be. -/
theorem HasObstacle.not_written {value : Value} (obstacle : HasObstacle fault depth value)
    (text : Text) : value.jsonAt depth ≠ .ok text := by
  induction obstacle generalizing text with
  | integer wide =>
      rw [jsonAt, integer_eq_error_iff.mpr ⟨rfl, wide⟩]
      exact nofun
  | surrogate isString member isSurrogate =>
      rw [jsonAt_of_jsonString? isString, string_eq_error_iff.mpr ⟨rfl, _, member, isSurrogate⟩]
      exact nofun
  | wordless noWords =>
      rcases exists_inWords_eq_error_iff.mpr noWords with ⟨obstacle, unworded⟩
      rw [jsonAt, unworded]
      exact nofun
  | deepList =>
      rw [jsonAt, if_pos (show 254 = Json.depthLimit from rfl)]
      exact nofun
  | deepDict =>
      rw [jsonAt, if_pos (show 254 = Json.depthLimit from rfl)]
      exact nofun
  | listItem member _ inductionHypothesis =>
      intro written
      rcases exists_of_written_list written with ⟨parts, writtenItems⟩
      rcases exists_json_of_mem_items writtenItems member with ⟨inner, writtenItem⟩
      exact inductionHypothesis inner writtenItem
  | tupleItem member _ inductionHypothesis =>
      intro written
      rw [jsonAt] at written
      rcases map_eq_ok_iff.mp written with ⟨parts, writtenItems, _⟩
      rcases exists_json_of_mem_items writtenItems member with ⟨inner, writtenItem⟩
      exact inductionHypothesis inner writtenItem
  | keyKind member notText =>
      intro written
      rcases exists_of_written_dict written with ⟨parts, writtenEntries⟩
      rcases exists_json_of_mem_entries writtenEntries member with ⟨_, _, _, rfl, _⟩
      cases notText
  | key member inside isSurrogate =>
      intro written
      rcases exists_of_written_dict written with ⟨parts, writtenEntries⟩
      rcases exists_json_of_mem_entries writtenEntries member with ⟨_, _, _, same, quoted, _⟩
      cases same
      rw [string_eq_error_iff.mpr ⟨rfl, _, inside, isSurrogate⟩] at quoted
      cases quoted
  | content member _ inductionHypothesis =>
      intro written
      rcases exists_of_written_dict written with ⟨parts, writtenEntries⟩
      rcases exists_json_of_mem_entries writtenEntries member with ⟨_, _, inner, _, _, writtenValue⟩
      exact inductionHypothesis inner writtenValue

/-- A value cannot be written exactly if there is an obstacle in it. -/
theorem exists_jsonAt_eq_error_iff {value : Value} :
    (∃ fault, value.jsonAt depth = .error fault) ↔ ∃ fault, HasObstacle fault depth value := by
  constructor
  · rintro ⟨fault, failed⟩
    exact ⟨fault, hasObstacle_of_jsonAt depth value failed⟩
  · rintro ⟨fault, obstacle⟩
    cases written : value.jsonAt depth with
    | error reported => exact ⟨reported, rfl⟩
    | ok text => exact absurd written (obstacle.not_written text)

/-! ## Values of parameters -/

/-- Values that are written as JSON when they become parameters: those with parts, and those
without a text of their own. -/
def IsWrittenAsJson : Value → Prop
  | .list _ | .tuple _ | .dict _ | .octets .view _ | .time _ | .object _ | .failure _ _ => True
  | _ => False

/-- What keeps a value from becoming a parameter: an obstacle to its JSON, if it is written so, or
too many digits. -/
inductive Obstructs : Fault → Value → Prop
  | json {fault : JsonFault} {value : Value} (asJson : value.IsWrittenAsJson)
      (obstacle : HasObstacle fault 0 value) : Obstructs (.json fault) value
  | digits {number : Int} (wide : 10 ^ digitLimit ≤ number.natAbs) :
      Obstructs (.words .tooManyDigits) (.int number)

theorem parameterText_of_isWrittenAsJson {value : Value} (asJson : value.IsWrittenAsJson) :
    value.parameterText = value.json.mapError Fault.json := by
  cases value with
  | octets kind content =>
      cases kind with
      | view => rfl
      | _ => cases asJson
  | list _ | tuple _ | dict _ | time _ | object _ | failure _ _ => rfl
  | _ => cases asJson

theorem obstructs_of_parameterText {value : Value} {fault : Fault}
    (failed : value.parameterText = .error fault) : Obstructs fault value := by
  by_cases asJson : value.IsWrittenAsJson
  · rw [parameterText_of_isWrittenAsJson asJson] at failed
    rcases mapError_eq_error_iff.mp failed with ⟨cause, unwritten, rfl⟩
    exact .json asJson (hasObstacle_of_jsonAt 0 value unwritten)
  · cases value with
    | int number =>
        rcases mapError_eq_error_iff.mp failed with ⟨cause, unworded, rfl⟩
        rcases WordsFault.ofInteger?_eq_some_iff.mp (inWords_eq_error_iff.mp unworded) with
          ⟨rfl, wide⟩
        exact .digits wide
    | bool truth => cases truth <;> cases failed
    | octets kind content =>
        cases kind with
        | view => exact absurd trivial asJson
        | _ => cases failed
    | null | text _ | float _ => cases failed
    | _ => exact absurd trivial asJson

theorem exists_parameterText_eq_error_iff {value : Value} :
    (∃ fault, value.parameterText = .error fault) ↔ ∃ fault, Obstructs fault value := by
  constructor
  · rintro ⟨fault, failed⟩
    exact ⟨fault, obstructs_of_parameterText failed⟩
  · rintro ⟨fault, obstructs⟩
    cases obstructs with
    | json asJson obstacle =>
        rcases exists_jsonAt_eq_error_iff.mpr ⟨_, obstacle⟩ with ⟨reported, failed⟩
        rw [parameterText_of_isWrittenAsJson asJson]
        exact ⟨_, mapError_eq_error_iff.mpr ⟨reported, failed, rfl⟩⟩
    | digits wide =>
        have refused := WordsFault.ofInteger?_eq_some_iff.mpr ⟨rfl, wide⟩
        exact ⟨_, mapError_eq_error_iff.mpr ⟨_, inWords_eq_error_iff.mpr refused, rfl⟩⟩

end Value

end Syslog
