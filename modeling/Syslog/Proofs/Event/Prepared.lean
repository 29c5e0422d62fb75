import Syslog.Logging.Preparation
import Syslog.Proofs.Message.Accepted
import Syslog.Proofs.Value.Entries
import Syslog.Proofs.Value.Words

namespace Syslog

/-!
# What preparation leaves in an event

On its way to the renderer an event loses some entries and gets others, and fixed octets in it
become texts.  Entries come and go under a few keys only (`Event.rewrittenKeys`).  Under any other
key a handler finds what the event held, and under that of the application what it held or else
what its origin says (`Event.valueOf?_of_prepared`).
-/

/-- What becomes of a value: fixed octets become a text, and all else stays. -/
def Value.decoded : Value → Value
  | .octets .fixed content => .text (Utf8.decodeReplacing content)
  | value => value

namespace Event

/-- The keys under which preparation writes, or takes away, something of its own. -/
def rewrittenKeys : List String :=
  ["logger", "level", "severity", "positional_args", "event", "timestamp", "stack_info", "message",
    "_record", "_from_structlog", "exc_info", "exception"]

/-- That a key is none of some others. -/
def IsApart (key : String) (others : List String) : Prop :=
  ∀ changed ∈ others, Text.ofString key ≠ Text.ofString changed

instance (key : String) (others : List String) : Decidable (IsApart key others) :=
  inferInstanceAs (Decidable (∀ changed ∈ others, _))

/-- That a key is none of those that preparation has a use for. -/
abbrev IsLeft (key : String) : Prop := IsApart key rewrittenKeys

variable {key changed : String} {event next : Event} {origin : EventOrigin}

theorem IsApart.mono {others fewer : List String} (apart : IsApart key others)
    (within : fewer ⊆ others) : IsApart key fewer :=
  fun changed member => apart changed (within member)

/-! ## Single steps -/

theorem valueOf?_put_of_ne (other : Text.ofString key ≠ Text.ofString changed) (event : Event)
    (value : Value) : (event.put changed value).valueOf? key = event.valueOf? key := by
  rw [valueOf?_put, if_neg other]

theorem valueOf?_remove_of_ne (other : Text.ofString key ≠ Text.ofString changed) (event : Event) :
    (event.remove changed).valueOf? key = event.valueOf? key := by
  rw [valueOf?_remove, if_neg other]

theorem valueOf?_putNew (event : Event) (added key : String) (value : Value) :
    (event.putNew added value).valueOf? key =
      if Text.ofString key = Text.ofString added then some ((event.valueOf? added).getD value)
      else event.valueOf? key := by
  rw [putNew, Entries.insertNew, Entries.contains_eq_isSome]
  change valueOf? (if (event.valueOf? added).isSome = true then event else event.put added value)
    key = _
  cases found : event.valueOf? added with
  | none =>
      rw [if_neg (by simp), valueOf?_put]
      rfl
  | some present =>
      rw [if_pos (by simp)]
      split
      · next same =>
          rw [valueOf?, same]
          exact found
      · rfl

theorem decodeOctets_eq (event : Event) :
    event.decodeOctets = event.map fun entry => (entry.1, entry.2.decoded) := by
  refine List.map_congr_left fun entry _ => ?_
  rcases entry with ⟨key, value⟩
  cases value with
  | octets kind _ => cases kind <;> rfl
  | _ => rfl

theorem valueOf?_decodeOctets (event : Event) (key : String) :
    event.decodeOctets.valueOf? key = (event.valueOf? key).map Value.decoded := by
  rw [decodeOctets_eq]
  induction event with
  | nil => rfl
  | cons entry rest inductionHypothesis =>
      rcases entry with ⟨present, value⟩
      rw [List.map_cons, valueOf?, valueOf?, Entries.get?_cons, Entries.get?_cons]
      split
      · rfl
      · exact inductionHypothesis

/-- That what has been logged, if anything, can be put into words. -/
def HasWords (event : Event) : Prop := ∀ value, event.valueOf? "event" = some value → value.HasWords

/-- Nothing is done for a text, and for null; of anything else the displayed form is put there. -/
theorem cases_ensureText (ensured : event.ensureText = .ok next) :
    (next = event ∧ ∀ value, event.valueOf? "event" = some value →
      value = .null ∨ ∃ text, value = .text text) ∨
    ∃ value, event.valueOf? "event" = some value ∧ value.HasWords ∧
      next = event.put "event" (.text value.shown) := by
  rw [ensureText] at ensured
  split at ensured
  · next absent =>
      cases ensured
      exact Or.inl ⟨rfl, fun value found => by cases absent.symm.trans found⟩
  · next isNull =>
      cases ensured
      exact Or.inl ⟨rfl, fun value found => by
        cases isNull.symm.trans found
        exact Or.inl rfl⟩
  · next text isText =>
      cases ensured
      exact Or.inl ⟨rfl, fun value found => by
        cases isText.symm.trans found
        exact Or.inr ⟨text, rfl⟩⟩
  · next value _ _ found =>
      rcases map_eq_ok_iff.mp ensured with ⟨text, isText, rfl⟩
      rcases Value.inWords_eq_ok_iff_hasWords.mp isText with ⟨hasWords, rfl⟩
      exact Or.inr ⟨value, found, hasWords, rfl⟩

theorem hasWords_of_ensureText (ensured : event.ensureText = .ok next) : event.HasWords := by
  intro value found
  rcases cases_ensureText ensured with ⟨_, plain⟩ | ⟨other, foundOther, hasWords, _⟩
  · rcases plain value found with rfl | ⟨text, rfl⟩
    · exact Value.wordsFault?_eq_none_iff.mp rfl
    · exact Value.hasWords_text text
  · cases foundOther.symm.trans found
    exact hasWords

theorem exists_ensureText_iff : (∃ next, event.ensureText = .ok next) ↔ event.HasWords := by
  constructor
  · rintro ⟨next, ensured⟩
    exact hasWords_of_ensureText ensured
  · intro hasWords
    rw [ensureText]
    split
    · exact ⟨event, rfl⟩
    · exact ⟨event, rfl⟩
    · exact ⟨event, rfl⟩
    · next value _ _ found =>
        have isText : value.inWords Value.shown = .ok value.shown :=
          Value.inWords_eq_ok_iff_hasWords.mpr ⟨hasWords value found, rfl⟩
        exact ⟨_, map_eq_ok_iff.mpr ⟨value.shown, isText, rfl⟩⟩

theorem valueOf?_of_ensureText (apart : IsApart key ["event"])
    (ensured : event.ensureText = .ok next) : next.valueOf? key = event.valueOf? key := by
  rcases cases_ensureText ensured with ⟨rfl, _⟩ | ⟨value, _, _, rfl⟩
  · rfl
  · exact valueOf?_put_of_ne (apart "event" (by decide)) event _

/-- A level that is a text always has a canonical name. -/
theorem normalizeLevel_put (event : Event) (name method : Text) :
    (event.put "level" (.text name)).normalizeLevel method =
      .ok ((event.put "level" (.text name)).put "level" (.text (Level.canonical name))) := by
  rw [normalizeLevel, valueOf?_put, if_pos rfl]
  rfl

theorem valueOf?_of_addSeverity (apart : IsApart key ["severity"])
    (added : event.addSeverity = .ok next) : next.valueOf? key = event.valueOf? key := by
  rw [addSeverity] at added
  split at added
  · cases added
    rfl
  · dsimp only at added
    split at added
    · cases added
    · cases added
      exact valueOf?_put_of_ne (apart "severity" (by decide)) event _

/-- The severity stays what it is, or it is one of those with a name. -/
theorem severity_of_addSeverity (added : event.addSeverity = .ok next) :
    next.valueOf? "severity" = event.valueOf? "severity" ∨
      event.valueOf? "severity" = none ∧
        ∃ named : Severity, next.valueOf? "severity" = some (.int named.code) := by
  rw [addSeverity] at added
  split at added
  · cases added
    exact Or.inl rfl
  · next missing =>
      dsimp only at added
      split at added
      · cases added
      · cases added
        refine Or.inr ⟨Option.not_isSome_iff_eq_none.mp missing,
          severityOf ((event.valueOf? "level").getD (.text "INFO")), ?_⟩
        rw [valueOf?_put, if_pos rfl]

theorem valueOf?_of_fillPositional (apart : IsApart key ["positional_args", "event"])
    (filled : event.fillPositional = .ok next) : next.valueOf? key = event.valueOf? key := by
  have otherArguments := apart "positional_args" (by decide)
  rw [fillPositional] at filled
  split at filled
  · cases filled
    rfl
  · split at filled
    · cases filled
      exact valueOf?_remove_of_ne otherArguments event
    · rcases bind_eq_ok_iff.mp filled with ⟨arguments, _, filled⟩
      split at filled
      · cases filled
      · rcases bind_eq_ok_iff.mp filled with ⟨text, _, same⟩
        cases same
        rw [valueOf?_remove_of_ne otherArguments, valueOf?_put_of_ne (apart "event" (by decide))]

theorem valueOf?_of_renameEvent (apart : IsApart key ["event", "message"])
    (renamed : event.renameEvent = .ok next) : next.valueOf? key = event.valueOf? key := by
  rw [renameEvent] at renamed
  split at renamed
  · cases renamed
  · cases renamed
    rw [valueOf?_put_of_ne (apart "message" (by decide)),
      valueOf?_remove_of_ne (apart "event" (by decide))]

theorem valueOf?_finished
    (apart : IsApart key ["_record", "_from_structlog", "exc_info", "exception"]) (event : Event) :
    event.finished.valueOf? key = event.valueOf? key := by
  have kept : (((event.remove "_record").remove "_from_structlog").remove "exc_info").valueOf? key =
      event.valueOf? key := by
    rw [valueOf?_remove_of_ne (apart "exc_info" (by decide)),
      valueOf?_remove_of_ne (apart "_from_structlog" (by decide)),
      valueOf?_remove_of_ne (apart "_record" (by decide))]
  rw [finished]
  split
  · rw [valueOf?_put_of_ne (apart "exception" (by decide)), kept]
  · exact kept

/-! ## All steps -/

theorem isLeft_appName : IsLeft "app_name" := by
  decide

/-- The keys under which preparation writes, or takes away, something once the severity is known. -/
def laterKeys : List String :=
  ["positional_args", "event", "timestamp", "stack_info", "message", "_record", "_from_structlog",
    "exc_info", "exception"]

/-- What a handler finds is what there is once the severity is known, but for the application. -/
theorem exists_severe_of_prepared (isPrepared : event.prepared origin = .ok next) :
    ∃ severe : Event,
      (((event.put "logger" (.text origin.logger)).put "level" (.text origin.method)).put "level"
        (.text (Level.canonical origin.method))).addSeverity = .ok severe ∧
      ∀ key, IsApart key laterKeys → next.finished.valueOf? key =
        ((severe.addAppName (.text origin.appName)).valueOf? key).map Value.decoded := by
  rcases bind_eq_ok_iff.mp isPrepared with ⟨_, _, rest⟩
  rcases bind_eq_ok_iff.mp rest with ⟨leveled, isLeveled, rest⟩
  rw [mapError_eq_ok_iff, normalizeLevel_put] at isLeveled
  cases isLeveled
  rcases bind_eq_ok_iff.mp rest with ⟨severe, isSevere, rest⟩
  rcases bind_eq_ok_iff.mp rest with ⟨filled, isFilled, rest⟩
  rcases bind_eq_ok_iff.mp rest with ⟨ensured, isEnsured, renamed⟩
  refine ⟨severe, isSevere, fun key apart => ?_⟩
  have same : ∀ key, IsApart key laterKeys →
      (filled.put "timestamp" (.text origin.now.stamp)).valueOf? key = severe.valueOf? key := by
    intro key apart
    rw [valueOf?_put_of_ne (apart "timestamp" (by decide)),
      valueOf?_of_fillPositional (apart.mono (by decide)) isFilled]
  rw [valueOf?_finished (apart.mono (by decide)),
    valueOf?_of_renameEvent (apart.mono (by decide)) renamed,
    valueOf?_of_ensureText (apart.mono (by decide)) (mapError_eq_ok_iff.mp isEnsured),
    valueOf?_decodeOctets,
    valueOf?_remove_of_ne (apart "stack_info" (by decide)), addAppName, addAppName,
    valueOf?_putNew, valueOf?_putNew, same key apart, same "app_name" (by decide)]

/-- What a handler finds under a key that preparation has no use for. -/
theorem valueOf?_of_prepared (left : IsLeft key) (isPrepared : event.prepared origin = .ok next) :
    next.finished.valueOf? key =
      ((event.addAppName (.text origin.appName)).valueOf? key).map Value.decoded := by
  rcases exists_severe_of_prepared isPrepared with ⟨severe, isSevere, found⟩
  have same : ∀ key, IsLeft key → severe.valueOf? key = event.valueOf? key := by
    intro key left
    rw [valueOf?_of_addSeverity (left.mono (by decide)) isSevere,
      valueOf?_put_of_ne (left "level" (by decide)), valueOf?_put_of_ne (left "level" (by decide)),
      valueOf?_put_of_ne (left "logger" (by decide))]
  rw [found key (left.mono (by decide)), addAppName, addAppName, valueOf?_putNew, valueOf?_putNew,
    same key left, same "app_name" isLeft_appName]

/-- A handler finds the severity that the event held, or one of those with a name. -/
theorem severity_of_prepared (isPrepared : event.prepared origin = .ok next) :
    next.finished.valueOf? "severity" = (event.valueOf? "severity").map Value.decoded ∨
      event.valueOf? "severity" = none ∧
        ∃ named : Severity, next.finished.valueOf? "severity" = some (.int named.code) := by
  rcases exists_severe_of_prepared isPrepared with ⟨severe, isSevere, found⟩
  have isFound : next.finished.valueOf? "severity" =
      (severe.valueOf? "severity").map Value.decoded := by
    rw [found "severity" (by decide), addAppName, valueOf?_putNew, if_neg (by decide)]
  have same : (((event.put "logger" (.text origin.logger)).put "level"
      (.text origin.method)).put "level" (.text (Level.canonical origin.method))).valueOf?
        "severity" = event.valueOf? "severity" := by
    rw [valueOf?_put_of_ne (by decide), valueOf?_put_of_ne (by decide),
      valueOf?_put_of_ne (by decide)]
  rw [isFound, ← same]
  rcases severity_of_addSeverity isSevere with kept | ⟨missing, named, added⟩
  · exact Or.inl (congrArg (Option.map Value.decoded) kept)
  · exact Or.inr ⟨missing, named, by rw [added]; rfl⟩

end Event

end Syslog
