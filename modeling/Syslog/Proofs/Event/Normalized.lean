import Syslog.Proofs.Event.Alike
import Syslog.Proofs.Event.Stamped
import Syslog.Proofs.Text.Case

namespace Syslog

/-!
# Events that are completed twice

A step that completes an event is done with it: it has nothing to do when it comes again, whatever
other steps have come in between.  For the level this depends on its name.  A name is looked up in
lower case, and its upper case, which stands in the event if the name is not known, is looked up in
lower case again; so a name is normalised for good unless it is spelled differently then.

There are two such names, both with a dotless letter whose upper case has no dot either
(`Level.misspelled`).  For every other level the severity that is stored and the one that the
renderer finds for itself are the same, before and after the level has been normalised
(`Enrichment.normalization_is_stable`).
-/

namespace Level

/-- The names in lower case that are not known but have the upper case of one that is. -/
def misspelled : List Text := ["warn\u0131ng", "except\u0131on"]

/-- That a level is normalised for good. -/
def IsStable (level : Value) : Prop := level.shown.lower ∉ misspelled

/-- A canonical name is its own, and a name that is known differs from its upper case only if all
spellings of that are known or misspelled. -/
theorem aliases_spelled : ∀ entry ∈ aliases, canonical entry.2 = entry.2 ∧
    (∀ d ∈ entry.1.upper, d.val < 0x80) ∧
    (entry.2 = entry.1.upper ∨
      ∀ spelling ∈ Text.spellings entry.1.upper.length entry.1.upper,
        spelling = entry.1 ∨ spelling ∈ misspelled) := by
  decide +kernel

theorem misspelled_unstable : ∀ name ∈ misspelled, aliases.lookup name = none ∧
    canonical name.upper ≠ name.upper ∧
    Severity.ofCanonical (canonical name.upper) ≠ Severity.ofCanonical name.upper := by
  decide +kernel

theorem canonical_of_known {name canonicalName : Text}
    (known : aliases.lookup name.lower = some canonicalName) : canonical name = canonicalName := by
  rw [canonical, known]
  rfl

theorem canonical_of_unknown {name : Text} (unknown : aliases.lookup name.lower = none) :
    canonical name = name.lower.upper := by
  rw [canonical, unknown]
  rfl

theorem mem_aliases_of_lookup {name canonicalName : Text}
    (known : aliases.lookup name = some canonicalName) : (name, canonicalName) ∈ aliases := by
  rcases List.lookup_eq_some_iff.mp known with ⟨before, behind, split, _⟩
  rw [split]
  exact List.mem_append_right before List.mem_cons_self

/-- A name whose upper case is known under another name is misspelled. -/
theorem canonical_upper_of_unknown {name : Text} (unknown : aliases.lookup name.lower = none)
    (correct : name.lower ∉ misspelled) : canonical name.lower.upper = name.lower.upper := by
  have back := Text.upper_lower_upper_lower name
  cases known : aliases.lookup name.lower.upper.lower with
  | none => rw [canonical_of_unknown known, back]
  | some canonicalName =>
      rw [canonical_of_known known]
      have member := mem_aliases_of_lookup known
      rcases aliases_spelled _ member with ⟨_, ascii, own | spelled⟩
      · exact own.trans back
      · rw [back] at ascii spelled
        have isSpelling := Text.mem_spellings (fun _ => Text.lower_of_mem_lower) ascii
        rcases spelled _ isSpelling with same | incorrect
        · -- the name would be known itself
          rw [same, known] at unknown
          cases unknown
        · exact absurd incorrect correct

theorem canonical_canonical_iff {name : Text} :
    canonical (canonical name) = canonical name ↔ name.lower ∉ misspelled := by
  constructor
  · intro same incorrect
    rcases misspelled_unstable _ incorrect with ⟨unknown, different, _⟩
    rw [canonical_of_unknown unknown] at same
    exact different same
  · intro correct
    cases known : aliases.lookup name.lower with
    | none =>
        rw [canonical_of_unknown known]
        exact canonical_upper_of_unknown known correct
    | some canonicalName =>
        rw [canonical_of_known known]
        exact (aliases_spelled _ (mem_aliases_of_lookup known)).1

variable {level : Value} {name : Text}

/-- The name of a level is the canonical one of what is displayed of it. -/
theorem ofValue_eq_ok_iff :
    ofValue level = .ok name ↔ level.HasWords ∧ canonical level.shown = name := by
  simp only [ofValue, map_eq_ok_iff, Value.inWords_eq_ok_iff_hasWords, and_assoc, exists_and_left,
    exists_eq_left']

theorem severityOfLevel_eq_ok (named : ofValue level = .ok name) :
    Severity.ofLevel level = .ok (Severity.ofCanonical name) :=
  map_eq_ok_iff.mpr ⟨name, named, rfl⟩

/-- A name is its own canonical one exactly if the level that it is the name of is stable. -/
theorem canonical_iff_stable (named : ofValue level = .ok name) :
    canonical name = name ↔ IsStable level := by
  rcases ofValue_eq_ok_iff.mp named with ⟨_, rfl⟩
  exact canonical_canonical_iff

/-- The severity of a level is that of its normalised name exactly if it is stable. -/
theorem severity_iff_stable (named : ofValue level = .ok name) :
    Severity.ofLevel (.text name) = Severity.ofLevel level ↔ IsStable level := by
  rw [severityOfLevel_eq_ok named]
  constructor
  · intro same incorrect
    rcases ofValue_eq_ok_iff.mp named with ⟨_, rfl⟩
    rcases misspelled_unstable _ incorrect with ⟨unknown, _, different⟩
    rw [canonical_of_unknown unknown] at same
    exact different (Except.ok.inj same)
  · intro stable
    exact congrArg (Except.ok ∘ Severity.ofCanonical) ((canonical_iff_stable named).mpr stable)

end Level

/-! ## Single steps -/

/-- Putting a value where it already is changes nothing. -/
theorem Entries.insert_of_get? {entries : Entries} {key value : Value}
    (found : entries.get? key = some value) : entries.insert key value = entries := by
  induction entries with
  | nil => cases found
  | cons entry rest inductionHypothesis =>
      rcases entry with ⟨present, old⟩
      rw [get?_cons] at found
      rw [insert]
      split
      · next same =>
          rw [if_pos same] at found
          cases found
          rfl
      · next different =>
          rw [if_neg different] at found
          rw [inductionHypothesis found]

theorem Event.valueOf?_put_self (event : Event) (key : String) (value : Value) :
    (event.put key value).valueOf? key = some value :=
  (valueOf?_put event key key value).trans (if_pos rfl)

theorem Event.put_of_valueOf? {event : Event} {key : String} {value : Value}
    (found : event.valueOf? key = some value) : event.put key value = event :=
  Entries.insert_of_get? found

theorem Event.put_text_injective {event : Event} {key : String} {text other : Text}
    (same : event.put key (.text text) = event.put key (.text other)) : text = other := by
  have found := event.valueOf?_put_self key (.text text)
  rw [same, valueOf?_put_self] at found
  exact (Value.text.inj (Option.some.inj found)).symm

theorem Event.putNew_eq (event : Event) (key : String) (value : Value) :
    event.putNew key value =
      if (event.valueOf? key).isSome = true then event else event.put key value := by
  rw [putNew, Entries.insertNew, Entries.contains_eq_isSome]
  rfl

/-- The level that an event has, or else the one that the method stands for. -/
def Event.loggedLevel (method : Text) (event : Event) : Value :=
  (event.valueOf? "level").getD (.text method)

theorem Event.normalizeLevel_eq_ok_iff {method : Text} {event next : Event} :
    event.normalizeLevel method = .ok next ↔
      ∃ name, Level.ofValue (event.loggedLevel method) = .ok name ∧
        event.put "level" (.text name) = next :=
  map_eq_ok_iff

theorem Event.loggedLevel_eq {method : Text} {event : Event} {level : Value}
    (found : event.valueOf? "level" = some level) : event.loggedLevel method = level := by
  rw [loggedLevel, found]
  rfl

namespace Enrichment

/-- The key under which a step writes. -/
def key : Enrichment → String
  | .level => "level"
  | .severity => "severity"
  | .appName _ => "app_name"
  | .eventText => "event"

/-- The values with which a step has nothing to do. -/
def Accepts : Enrichment → Option Value → Prop
  | .level, found => ∃ name, found = some (.text name) ∧ Level.canonical name = name
  | .severity, found | .appName _, found => found.isSome = true
  | .eventText, found => ∀ value, found = some value → value = .null ∨ ∃ text, value = .text text

/-- That a step has nothing to do with an event. -/
def Done (event : Event) (step : Enrichment) : Prop := step.Accepts (event.valueOf? step.key)

variable {method : Text} {event next : Event} {step other : Enrichment}

theorem level_apply_eq_ok_iff : Enrichment.level.apply method event = .ok next ↔
    ∃ name, Level.ofValue (event.loggedLevel method) = .ok name ∧
      event.put "level" (.text name) = next :=
  mapError_eq_ok_iff.trans Event.normalizeLevel_eq_ok_iff

theorem apply_of_done (done : step.Done event) : step.apply method event = .ok event := by
  cases step with
  | level =>
      rcases done with ⟨name, found, canonical⟩
      refine level_apply_eq_ok_iff.mpr ⟨name, ?_, ?_⟩
      · rw [Event.loggedLevel_eq found]
        exact Level.ofValue_eq_ok_iff.mpr ⟨Value.hasWords_text name, canonical⟩
      · exact Event.put_of_valueOf? found
  | severity => exact if_pos done
  | appName given => exact congrArg Except.ok ((Event.putNew_eq event _ given).trans (if_pos done))
  | eventText =>
      rw [apply, Event.ensureText]
      cases found : event.valueOf? "event" with
      | none => rfl
      | some value => rcases done value found with rfl | ⟨text, rfl⟩ <;> rfl

/-- A step writes under its own key only. -/
theorem valueOf?_of_apply {sought : String}
    (different : Text.ofString sought ≠ Text.ofString step.key)
    (applied : step.apply method event = .ok next) :
    next.valueOf? sought = event.valueOf? sought := by
  have apart : Event.IsApart sought [step.key] := fun changed member => by
    cases List.mem_singleton.mp member
    exact different
  cases step with
  | level =>
      rcases level_apply_eq_ok_iff.mp applied with ⟨name, _, rfl⟩
      exact Event.valueOf?_put_of_ne different event _
  | severity => exact Event.valueOf?_of_addSeverity apart applied
  | appName given =>
      cases applied
      exact (Event.valueOf?_putNew event "app_name" sought given).trans (if_neg different)
  | eventText => exact Event.valueOf?_of_ensureText apart (mapError_eq_ok_iff.mp applied)

/-- A step is done once it has been applied. -/
theorem done_of_apply (stable : Level.IsStable (event.loggedLevel method))
    (applied : step.apply method event = .ok next) : step.Done next := by
  cases step with
  | level =>
      rcases level_apply_eq_ok_iff.mp applied with ⟨name, named, rfl⟩
      exact ⟨name, Event.valueOf?_put_self event "level" _,
        (Level.canonical_iff_stable named).mpr stable⟩
  | severity =>
      rw [apply, Event.addSeverity] at applied
      split at applied
      · next present =>
          cases applied
          exact present
      · dsimp only at applied
        split at applied
        · cases applied
        · cases applied
          exact congrArg Option.isSome (Event.valueOf?_put_self event "severity" _)
  | appName given =>
      cases applied
      exact congrArg Option.isSome ((Event.valueOf?_putNew event _ _ given).trans (if_pos rfl))
  | eventText =>
      rcases Event.cases_ensureText (mapError_eq_ok_iff.mp applied) with
        ⟨rfl, plain⟩ | ⟨value, _, _, rfl⟩
      · exact plain
      · intro put found
        cases (Event.valueOf?_put_self event "event" (.text value.shown)).symm.trans found
        exact Or.inr ⟨_, rfl⟩

theorem loggedLevel_of_done (done : Done event .level) :
    ∃ name, event.loggedLevel method = .text name ∧ Level.canonical name = name := by
  rcases done with ⟨name, found, canonical⟩
  exact ⟨name, Event.loggedLevel_eq found, canonical⟩

/-- No step makes a stable level unstable. -/
theorem stable_of_apply (stable : Level.IsStable (event.loggedLevel method))
    (applied : step.apply method event = .ok next) : Level.IsStable (next.loggedLevel method) := by
  cases step with
  | level =>
      rcases loggedLevel_of_done (done_of_apply stable applied) with ⟨name, isName, canonical⟩
      have named : Level.ofValue (.text name) = .ok name :=
        Level.ofValue_eq_ok_iff.mpr ⟨Value.hasWords_text name, canonical⟩
      rw [isName]
      exact (Level.canonical_iff_stable named).mp canonical
  | severity | appName | eventText =>
      rw [Event.loggedLevel, valueOf?_of_apply (by rw [key]; decide) applied]
      exact stable

/-- What a step accepts depends on its key only. -/
theorem accepts_congr (same : Text.ofString step.key = Text.ofString other.key)
    {found : Option Value} (accepts : other.Accepts found) : step.Accepts found := by
  cases step <;> cases other <;>
    first | exact accepts | exact absurd same (by rw [key, key]; decide)

/-- A step that is done stays done. -/
theorem done_keep (stable : Level.IsStable (event.loggedLevel method)) (done : step.Done event)
    (applied : other.apply method event = .ok next) : step.Done next := by
  by_cases same : Text.ofString step.key = Text.ofString other.key
  · have found : next.valueOf? step.key = next.valueOf? other.key := by
      rw [Event.valueOf?, Event.valueOf?, same]
    rw [Done, found]
    exact accepts_congr same (done_of_apply stable applied)
  · rw [Done, valueOf?_of_apply same applied]
    exact done

/-! ## All steps of a run -/

variable {steps : List Enrichment} {events : List Event}

theorem applyAll_cons_eq_ok_iff : applyAll method event (step :: steps) = .ok events ↔
    ∃ next others, step.apply method event = .ok next ∧ applyAll method next steps = .ok others ∧
      events = next :: others := by
  rw [applyAll, bind_eq_ok_iff]
  constructor
  · rintro ⟨next, applied, more⟩
    rcases bind_eq_ok_iff.mp more with ⟨others, appliedAll, same⟩
    cases same
    exact ⟨next, others, applied, appliedAll, rfl⟩
  · rintro ⟨next, others, applied, appliedAll, rfl⟩
    exact ⟨next, applied, bind_eq_ok_iff.mpr ⟨others, appliedAll, rfl⟩⟩

theorem applyAll_of_done (done : ∀ step ∈ steps, step.Done event) :
    applyAll method event steps = .ok (steps.map fun _ => event) := by
  induction steps with
  | nil => rfl
  | cons step rest inductionHypothesis =>
      rcases List.forall_mem_cons.mp done with ⟨first, others⟩
      exact applyAll_cons_eq_ok_iff.mpr
        ⟨event, _, apply_of_done first, inductionHypothesis others, rfl⟩

/-- At the end of a run every step of it is done, and so is what has been done before. -/
theorem done_of_applyAll (stable : Level.IsStable (event.loggedLevel method))
    (applied : applyAll method event steps = .ok events)
    (isDone : step ∈ steps ∨ step.Done event) : step.Done (events.getLastD event) := by
  induction steps generalizing event events with
  | nil =>
      cases applied
      exact isDone.resolve_left List.not_mem_nil
  | cons first rest inductionHypothesis =>
      rcases applyAll_cons_eq_ok_iff.mp applied with ⟨next, others, appliedFirst, more, rfl⟩
      rw [List.getLastD_cons]
      refine inductionHypothesis (stable_of_apply stable appliedFirst) more ?_
      rcases isDone with member | done
      · rcases List.mem_cons.mp member with rfl | later
        · exact Or.inr (done_of_apply stable appliedFirst)
        · exact Or.inl later
      · exact Or.inr (done_keep stable done appliedFirst)

/-! ## With and without the severity -/

def isSeverity : Enrichment → Bool
  | .severity => true
  | _ => false

/-- Two events that have the same normalised level and agree in all but the severity, which one of
them may have, and then by its level. -/
structure Alongside (name : Text) (left right : Event) : Prop where
  canonical : Level.canonical name = name
  others : Entries.without ["severity"] left = Entries.without ["severity"] right
  level : right.valueOf? "level" = some (.text name)
  stored : ∀ value, left.valueOf? "severity" = some value →
    value = .int (Severity.ofCanonical name).code
  absent : right.valueOf? "severity" = none

namespace Alongside

variable {name : Text} {left right : Event}

theorem valueOf?_eq (alongside : Alongside name left right) (sought : String)
    (different : Text.ofString sought ∉ [Text.ofString "severity"]) :
    left.valueOf? sought = right.valueOf? sought := by
  rw [Event.valueOf?, ← Entries.get?_without different, alongside.others,
    Entries.get?_without different, Event.valueOf?]

/-- The severity is the one that is derived from the level anyway. -/
theorem severity_eq (alongside : Alongside name left right) :
    Renderer.severity method left = Renderer.severity method right := by
  have derived : Severity.ofLevel (.text name) = .ok (Severity.ofCanonical name) :=
    congrArg (Except.ok ∘ Severity.ofCanonical) alongside.canonical
  rw [Renderer.severity, Renderer.severity, alongside.absent,
    alongside.valueOf?_eq "level" (by decide), alongside.level]
  cases found : left.valueOf? "severity" with
  | none => rfl
  | some value =>
      cases alongside.stored value found
      exact (congrArg (Except.map fun severity => ((Severity.code severity : Nat) : Int))
        derived).symm

/-- So both are rendered alike. -/
theorem render_eq (alongside : Alongside name left right) (origin : Origin) (settings : Settings)
    (renderer : Renderer) :
    renderer.render origin settings method left = renderer.render origin settings method right := by
  have reserved : ∀ text ∈ [Text.ofString "severity"], text ∈ Renderer.reservedKeys := by decide
  have sameParameters : ∀ allowLong, Renderer.parameters allowLong left =
      Renderer.parameters allowLong right := by
    intro allowLong
    rw [← Renderer.parameters_without reserved left, alongside.others,
      Renderer.parameters_without reserved right]
  have sameBody : Renderer.body left = Renderer.body right := by
    rw [Renderer.body, Renderer.body, Renderer.bodyValue, Renderer.bodyValue,
      alongside.valueOf?_eq "message" (by decide), alongside.valueOf?_eq "event" (by decide)]
  simp only [Renderer.render, Renderer.message, sameParameters, sameBody, alongside.severity_eq,
    Renderer.textOf, alongside.valueOf?_eq "timestamp" (by decide),
    alongside.valueOf?_eq "app_name" (by decide), alongside.valueOf?_eq "msg_id" (by decide)]

theorem put (alongside : Alongside name left right) {key : String}
    (notLevel : Text.ofString "level" ≠ Text.ofString key)
    (notSeverity : Text.ofString "severity" ≠ Text.ofString key) (value : Value) :
    Alongside name (left.put key value) (right.put key value) where
  canonical := alongside.canonical
  others := Entries.without_insert_congr alongside.others _ _
  level := (Event.valueOf?_put_of_ne notLevel right value).trans alongside.level
  stored severity found := alongside.stored severity
    ((Event.valueOf?_put_of_ne notSeverity left value).symm.trans found)
  absent := (Event.valueOf?_put_of_ne notSeverity right value).trans alongside.absent

theorem addSeverity (alongside : Alongside name left right) :
    ∃ next, left.addSeverity = .ok next ∧ Alongside name next right := by
  cases found : left.valueOf? "severity" with
  | some value => exact ⟨left, if_pos (congrArg Option.isSome found), alongside⟩
  | none =>
      have level : left.valueOf? "level" = some (.text name) :=
        (alongside.valueOf?_eq "level" (by decide)).trans alongside.level
      refine ⟨left.put "severity" (.int (Severity.ofCanonical name).code), ?_, ?_⟩
      · rw [Event.addSeverity, found, level]
        rfl
      · exact { alongside with
          others := (Entries.without_insert_of_mem (List.mem_singleton_self _) _ left).trans
            alongside.others
          stored := fun value put => by
            cases (Event.valueOf?_put_self left "severity" _).symm.trans put
            rfl }

/-- A step that is not about the severity does the same to both. -/
theorem apply (alongside : Alongside name left right) (other : step.isSeverity = false) :
    EndAlike (Alongside name) (step.apply method left) (step.apply method right) := by
  cases step with
  | level =>
      have level := (alongside.valueOf?_eq "level" (by decide)).trans alongside.level
      have onLeft : Done left .level := ⟨name, level, alongside.canonical⟩
      have onRight : Done right .level := ⟨name, alongside.level, alongside.canonical⟩
      rw [apply_of_done onLeft, apply_of_done onRight]
      exact .results alongside
  | severity => cases other
  | appName given =>
      refine .results ?_
      rw [Event.addAppName, Event.addAppName, Event.putNew_eq, Event.putNew_eq,
        alongside.valueOf?_eq "app_name" (by decide)]
      split
      · exact alongside
      · exact alongside.put (by decide) (by decide) given
  | eventText =>
      refine EndAlike.mapError ?_ Fault.words
      rw [Event.ensureText, Event.ensureText, alongside.valueOf?_eq "event" (by decide)]
      split
      · exact .results alongside
      · exact .results alongside
      · exact .results alongside
      · exact EndAlike.map_of_eq rfl fun text => alongside.put (by decide) (by decide) (.text text)

/-- But for the severity a run comes to the same without the steps that store one. -/
theorem applyAll (alongside : Alongside name left right) (steps : List Enrichment) :
    EndAlike (fun events others => Alongside name (events.getLastD left) (others.getLastD right))
      (Enrichment.applyAll method left steps)
      (Enrichment.applyAll method right (steps.filter (!·.isSeverity))) := by
  induction steps generalizing left right with
  | nil => exact .results alongside
  | cons step rest inductionHypothesis =>
      cases isSeverity : step.isSeverity with
      | true =>
          have same : step = .severity := by
            cases step <;> first | rfl | cases isSeverity
          subst same
          rcases alongside.addSeverity with ⟨next, added, alongsideNext⟩
          rw [Enrichment.applyAll, show Enrichment.severity.apply method left = .ok next from added]
          have run := inductionHypothesis alongsideNext
          rw [← bind_pure (Enrichment.applyAll method right _)]
          refine run.bind fun last => .results ?_
          rwa [List.getLastD_cons]
      | false =>
          rw [List.filter_cons_of_pos (by rw [isSeverity]; rfl), Enrichment.applyAll,
            Enrichment.applyAll]
          refine (alongside.apply isSeverity).bind fun both => ?_
          refine (inductionHypothesis both).bind fun last => .results ?_
          rwa [List.getLastD_cons, List.getLastD_cons]

end Alongside

/-! ## Completing an event -/

/-- Once the level is normalised, only what has been logged can keep a step from being applied. -/
theorem exists_apply_iff (done : Done event .level) :
    (∃ next, step.apply method event = .ok next) ↔ (step = .eventText → event.HasWords) := by
  cases step with
  | level =>
      simp only [reduceCtorEq, false_implies, iff_true]
      exact ⟨event, apply_of_done done⟩
  | severity =>
      simp only [reduceCtorEq, false_implies, iff_true]
      rcases done with ⟨name, level, _⟩
      by_cases present : (event.valueOf? "severity").isSome = true
      · exact ⟨event, if_pos present⟩
      · refine ⟨event.put "severity" (.int (Severity.ofCanonical name).code), ?_⟩
        rw [Enrichment.apply, Event.addSeverity, if_neg present,
          show event.valueOf? "level" = some (.text name) from level]
        rfl
  | appName given =>
      simp only [reduceCtorEq, false_implies, iff_true]
      exact ⟨_, rfl⟩
  | eventText => simp only [apply, mapError_eq_ok_iff, Event.exists_ensureText_iff, forall_const]

/-- No step changes whether what has been logged can be put into words. -/
theorem hasWords_iff_of_apply (applied : step.apply method event = .ok next) :
    next.HasWords ↔ event.HasWords := by
  cases step with
  | eventText =>
      have ensured := mapError_eq_ok_iff.mp applied
      refine iff_of_true (fun value found => ?_) (Event.hasWords_of_ensureText ensured)
      rcases Event.cases_ensureText ensured with ⟨rfl, _⟩ | ⟨shown, _, _, rfl⟩
      · exact Event.hasWords_of_ensureText ensured value found
      · cases (Event.valueOf?_put_self event "event" (.text shown.shown)).symm.trans found
        exact Value.hasWords_text _
  | level | severity | appName =>
      rw [Event.HasWords, valueOf?_of_apply (by rw [key]; decide) applied, Event.HasWords]

/-- A run fails only where what has been logged is to become a text and cannot. -/
theorem exists_applyAll_iff (stable : Level.IsStable (event.loggedLevel method))
    (done : Done event .level) (steps : List Enrichment) :
    (∃ events, applyAll method event steps = .ok events) ↔
      (.eventText ∈ steps → event.HasWords) := by
  induction steps generalizing event with
  | nil => exact iff_of_true ⟨[], rfl⟩ fun member => absurd member List.not_mem_nil
  | cons step rest inductionHypothesis =>
      constructor
      · rintro ⟨events, run⟩ member
        rcases applyAll_cons_eq_ok_iff.mp run with ⟨next, others, applied, more, rfl⟩
        rcases List.mem_cons.mp member with rfl | later
        · exact (exists_apply_iff done).mp ⟨next, applied⟩ rfl
        · refine (hasWords_iff_of_apply applied).mp ?_
          exact (inductionHypothesis (stable_of_apply stable applied)
            (done_keep stable done applied)).mp ⟨others, more⟩ later
      · intro hasWords
        have first : step = .eventText → event.HasWords := by
          rintro rfl
          exact hasWords List.mem_cons_self
        rcases (exists_apply_iff done).mpr first with ⟨next, applied⟩
        have others : .eventText ∈ rest → next.HasWords := fun later =>
          (hasWords_iff_of_apply applied).mpr (hasWords (List.mem_cons_of_mem step later))
        rcases (inductionHypothesis (stable_of_apply stable applied)
          (done_keep stable done applied)).mpr others with ⟨events, more⟩
        exact ⟨next :: events, applyAll_cons_eq_ok_iff.mpr ⟨next, events, applied, more, rfl⟩⟩

/-- What it means that the level of an event is settled by one run of steps: a run that starts with
the level fails only where a value cannot be put into words, any run changes nothing the second
time, and for an event without a severity of its own it makes no difference to the line whether one
is stored. -/
structure Settles (method : Text) (event : Event) : Prop where
  exists_run : ∀ steps, (∃ events, applyAll method event (.level :: steps) = .ok events) ↔
    (event.loggedLevel method).HasWords ∧ (.eventText ∈ steps → event.HasWords)
  again : ∀ steps events, applyAll method event steps = .ok events →
    applyAll method (events.getLastD event) steps =
      .ok (steps.map fun _ => events.getLastD event)
  stored : event.valueOf? "severity" = none → ∀ steps events,
    applyAll method event (.level :: steps) = .ok events →
      (∃ step ∈ steps, step.isSeverity = true) →
        ∃ severity, Severity.ofLevel (event.loggedLevel method) = .ok severity ∧
          (events.getLastD event).valueOf? "severity" = some (.int severity.code)
  line : event.valueOf? "severity" = none → ∀ steps events others,
    applyAll method event (.level :: steps) = .ok events →
      applyAll method event (.level :: steps.filter (!·.isSeverity)) = .ok others →
        ∀ (origin : Origin) (settings : Settings) (renderer : Renderer),
          renderer.render origin settings method (events.getLastD event) =
            renderer.render origin settings method (others.getLastD event)

/-- A normalised event without a severity, beside itself. -/
theorem alongside_of_level {name : Text} (stable : Level.IsStable (event.loggedLevel method))
    (named : Level.ofValue (event.loggedLevel method) = .ok name)
    (absent : event.valueOf? "severity" = none) :
    Alongside name (event.put "level" (.text name)) (event.put "level" (.text name)) := by
  have absentToo : (event.put "level" (.text name)).valueOf? "severity" = none :=
    (Event.valueOf?_put_of_ne (by decide) event _).trans absent
  exact {
    canonical := (Level.canonical_iff_stable named).mpr stable
    others := rfl
    level := Event.valueOf?_put_self event "level" _
    stored := fun value found => by cases absentToo.symm.trans found
    absent := absentToo }

theorem settles_of_stable (stable : Level.IsStable (event.loggedLevel method)) :
    Settles method event where
  exists_run steps := by
    have worded : ∀ {next : Event}, Enrichment.level.apply method event = .ok next →
        ((∃ events, applyAll method next steps = .ok events) ↔
          (.eventText ∈ steps → event.HasWords)) := by
      intro next applied
      rw [exists_applyAll_iff (stable_of_apply stable applied) (done_of_apply stable applied),
        hasWords_iff_of_apply applied]
    constructor
    · rintro ⟨events, run⟩
      rcases applyAll_cons_eq_ok_iff.mp run with ⟨next, others, applied, more, rfl⟩
      rcases level_apply_eq_ok_iff.mp applied with ⟨name, named, rfl⟩
      exact ⟨(Level.ofValue_eq_ok_iff.mp named).1, (worded applied).mp ⟨others, more⟩⟩
    · rintro ⟨hasWords, logged⟩
      have named := Level.ofValue_eq_ok_iff.mpr ⟨hasWords, rfl⟩
      have applied := level_apply_eq_ok_iff.mpr ⟨_, named, rfl⟩
      rcases (worded applied).mpr logged with ⟨others, more⟩
      exact ⟨_, applyAll_cons_eq_ok_iff.mpr ⟨_, others, applied, more, rfl⟩⟩
  again steps events applied :=
    applyAll_of_done fun step member => done_of_applyAll stable applied (Or.inl member)
  stored absent steps events applied := by
    rintro ⟨step, member, isSeverity⟩
    have same : step = .severity := by
      cases step <;> first | rfl | cases isSeverity
    subst same
    have done := done_of_applyAll stable applied (Or.inl (List.mem_cons_of_mem _ member))
    rcases applyAll_cons_eq_ok_iff.mp applied with ⟨_, later, isNext, more, rfl⟩
    rcases level_apply_eq_ok_iff.mp isNext with ⟨name, named, rfl⟩
    rcases ((alongside_of_level stable named absent).applyAll steps).exists_of_ok more with
      ⟨_, _, alongside⟩
    refine ⟨Severity.ofCanonical name, Level.severityOfLevel_eq_ok named, ?_⟩
    rw [List.getLastD_cons] at done ⊢
    rcases Option.isSome_iff_exists.mp done with ⟨value, found⟩
    cases alongside.stored value found
    exact found
  line absent steps events others applied appliedToo origin settings renderer := by
    rcases applyAll_cons_eq_ok_iff.mp applied with ⟨_, later, isNext, more, rfl⟩
    rcases level_apply_eq_ok_iff.mp isNext with ⟨name, named, rfl⟩
    rcases applyAll_cons_eq_ok_iff.mp appliedToo with ⟨_, laterToo, isNextToo, moreToo, rfl⟩
    cases isNext.symm.trans isNextToo
    rcases ((alongside_of_level stable named absent).applyAll steps).exists_of_ok more with
      ⟨_, runToo, alongside⟩
    cases moreToo.symm.trans runToo
    rw [List.getLastD_cons, List.getLastD_cons]
    exact alongside.render_eq origin settings renderer

/-- A level is normalised if it can be put into words, as all texts can.  The severity that is then
stored is that of the level as it was logged.  It is that of the normalised level exactly if this is
a level that is normalised for good, as all levels are but those with two misspelled names; and then
one run of the steps settles the event. -/
theorem normalization_is_stable (method : Text) (event : Event) :
    let level := event.loggedLevel method
    ((∃ name, event.normalizeLevel method = .ok (event.put "level" (.text name))) ↔
      level.HasWords) ∧
    (∀ name, event.normalizeLevel method = .ok (event.put "level" (.text name)) →
      (event.valueOf? "severity" = none →
        ∃ next severity, (event.put "level" (.text name)).addSeverity = .ok next ∧
          Severity.ofLevel level = .ok severity ∧
          next.valueOf? "severity" = some (.int severity.code)) ∧
      (Severity.ofLevel (.text name) = Severity.ofLevel level ↔ Level.IsStable level) ∧
      ((event.put "level" (.text name)).normalizeLevel method =
        .ok (event.put "level" (.text name)) ↔ Level.IsStable level)) ∧
    (Level.IsStable level → Settles method event) := by
  intro level
  have nameOf : ∀ {name : Text},
      event.normalizeLevel method = .ok (event.put "level" (.text name)) ↔
        Level.ofValue level = .ok name := by
    intro name
    refine ⟨fun normalized => ?_, fun named =>
      Event.normalizeLevel_eq_ok_iff.mpr ⟨name, named, rfl⟩⟩
    rcases Event.normalizeLevel_eq_ok_iff.mp normalized with ⟨other, named, same⟩
    cases Event.put_text_injective same
    exact named
  refine ⟨?_, fun name normalized => ⟨fun absent => ?_, ?_, ?_⟩, settles_of_stable⟩
  · simp only [nameOf, Level.ofValue_eq_ok_iff, exists_and_left, exists_eq', and_true]
  · have absentToo : (event.put "level" (.text name)).valueOf? "severity" = none :=
      (Event.valueOf?_put_of_ne (by decide) event _).trans absent
    refine ⟨(event.put "level" (.text name)).put "severity" (.int (Severity.ofCanonical name).code),
      Severity.ofCanonical name, ?_, Level.severityOfLevel_eq_ok (nameOf.mp normalized),
      Event.valueOf?_put_self _ "severity" _⟩
    rw [Event.addSeverity, absentToo, Event.valueOf?_put_self]
    rfl
  · exact Level.severity_iff_stable (nameOf.mp normalized)
  · rw [← Level.canonical_iff_stable (nameOf.mp normalized), Event.normalizeLevel_put]
    constructor
    · intro same
      exact Event.put_text_injective ((Except.ok.inj same).trans
        (Event.put_of_valueOf? (Event.valueOf?_put_self event "level" _)).symm)
    · intro canonical
      rw [canonical, Event.put_of_valueOf? (Event.valueOf?_put_self event "level" _)]

/-- A method without a level in the event, and a name whose upper case has one more letter. -/
theorem normalization_is_stable_of_ligature :
    let event : Event := [(.text "event", .int 5)]
    let method : Text := "\uFB01ne"
    Level.IsStable (event.loggedLevel method) ∧
      Settles method event ∧
      ∃ name next, event.normalizeLevel method = .ok (event.put "level" (.text name)) ∧
        (event.put "level" (.text name)).addSeverity = .ok next ∧
        next.valueOf? "severity" = some (.int 6) := by
  intro event method
  have stable : Level.IsStable (event.loggedLevel method) := by
    rw [Level.IsStable]
    decide +kernel
  rcases normalization_is_stable method event with ⟨exists_name, ofName, settles⟩
  rcases exists_name.mpr (Value.hasWords_text method) with ⟨name, normalized⟩
  rcases (ofName name normalized).1 rfl with ⟨next, severity, added, isSeverity, found⟩
  cases isSeverity
  exact ⟨stable, settles stable, name, next, normalized, added, found⟩

/-- The name of a warning, spelled with a dotless letter, is normalised to its upper case, and only
then to the canonical name; the severity that has been stored is not that of a warning. -/
theorem dotless_warning_is_normalized_twice :
    let event : Event := [(.text "level", .text "warn\u0131ng")]
    let once : Event := [(.text "level", .text "WARNING")]
    applyAll "info" event [.level] = .ok [once] ∧
      applyAll "info" once [.level] = .ok [[(.text "level", .text "WARN")]] ∧
      once.addSeverity = .ok (once.put "severity" (.int 6)) ∧
      Renderer.severity "info" (once.put "severity" (.int 6)) = .ok 6 ∧
      Renderer.severity "info" once = .ok 4 := by
  have upper : Level.canonical "warn\u0131ng" = "WARNING" := by decide +kernel
  have known : Level.canonical "WARNING" = "WARN" := by decide +kernel
  have named : ∀ {name canonicalName : Text}, Level.canonical name = canonicalName →
      applyAll "info" [(.text "level", .text name)] [.level] =
        .ok [[(.text "level", .text canonicalName)]] := by
    rintro name _ rfl
    rfl
  have severity : Renderer.severity "info" [(.text "level", .text "WARNING")] =
      .ok ((Severity.ofCanonical (Level.canonical "WARNING")).code : Int) := rfl
  exact ⟨named upper, named known, rfl, rfl, by rw [severity, known]; rfl⟩

end Enrichment

end Syslog
