import Syslog.Proofs.Event.Prepared

namespace Syslog

/-!
# Events that differ where it does not count

Preparation writes under some keys whatever an event holds there (`Event.overwrittenKeys`).  Two
events that differ under these keys only are prepared in step.  Each step leaves them the same under
all other keys, and each key that it overwrites is the same in both from then on
(`Event.Alike`).  In the end they are the same under every key, though not in the same order
(`Event.prepared_alike`).
-/

/-- That two computations end alike: with the same fault, or with results that are related. -/
inductive EndAlike (Related : α → β → Prop) : Except ε α → Except ε β → Prop
  | faults (fault : ε) : EndAlike Related (.error fault) (.error fault)
  | results {left : α} {right : β} (related : Related left right) :
      EndAlike Related (.ok left) (.ok right)

namespace EndAlike

theorem mapError {Related : α → β → Prop} {left : Except ε α} {right : Except ε β}
    (alike : EndAlike Related left right) (report : ε → δ) :
    EndAlike Related (left.mapError report) (right.mapError report) := by
  cases alike with
  | faults fault => exact .faults (report fault)
  | results related => exact .results related

theorem bind {Related : α → β → Prop} {Next : γ → δ → Prop} {left : Except ε α}
    {right : Except ε β} {continueLeft : α → Except ε γ} {continueRight : β → Except ε δ}
    (alike : EndAlike Related left right)
    (continues : ∀ {result other}, Related result other →
      EndAlike Next (continueLeft result) (continueRight other)) :
    EndAlike Next (left >>= continueLeft) (right >>= continueRight) := by
  cases alike with
  | faults fault => exact .faults fault
  | results related => exact continues related

/-- Computations that begin in the same way end alike if what follows does. -/
theorem bind_of_eq {Next : β → γ → Prop} {left right : Except ε α} {continueLeft : α → Except ε β}
    {continueRight : α → Except ε γ} (same : left = right)
    (continues : ∀ result, EndAlike Next (continueLeft result) (continueRight result)) :
    EndAlike Next (left >>= continueLeft) (right >>= continueRight) := by
  subst same
  cases left with
  | error fault => exact .faults fault
  | ok result => exact continues result

theorem map_of_eq {Next : β → γ → Prop} {left right : Except ε α} {onLeft : α → β} {onRight : α → γ}
    (same : left = right) (related : ∀ result, Next (onLeft result) (onRight result)) :
    EndAlike Next (left.map onLeft) (right.map onRight) := by
  subst same
  cases left with
  | error fault => exact .faults fault
  | ok result => exact .results (related result)

/-- Where one of them has a result, so has the other. -/
theorem exists_of_ok {Related : α → β → Prop} {left : Except ε α} {right : Except ε β} {result : α}
    (alike : EndAlike Related left right) (isResult : left = .ok result) :
    ∃ other, right = .ok other ∧ Related result other := by
  cases alike with
  | faults fault => cases isResult
  | results related =>
      cases isResult
      exact ⟨_, rfl, related⟩

theorem and_left {Related : α → β → Prop} {Holds : α → Prop} {left : Except ε α}
    {right : Except ε β} (alike : EndAlike Related left right)
    (holds : ∀ result, left = .ok result → Holds result) :
    EndAlike (fun result other => Related result other ∧ Holds result) left right := by
  cases alike with
  | faults fault => exact .faults fault
  | results related => exact .results ⟨related, holds _ rfl⟩

end EndAlike

namespace Event

/-- The keys under which preparation writes whatever stands there. -/
def overwrittenKeys : List Text := ["logger", "level", "timestamp", "message"]

/-- That two events are the same but for the keys that preparation overwrites, and the same under
those of them that are settled. -/
structure Alike (settled : List String) (left right : Event) : Prop where
  isLeft : Entries.IsDictionary left
  isRight : Entries.IsDictionary right
  others : Entries.without overwrittenKeys left = Entries.without overwrittenKeys right
  settled : ∀ key ∈ settled, left.valueOf? key = right.valueOf? key

namespace Alike

variable {settled : List String} {left right : Event}

theorem mono {fewer : List String} (alike : Alike settled left right) (within : fewer ⊆ settled) :
    Alike fewer left right :=
  { alike with settled := fun key member => alike.settled key (within member) }

theorem valueOf?_eq (alike : Alike settled left right) {key : String}
    (kept : Text.ofString key ∉ overwrittenKeys) : left.valueOf? key = right.valueOf? key := by
  rw [valueOf?, ← Entries.get?_without kept, alike.others, Entries.get?_without kept, valueOf?]

/-! ## Single steps -/

theorem checkRecord_eq (alike : Alike settled left right) :
    left.checkRecord = right.checkRecord := by
  rw [checkRecord, checkRecord, alike.valueOf?_eq (by decide)]

theorem put (alike : Alike settled left right) (key : String) (value : Value) :
    Alike (key :: settled) (left.put key value) (right.put key value) where
  isLeft := alike.isLeft.insert _ _
  isRight := alike.isRight.insert _ _
  others := Entries.without_insert_congr alike.others _ _
  settled := by
    intro other member
    rw [valueOf?_put, valueOf?_put]
    split
    · rfl
    · next different =>
        rcases List.mem_cons.mp member with rfl | member
        · exact absurd rfl different
        · exact alike.settled other member

/-- Whether a key that is written to is settled afterwards does not always matter. -/
theorem put_mono (alike : Alike settled left right) (key : String) (value : Value) :
    Alike settled (left.put key value) (right.put key value) :=
  (alike.put key value).mono (List.subset_cons_self _ _)

theorem remove (alike : Alike settled left right) (key : String) :
    Alike settled (left.remove key) (right.remove key) where
  isLeft := alike.isLeft.erase _
  isRight := alike.isRight.erase _
  others := by
    rw [Event.remove, Event.remove, Entries.without_erase, alike.others, Entries.without_erase]
  settled := by
    intro other member
    rw [valueOf?_remove, valueOf?_remove, alike.settled other member]

theorem addAppName (alike : Alike settled left right) (appName : Value) :
    Alike settled (left.addAppName appName) (right.addAppName appName) := by
  have same := alike.valueOf?_eq (by decide : Text.ofString "app_name" ∉ overwrittenKeys)
  have contains : ∀ event : Event, event.addAppName appName =
      if (event.valueOf? "app_name").isSome then event else event.put "app_name" appName := by
    intro event
    rw [Event.addAppName, putNew, Entries.insertNew, Entries.contains_eq_isSome]
    rfl
  rw [contains, contains, same]
  split
  · exact alike
  · exact alike.put_mono "app_name" appName

theorem decodeOctets (alike : Alike settled left right) :
    Alike settled left.decodeOctets right.decodeOctets := by
  have sameKey : ∀ entry : Value × Value, (entry.1, entry.2.decoded).1 = entry.1 := fun _ => rfl
  rw [decodeOctets_eq, decodeOctets_eq]
  exact {
    isLeft := alike.isLeft.map sameKey
    isRight := alike.isRight.map sameKey
    others := by
      rw [Entries.without_map sameKey, alike.others, Entries.without_map sameKey]
    settled := fun key member => by
      rw [← decodeOctets_eq, ← decodeOctets_eq, valueOf?_decodeOctets, valueOf?_decodeOctets,
        alike.settled key member] }

theorem ensureText (alike : Alike settled left right) :
    EndAlike (Alike settled) left.ensureText right.ensureText := by
  rw [Event.ensureText, Event.ensureText, alike.valueOf?_eq (by decide)]
  split
  · exact .results alike
  · exact .results alike
  · exact .results alike
  · exact EndAlike.map_of_eq rfl fun text => alike.put_mono "event" _

theorem normalizeLevel (alike : Alike settled left right) (isSettled : "level" ∈ settled)
    (method : Text) :
    EndAlike (Alike settled) (left.normalizeLevel method) (right.normalizeLevel method) := by
  rw [Event.normalizeLevel, Event.normalizeLevel, alike.settled "level" isSettled]
  exact EndAlike.map_of_eq rfl fun name => alike.put_mono "level" _

theorem addSeverity (alike : Alike settled left right) (isSettled : "level" ∈ settled) :
    EndAlike (Alike settled) left.addSeverity right.addSeverity := by
  rw [Event.addSeverity, Event.addSeverity, alike.valueOf?_eq (by decide),
    alike.settled "level" isSettled]
  split
  · exact .results alike
  · dsimp only
    split
    · exact .faults _
    · exact .results (alike.put_mono "severity" _)

theorem fillPositional (alike : Alike settled left right) :
    EndAlike (Alike settled) left.fillPositional right.fillPositional := by
  rw [Event.fillPositional, Event.fillPositional,
    alike.valueOf?_eq (by decide : Text.ofString "positional_args" ∉ overwrittenKeys),
    alike.valueOf?_eq (by decide : Text.ofString "event" ∉ overwrittenKeys)]
  split
  · exact .results alike
  · split
    · exact .results (alike.remove "positional_args")
    · refine EndAlike.bind_of_eq rfl fun arguments => ?_
      split
      · exact .faults _
      · refine EndAlike.bind_of_eq rfl fun filled => ?_
        exact .results ((alike.put_mono "event" filled).remove "positional_args")

theorem renameEvent (alike : Alike settled left right) :
    EndAlike (Alike ("message" :: settled)) left.renameEvent right.renameEvent := by
  rw [Event.renameEvent, Event.renameEvent, alike.valueOf?_eq (by decide)]
  split
  · exact .faults _
  · exact .results ((alike.remove "event").put "message" _)

theorem finished (alike : Alike settled left right) :
    Alike settled left.finished right.finished := by
  have failure := ((alike.remove "_record").remove "_from_structlog").valueOf?_eq
    (by decide : Text.ofString "exc_info" ∉ overwrittenKeys)
  have bare := ((alike.remove "_record").remove "_from_structlog").remove "exc_info"
  rw [Event.finished, Event.finished, failure]
  split
  · exact bare.put_mono "exception" _
  · exact bare

end Alike

/-! ## All steps -/

/-- That two events are the same under every key, though not in the same order. -/
abbrev AlikeThroughout (left right : Event) : Prop :=
  Alike ["message", "timestamp", "level", "logger"] left right

variable {origin : EventOrigin} {left right event next : Event}

/-- Of two events that differ under overwritten keys only, either neither can be prepared, for the
same reason, or both can, and then they are the same under every key. -/
theorem prepared_alike (alike : Alike [] left right) (origin : EventOrigin) :
    EndAlike AlikeThroughout (left.prepared origin) (right.prepared origin) := by
  refine EndAlike.bind_of_eq alike.checkRecord_eq fun _ => ?_
  have leveled := ((alike.put "logger" (.text origin.logger)).put "level"
    (.text origin.method)).normalizeLevel List.mem_cons_self origin.method
  refine (leveled.mapError Fault.words).bind fun leveled => ?_
  refine (leveled.addSeverity List.mem_cons_self).bind fun severe => ?_
  refine severe.fillPositional.bind fun filled => ?_
  have decoded := (((filled.put "timestamp" (.text origin.now.stamp)).addAppName
    (.text origin.appName)).remove "stack_info").decodeOctets
  exact (decoded.ensureText.mapError Fault.words).bind fun ensured => ensured.renameEvent

namespace AlikeThroughout

theorem symm (alike : AlikeThroughout left right) : AlikeThroughout right left :=
  ⟨alike.isRight, alike.isLeft, alike.others.symm,
    fun key member => (alike.settled key member).symm⟩

theorem get?_eq (alike : AlikeThroughout left right) (key : Text) :
    Entries.get? left (.text key) = Entries.get? right (.text key) := by
  by_cases overwritten : key ∈ overwrittenKeys
  · have isSettled : ∀ text ∈ overwrittenKeys,
        ∃ key ∈ ["message", "timestamp", "level", "logger"], Text.ofString key = text := by
      decide
    rcases isSettled key overwritten with ⟨key, member, rfl⟩
    exact alike.settled key member
  · rw [← Entries.get?_without overwritten, alike.others, Entries.get?_without overwritten]

theorem mem_iff (alike : AlikeThroughout left right) {key : Text} {value : Value} :
    (.text key, value) ∈ left ↔ (.text key, value) ∈ right := by
  rw [← alike.isLeft.get?_eq_some_iff, ← alike.isRight.get?_eq_some_iff, alike.get?_eq]

end AlikeThroughout

/-- The logger that is entered is the one of the origin. -/
theorem logger_of_prepared (isPrepared : event.prepared origin = .ok next) :
    next.finished.valueOf? "logger" = some (.text origin.logger) := by
  rcases exists_severe_of_prepared isPrepared with ⟨severe, isSevere, found⟩
  rw [found "logger" (by decide), addAppName, valueOf?_putNew, if_neg (by decide),
    valueOf?_of_addSeverity (by decide) isSevere, valueOf?_put_of_ne (by decide),
    valueOf?_put_of_ne (by decide), valueOf?_put, if_pos rfl]
  rfl

end Event

end Syslog
