import Mathlib.Data.List.DropRight
import Syslog.Proofs.Message.Constraint
import Syslog.Proofs.Text.Decimal
import Syslog.Proofs.Time.Written

namespace Syslog

/-!
# The form of a written time

RFC 3339 writes a time as fields of decimal digits with marks between them, and it bounds the
number in each field.  The grammar is stated here on texts, without reference to dates and clocks
or to the way in which they are written.

Every time that can be formatted has this form, with one exception.  Offsets are cut to whole
minutes, downwards, and so one that is more than 23:59:00 behind UTC can become a whole day,
which an offset cannot be (`Rfc3339.formatted_times_are_wellFormed`).
-/

/-- The number that the digits of a text stand for. -/
def Text.number (digits : Text) : Nat := decimalValue digits.utf8

namespace Rfc3339

/-! ## The grammar -/

/-- A field of so many decimal digits, with a number between two bounds. -/
structure IsField (width least greatest : Nat) (text : Text) : Prop where
  length : text.length = width
  digit : ∀ c ∈ text, IsDigit c.val
  least_le : least ≤ text.number
  le_greatest : text.number ≤ greatest

inductive IsDate : Text → Prop
  | mk {year month day : Text} (isYear : IsField 4 1 9999 year) (isMonth : IsField 2 1 12 month)
      (isDay : IsField 2 1 (daysInMonth year.number month.number) day) :
      IsDate (year ++ CodePoint.ofChar '-' :: (month ++ CodePoint.ofChar '-' :: day))

inductive IsClock : Text → Prop
  | mk {hour minute second : Text} (isHour : IsField 2 0 23 hour)
      (isMinute : IsField 2 0 59 minute) (isSecond : IsField 2 0 59 second) :
      IsClock (hour ++ CodePoint.ofChar ':' :: (minute ++ CodePoint.ofChar ':' :: second))

/-- A part of a second that is not zero, without trailing zeros. -/
inductive IsFraction : Text → Prop
  | absent : IsFraction []
  | digits {digits : Text} (nonempty : digits ≠ []) (short : digits.length ≤ 9)
      (digit : ∀ c ∈ digits, IsDigit c.val)
      (trimmed : digits.getLast? ≠ some (CodePoint.ofChar '0')) :
      IsFraction (CodePoint.ofChar '.' :: digits)

/-- An offset from UTC of less than a day; none is written with a letter. -/
inductive IsOffset : Text → Prop
  | none : IsOffset [CodePoint.ofChar 'Z']
  | signed {sign : CodePoint} {hour minute : Text}
      (isSign : sign = .ofChar '+' ∨ sign = .ofChar '-')
      (isHour : IsField 2 0 23 hour) (isMinute : IsField 2 0 59 minute)
      (nonzero : hour.number ≠ 0 ∨ minute.number ≠ 0) :
      IsOffset (sign :: (hour ++ CodePoint.ofChar ':' :: minute))

inductive WellFormed : Text → Prop
  | mk {date clock fraction offset : Text} (isDate : IsDate date) (isClock : IsClock clock)
      (isFraction : IsFraction fraction) (isOffset : IsOffset offset) :
      WellFormed (date ++ CodePoint.ofChar 'T' :: (clock ++ (fraction ++ offset)))

end Rfc3339

/-! ## Fields -/

namespace Text

theorem number_append_singleton {c : CodePoint} (digit : IsDigit c.val) (front : Text) :
    number (front ++ [c]) = 10 * front.number + (c.val - 48) := by
  have ascii : c.val < 128 := Nat.lt_of_le_of_lt digit.2 (by decide)
  rw [number, utf8_append, utf8_cons, CodePoint.utf8_of_ascii ascii, utf8_nil, List.append_nil,
    decimalValue_append_singleton, toNat_ofNat_octet (by omega), number]

theorem length_fixed (width number : Nat) : (fixed width number).length = width := by
  induction width generalizing number with
  | zero => rfl
  | succ width inductionHypothesis =>
      rw [fixed, List.length_append, inductionHypothesis, List.length_singleton]

theorem val_digit (number : Nat) : (digit number).val - 48 = number % 10 := by
  have code : '0'.toNat + number % 10 < 0x110000 := by
    have small := Nat.mod_lt number (show 0 < 10 by decide)
    change 48 + number % 10 < 0x110000
    omega
  rw [digit, CodePoint.ofNat, dif_pos code]
  exact Nat.add_sub_cancel_left 48 _

/-- The last digits of a number stand for what is left of it. -/
theorem number_fixed (width number : Nat) :
    (fixed width number).number = number % Nat.pow 10 width := by
  induction width generalizing number with
  | zero => exact (Nat.mod_one number).symm
  | succ width inductionHypothesis =>
      have wider : Nat.pow 10 (width + 1) = 10 * Nat.pow 10 width := Nat.mul_comm _ 10
      rw [fixed, number_append_singleton (isDigit_digit number), inductionHypothesis, val_digit,
        wider, Nat.mod_mul, Nat.add_comm]

theorem number_of_zeros {text : Text} (zeros : ∀ c ∈ text, c = CodePoint.ofChar '0') :
    text.number = 0 := by
  induction text using List.reverseRecOn with
  | nil => rfl
  | append_singleton front last inductionHypothesis =>
      rw [List.forall_mem_append, List.forall_mem_singleton] at zeros
      rcases zeros with ⟨before, rfl⟩
      rw [number_append_singleton ⟨by decide, by decide⟩, inductionHypothesis before]
      rfl

end Text

namespace Rfc3339

theorem isField_fixed {width least greatest number : Nat} (least_le : least ≤ number)
    (le_greatest : number ≤ greatest) (fits : greatest < Nat.pow 10 width) :
    IsField width least greatest (Text.fixed width number) := by
  have same : (Text.fixed width number).number = number := by
    rw [Text.number_fixed, Nat.mod_eq_of_lt (Nat.lt_of_le_of_lt le_greatest fits)]
  exact {
    length := Text.length_fixed width number
    digit := Text.isDigit_fixed width number
    least_le := same.symm ▸ least_le
    le_greatest := same.symm ▸ le_greatest }

theorem daysInMonth_le (year month : Nat) : daysInMonth year month ≤ 31 := by
  rw [daysInMonth]
  split
  · split <;> decide
  · split <;> decide

/-! ## What is written -/

theorem isDate_written (date : Date) : IsDate date.written := by
  have year := Text.number_fixed 4 date.year
  have month := Text.number_fixed 2 date.month
  rw [Nat.mod_eq_of_lt (Nat.lt_of_le_of_lt date.year_le (by decide))] at year
  rw [Nat.mod_eq_of_lt (Nat.lt_of_le_of_lt date.month_le (by decide))] at month
  have short := Nat.lt_of_le_of_lt (daysInMonth_le date.year date.month) (show 31 < 100 by decide)
  rw [Date.written, List.append_assoc, List.cons_append]
  refine .mk (isField_fixed date.year_pos date.year_le (by decide))
    (isField_fixed date.month_pos date.month_le (by decide)) ?_
  rw [year, month]
  exact isField_fixed date.day_pos date.day_le short

theorem isClock_written (clock : Clock) : IsClock clock.written := by
  rw [Clock.written, sexagesimal, List.append_assoc, List.cons_append]
  exact .mk (isField_fixed (Nat.zero_le _) (Nat.le_of_lt_succ clock.hour_lt) (by decide))
    (isField_fixed (Nat.zero_le _) (Nat.le_of_lt_succ clock.minute_lt) (by decide))
    (isField_fixed (Nat.zero_le _) (Nat.le_of_lt_succ clock.second_lt) (by decide))

theorem isFraction_fraction {nanoseconds : Nat} (small : nanoseconds < 1000000000) :
    IsFraction (fraction nanoseconds) := by
  rw [fraction]
  split
  · exact .absent
  · next nonzero =>
      have digits := Text.isDigit_fixed 9 nanoseconds
      have front := List.rdropWhile_prefix (· = CodePoint.ofChar '0') (Text.fixed 9 nanoseconds)
      rw [show Text.dropEndWhile = List.rdropWhile from rfl]
      refine .digits ?_ ?_ ?_ ?_
      · rw [ne_eq, List.rdropWhile_eq_nil_iff]
        intro zeros
        have value := Text.number_of_zeros fun c member => of_decide_eq_true (zeros c member)
        rw [Text.number_fixed, Nat.mod_eq_of_lt small] at value
        exact nonzero value
      · rw [← Text.length_fixed 9 nanoseconds]
        exact front.length_le
      · exact fun c member => digits c (front.subset member)
      · intro zero
        rcases List.getLast?_eq_some_iff.mp zero with ⟨before, ended⟩
        have last := List.rdropWhile_last_not (· = CodePoint.ofChar '0') (Text.fixed 9 nanoseconds)
        simp [ended] at last

theorem offset_day : offset (-1440) = Text.ofString "-24:00" := by
  decide

theorem not_isOffset_day : ¬IsOffset (Text.ofString "-24:00") := by
  intro isOffset
  generalize parts : Text.ofString "-24:00" = text at isOffset
  cases isOffset with
  | none => exact absurd parts (by decide)
  | @signed sign hour minute _ isHour _ _ =>
      have split : Text.ofString "24" ++ Text.ofString ":00" =
        hour ++ CodePoint.ofChar ':' :: minute := (List.cons.inj parts).2
      have isDay := (List.append_inj split isHour.length.symm).1
      have small := isHour.le_greatest
      rw [← isDay] at small
      exact absurd small (by decide)

/-- An offset of less than a day is written as one, and a whole day is not. -/
theorem isOffset_offset_iff {minutes : Int} (least : -1440 ≤ minutes) (greatest : minutes ≤ 1439) :
    IsOffset (offset minutes) ↔ minutes ≠ -1440 := by
  constructor
  · rintro isOffset rfl
    rw [offset_day] at isOffset
    exact not_isOffset_day isOffset
  · intro notDay
    rw [offset]
    split
    · exact .none
    · next nonzero =>
        have hour : minutes.natAbs / 60 ≤ 23 := by omega
        have minute : minutes.natAbs % 60 ≤ 59 := by omega
        refine .signed ?_ (isField_fixed (Nat.zero_le _) hour (by decide))
          (isField_fixed (Nat.zero_le _) minute (by decide)) ?_
        · split
          · exact Or.inr rfl
          · exact Or.inl rfl
        · rw [Text.number_fixed, Text.number_fixed, Nat.mod_eq_of_lt (show _ < 100 by omega),
            Nat.mod_eq_of_lt (show _ < 100 by omega)]
          omega

/-- The offset of a time is what ends it. -/
theorem WellFormed.isOffset {stem ending : Text} (wellFormed : WellFormed (stem ++ ending))
    (length : ending.length = 6) (last : ending.getLast? ≠ some (.ofChar 'Z')) :
    IsOffset ending := by
  generalize same : stem ++ ending = text at wellFormed
  rcases wellFormed with @⟨date, clock, fraction, offset, _, _, _, isOffset⟩
  have split : stem ++ ending =
      (date ++ CodePoint.ofChar 'T' :: (clock ++ fraction)) ++ offset := by
    rw [same, List.append_assoc, List.cons_append, List.append_assoc]
  have short : offset.length = 6 := by
    cases isOffset with
    | none =>
        have lastOf := congrArg List.getLast? split
        rw [List.getLast?_append, List.getLast?_append] at lastOf
        cases found : ending.getLast? with
        | none =>
            rw [List.getLast?_eq_none_iff] at found
            subst found
            cases length
        | some c =>
            rw [found] at lastOf last
            exact absurd lastOf last
    | signed _ isHour isMinute _ =>
        rw [List.length_cons, List.length_append, List.length_cons, isHour.length, isMinute.length]
  rw [List.append_inj_right' split (length.trans short.symm)]
  exact isOffset

end Rfc3339

namespace UtcOffset

/-- The seconds of an offset are cut off towards zero, and its minutes downwards. -/
theorem minutes_cases (offset : UtcOffset) :
    (0 ≤ offset.microseconds ∧ offset.minutes = offset.microseconds / 1000000 / 60) ∨
      (offset.microseconds ≤ 0 ∧ offset.minutes = -(-offset.microseconds / 1000000) / 60) := by
  rcases offset with ⟨microseconds, _, _⟩
  rw [minutes, Int.fdiv_eq_ediv_of_nonneg _ (by decide)]
  dsimp only
  rcases Int.le_total 0 microseconds with nonnegative | nonpositive
  · rw [Int.tdiv_eq_ediv_of_nonneg nonnegative]
    exact Or.inl ⟨nonnegative, rfl⟩
  · have flipped : microseconds.tdiv 1000000 = -(-microseconds / 1000000) := by
      rw [← Int.tdiv_eq_ediv_of_nonneg (by omega), Int.neg_tdiv, Int.neg_neg]
    rw [flipped]
    exact Or.inr ⟨nonpositive, rfl⟩

/-- The minutes of an offset lie within a day, and are a whole day for those just below one. -/
theorem minutes_bounds (offset : UtcOffset) :
    (-1440 ≤ offset.minutes ∧ offset.minutes ≤ 1439) ∧
      (offset.minutes = -1440 ↔ offset.microseconds ≤ -86341000000) := by
  have least := offset.gt_neg_day
  have greatest := offset.lt_day
  rcases offset.minutes_cases with ⟨_, minutes⟩ | ⟨_, minutes⟩
  · omega
  · omega

end UtcOffset

/-! ## Times that are formatted -/

/-- That a clock is behind UTC by a day but for less than a minute. -/
def DateTime.IsAlmostDayBehind (dateTime : DateTime) : Prop :=
  ∃ offset, dateTime.zone = .fixed offset ∧ offset.microseconds ≤ -86341000000

/-- The whole minutes of the offset of a time, none if it has no offset. -/
def DateTime.offsetMinutes (dateTime : DateTime) : Int :=
  (dateTime.zone.offset?.map UtcOffset.minutes).getD 0

theorem DateTime.offsetMinutes_bounds (dateTime : DateTime) :
    (-1440 ≤ dateTime.offsetMinutes ∧ dateTime.offsetMinutes ≤ 1439) ∧
      (dateTime.offsetMinutes = -1440 ↔ dateTime.IsAlmostDayBehind) := by
  have without : ∀ zone : Zone, zone.offset? = none →
      let dateTime : DateTime := ⟨dateTime.date, dateTime.clock, zone⟩
      dateTime.offsetMinutes = 0 ∧ ¬dateTime.IsAlmostDayBehind := by
    intro zone noOffset
    refine ⟨?_, ?_⟩
    · rw [offsetMinutes, noOffset]
      rfl
    · rintro ⟨offset, isOffset, _⟩
      rw [show zone = .fixed offset from isOffset] at noOffset
      cases noOffset
  rcases dateTime with ⟨date, clock, zone⟩
  cases zone with
  | naive =>
      rcases without .naive rfl with ⟨zero, notBehind⟩
      rw [zero]
      exact ⟨by decide, iff_of_false (by decide) notBehind⟩
  | unknown =>
      rcases without .unknown rfl with ⟨zero, notBehind⟩
      rw [zero]
      exact ⟨by decide, iff_of_false (by decide) notBehind⟩
  | fixed offset =>
      refine ⟨offset.minutes_bounds.1, offset.minutes_bounds.2.trans ⟨fun behind => ?_, ?_⟩⟩
      · exact ⟨offset, rfl, behind⟩
      · rintro ⟨_, isOffset, behind⟩
        cases isOffset
        exact behind

namespace Rfc3339

/-- All that stands before the offset of a written time keeps to the form, whatever the offset. -/
theorem exists_stem_of_written (dateTime : DateTime) {nanoseconds : Nat}
    (small : nanoseconds < 1000000000) :
    ∃ stem, written dateTime nanoseconds = stem ++ offset dateTime.offsetMinutes ∧
      ∀ ending, IsOffset ending → WellFormed (stem ++ ending) := by
  refine ⟨_, rfl, fun ending isOffset => ?_⟩
  rw [List.append_assoc, List.append_assoc, List.cons_append]
  exact .mk (isDate_written _) (isClock_written _) (isFraction_fraction small) isOffset

theorem wellFormed_written_iff (dateTime : DateTime) {nanoseconds : Nat}
    (small : nanoseconds < 1000000000) :
    WellFormed (written dateTime nanoseconds) ↔ ¬dateTime.IsAlmostDayBehind := by
  rcases dateTime.offsetMinutes_bounds with ⟨⟨least, greatest⟩, isDay⟩
  rcases exists_stem_of_written dateTime small with ⟨stem, same, complete⟩
  rw [same, ← isDay]
  constructor
  · intro wellFormed day
    rw [day] at wellFormed
    have isOffset := wellFormed.isOffset (by decide) (by decide)
    exact (isOffset_offset_iff (by decide) (by decide)).mp isOffset rfl
  · exact fun notDay => complete _ ((isOffset_offset_iff least greatest).mpr notDay)

/-- An integer is formatted as a time of UTC. -/
theorem zone_of_ofNanoseconds? {nanoseconds : Int} {timestamp : Timestamp}
    (found : Timestamp.ofNanoseconds? nanoseconds = some timestamp) :
    timestamp.dateTime.zone = .utc := by
  rcases Option.map_eq_some_iff.mp found with ⟨dateTime, isDateTime, rfl⟩
  rw [DateTime.ofSeconds?, DateTime.ofMicroseconds?] at isDateTime
  split at isDateTime
  · rcases Option.map_eq_some_iff.mp isDateTime with ⟨date, _, rfl⟩
    rfl
  · cases isDateTime

/-- That a value is a time whose clock is almost a day behind UTC. -/
def IsAlmostDayBehind (value : Value) : Prop :=
  ∃ dateTime, value = .time dateTime ∧ dateTime.IsAlmostDayBehind

theorem isAlmostDayBehind_iff {value : Value} {timestamp : Timestamp}
    (found : Timestamp.ofValue? value = some timestamp) :
    timestamp.dateTime.IsAlmostDayBehind ↔ IsAlmostDayBehind value := by
  cases value with
  | time dateTime =>
      cases found
      refine ⟨fun behind => ⟨dateTime, rfl, behind⟩, ?_⟩
      rintro ⟨_, same, behind⟩
      cases same
      exact behind
  | int nanoseconds =>
      refine iff_of_false ?_ ?_
      · rintro ⟨offset, isOffset, behind⟩
        rw [zone_of_ofNanoseconds? found] at isOffset
        cases isOffset
        exact absurd behind (by decide)
      · rintro ⟨_, same, _⟩
        cases same
  | _ => cases found

/-- The values that are formatted are times, and the integers whose second is in the calendar.
Their texts have the form of RFC 3339 unless the clock is almost a day behind UTC.  Then all but
the offset keeps to that form, and the offset is written as a whole day. -/
theorem formatted_times_are_wellFormed (value : Value) :
    ((∃ text, Timestamp.format value = .ok text) ↔
      (∃ dateTime, value = .time dateTime) ∨
        ∃ nanoseconds : Int, value = .int nanoseconds ∧
          DateTime.IsInCalendar (nanoseconds / 1000000000)) ∧
      ∀ text, Timestamp.format value = .ok text →
        (WellFormed text ↔ ¬IsAlmostDayBehind value) ∧
          (IsAlmostDayBehind value → ∃ stem, text = stem ++ Text.ofString "-24:00" ∧
            ∀ ending, IsOffset ending → WellFormed (stem ++ ending)) := by
  constructor
  · have accepted := @Timestamp.ofValue?_isSome_iff value false
    refine Iff.trans ?_ accepted
    simp only [Timestamp.format_eq_ok_iff, Option.isSome_iff_exists, exists_comm (α := Text),
      exists_and_left, exists_eq', and_true]
  · intro text formatted
    rcases Timestamp.format_eq_ok_iff.mp formatted with ⟨timestamp, found, rfl⟩
    rw [← isAlmostDayBehind_iff found]
    refine ⟨wellFormed_written_iff _ timestamp.nanoseconds_lt, fun behind => ?_⟩
    rcases exists_stem_of_written timestamp.dateTime timestamp.nanoseconds_lt with
      ⟨stem, same, complete⟩
    rw [timestamp.dateTime.offsetMinutes_bounds.2.mpr behind] at same
    rw [offset_day] at same
    exact ⟨stem, same, complete⟩

/-- A time on the tenth of March 2024 with the given offset. -/
def inMarch (offset : UtcOffset) : Value :=
  .time ⟨⟨2024, 3, 10, by decide, by decide, by decide, by decide, by decide, by decide⟩,
    ⟨1, 2, 3, 40, by decide, by decide, by decide, by decide⟩, .fixed offset⟩

/-- The last offset that is written in the form of RFC 3339, and the first that is not. -/
theorem formatted_times_are_wellFormed_of_bounds :
    let last := inMarch ⟨-86340999999, by decide, by decide⟩
    let first := inMarch ⟨-86341000000, by decide, by decide⟩
    (∃ text, Timestamp.format last = .ok text ∧ WellFormed text) ∧
      ∃ text stem, Timestamp.format first = .ok text ∧ ¬WellFormed text ∧
        text = stem ++ Text.ofString "-24:00" := by
  intro last first
  have notBehind : ¬IsAlmostDayBehind last := by
    rintro ⟨_, same, offset, isOffset, behind⟩
    rw [← Value.time.inj same] at isOffset
    cases isOffset
    exact absurd behind (by decide)
  have behind : IsAlmostDayBehind first := ⟨_, rfl, _, rfl, by decide⟩
  rcases (formatted_times_are_wellFormed last).2 _ rfl with ⟨lastFormed, _⟩
  rcases (formatted_times_are_wellFormed first).2 _ rfl with ⟨firstFormed, isDay⟩
  rcases isDay behind with ⟨stem, same, _⟩
  exact ⟨⟨_, rfl, lastFormed.mpr notBehind⟩, _, stem, rfl,
    fun formed => firstFormed.mp formed behind, same⟩

/-- A clock that is 23:59:59 behind UTC is written with an offset of a whole day. -/
theorem day_long_offset_is_written :
    Timestamp.format (inMarch ⟨-86399000000, by decide, by decide⟩) =
        .ok (Text.ofString "2024-03-10T01:02:03.00004-24:00") ∧
      ¬WellFormed (Text.ofString "2024-03-10T01:02:03.00004-24:00") := by
  refine ⟨rfl, fun wellFormed => not_isOffset_day ?_⟩
  exact @WellFormed.isOffset (Text.ofString "2024-03-10T01:02:03.00004") _ wellFormed (by decide)
    (by decide)

end Rfc3339

end Syslog
