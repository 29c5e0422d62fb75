import Mathlib.Data.List.DropRight
import Syslog.Proofs.Time.WellFormed

namespace Syslog

/-!
# The instant that a written time denotes

A written time is read here field by field, without reference to dates and clocks or to the way
in which they are written.  What has been read denotes an instant: the days of the date and the
seconds of the clock, less the offset.  The reader takes the numbers as they stand, and which of
them RFC 3339 allows is a matter of `Rfc3339.WellFormed`.

Nothing is lost of an integer number of nanoseconds (`Rfc3339.integers_are_read_back`).  Of a date
and a clock nothing is lost either, but an offset is read back only as far as it is made of
whole minutes (`Rfc3339.times_are_read_back`).
-/

/-! ## Digits -/

instance (code : Nat) : Decidable (IsDigit code) := inferInstanceAs (Decidable (_ ∧ _))

namespace CodePoint

/-- A decimal digit of ASCII. -/
def isAsciiDigit (c : CodePoint) : Bool := c.within '0' '9'

theorem isAsciiDigit_iff {c : CodePoint} : c.isAsciiDigit = true ↔ IsDigit c.val := by
  rw [isAsciiDigit, within, Bool.and_eq_true, decide_eq_true_eq, decide_eq_true_eq]
  exact Iff.rfl

end CodePoint

namespace Text

/-- Digits without the zeros that end them. -/
def withoutZeros (digits : Text) : Text := digits.dropEndWhile (· = .ofChar '0')

/-- Digits in front count for as much more as there are digits behind them. -/
theorem number_append (front : Text) {digits : Text} (digit : ∀ c ∈ digits, IsDigit c.val) :
    number (front ++ digits) = front.number * Nat.pow 10 digits.length + digits.number := by
  induction digits using List.reverseRecOn with
  | nil =>
      rw [List.append_nil]
      exact (Nat.mul_one _).symm
  | append_singleton digits last inductionHypothesis =>
      rw [List.forall_mem_append, List.forall_mem_singleton] at digit
      have power : Nat.pow 10 (digits.length + 1) = 10 * Nat.pow 10 digits.length :=
        Nat.mul_comm _ 10
      rw [← List.append_assoc, number_append_singleton digit.2, number_append_singleton digit.2,
        inductionHypothesis digit.1, List.length_append, List.length_singleton, power, Nat.mul_add,
        Nat.mul_left_comm, Nat.add_assoc]

theorem exists_zeros (digits : Text) :
    ∃ zeros, digits = digits.withoutZeros ++ zeros ∧ ∀ c ∈ zeros, c = CodePoint.ofChar '0' := by
  let isZero : CodePoint → Bool := fun c => c = CodePoint.ofChar '0'
  refine ⟨digits.rtakeWhile isZero, List.rdropWhile_append_rtakeWhile.symm, fun c member => ?_⟩
  exact of_decide_eq_true (List.mem_rtakeWhile_imp (p := isZero) member)

/-- Digits that have lost the zeros at their end stand for what they stood for, once it is known how
many digits there were. -/
theorem number_take_eq {digits : Text} {count : Nat} (enough : count ≤ digits.length) :
    number (digits.take count) =
      number (digits.withoutZeros.take count) *
        Nat.pow 10 (count - digits.withoutZeros.length) := by
  rcases digits.exists_zeros with ⟨zeros, same, zero⟩
  have total : digits.length = digits.withoutZeros.length + zeros.length := by
    rw [← List.length_append, ← same]
  have taken : (zeros.take (count - digits.withoutZeros.length)).length =
      count - digits.withoutZeros.length := by
    rw [List.length_take]
    omega
  have split : digits.take count =
      digits.withoutZeros.take count ++ zeros.take (count - digits.withoutZeros.length) := by
    rw [← List.take_append, ← same]
  have nothing : ∀ c ∈ zeros.take (count - digits.withoutZeros.length), c = CodePoint.ofChar '0' :=
    fun c member => zero c (List.mem_of_mem_take member)
  have digit : ∀ c ∈ zeros.take (count - digits.withoutZeros.length), IsDigit c.val := by
    intro c member
    rw [nothing c member]
    decide
  rw [split, number_append _ digit, number_of_zeros nothing, taken, Nat.add_zero]

theorem fixed_add (width more number : Nat) :
    fixed (width + more) number = fixed width (number / Nat.pow 10 more) ++ fixed more number := by
  induction more generalizing number with
  | zero =>
      rw [show number / Nat.pow 10 0 = number from Nat.div_one number]
      exact (List.append_nil _).symm
  | succ more inductionHypothesis =>
      have power : Nat.pow 10 (more + 1) = 10 * Nat.pow 10 more := Nat.mul_comm _ 10
      rw [← Nat.add_assoc, fixed, inductionHypothesis, power, ← Nat.div_div_eq_div_mul,
        List.append_assoc, fixed]

end Text

/-! ## Reading -/

namespace Rfc3339

/-- What a written time says, field by field; the offset is in minutes. -/
structure Moment where
  year : Nat
  month : Nat
  day : Nat
  hour : Nat
  minute : Nat
  second : Nat
  nanoseconds : Nat
  offset : Int
deriving DecidableEq

namespace Moment

/-- The ordinal of the date, counted as days of the calendar. -/
def ordinal (moment : Moment) : Nat :=
  daysBeforeYear moment.year + daysBeforeMonth moment.year moment.month + moment.day

/-- Seconds from the first of January 1970 by the clock that shows them. -/
def localSeconds (moment : Moment) : Int :=
  ((moment.ordinal : Int) - (daysBeforeYear 1970 + 1 : Nat)) * 86400 +
    (moment.hour * 3600 + moment.minute * 60 + moment.second : Nat)

/-- Nanoseconds from the epoch. -/
def instant (moment : Moment) : Int :=
  (moment.localSeconds - moment.offset * 60) * 1000000000 + moment.nanoseconds

end Moment

/-- A number of exactly `width` digits, and what follows it. -/
def number? (width : Nat) (text : Text) : Option (Nat × Text) :=
  let digits : Text := text.take width
  if digits.length = width ∧ digits.all CodePoint.isAsciiDigit = true then
    some (digits.number, text.drop width)
  else none

/-- A number behind a mark. -/
def field? (mark : CodePoint) (width : Nat) : Text → Option (Nat × Text)
  | [] => none
  | c :: rest => if c = mark then number? width rest else none

/-- A part of a second in nanoseconds, if there is one. -/
def fraction? : Text → Option (Nat × Text)
  | [] => some (0, [])
  | c :: rest =>
    if c = .ofChar '.' then
      let digits : Text := rest.takeWhile CodePoint.isAsciiDigit
      if 1 ≤ digits.length ∧ digits.length ≤ 9 then
        some (digits.number * Nat.pow 10 (9 - digits.length), rest.dropWhile CodePoint.isAsciiDigit)
      else none
    else some (0, c :: rest)

/-- An offset in minutes, with which the text ends. -/
def offset? : Text → Option Int
  | [] => none
  | sign :: rest =>
    if sign = .ofChar 'Z' then if rest.isEmpty then some 0 else none
    else do
      let (hour, rest) ← number? 2 rest
      let (minute, rest) ← field? ':' 2 rest
      let minutes : Int := (hour * 60 + minute : Nat)
      if !rest.isEmpty then none
      else if sign = .ofChar '+' then some minutes
      else if sign = .ofChar '-' then some (-minutes)
      else none

def read? (text : Text) : Option Moment := do
  let (year, rest) ← number? 4 text
  let (month, rest) ← field? '-' 2 rest
  let (day, rest) ← field? '-' 2 rest
  let (hour, rest) ← field? 'T' 2 rest
  let (minute, rest) ← field? ':' 2 rest
  let (second, rest) ← field? ':' 2 rest
  let (nanoseconds, rest) ← fraction? rest
  let offset ← offset? rest
  return { year, month, day, hour, minute, second, nanoseconds, offset }

theorem all_isAsciiDigit {digits : Text} (digit : ∀ c ∈ digits, IsDigit c.val) :
    digits.all CodePoint.isAsciiDigit = true :=
  List.all_eq_true.mpr fun c member => CodePoint.isAsciiDigit_iff.mpr (digit c member)

/-- A number that fits is read back from its field. -/
theorem number?_fixed {width number : Nat} (fits : number < Nat.pow 10 width) (rest : Text) :
    number? width (Text.fixed width number ++ rest) = some (number, rest) := by
  have length := Text.length_fixed width number
  have digits := all_isAsciiDigit (Text.isDigit_fixed width number)
  rw [number?, List.take_left' length, List.drop_left' length, if_pos ⟨length, digits⟩,
    Text.number_fixed, Nat.mod_eq_of_lt fits]

theorem field?_fixed {width number : Nat} (fits : number < Nat.pow 10 width) (mark : CodePoint)
    (rest : Text) :
    field? mark width (mark :: (Text.fixed width number ++ rest)) = some (number, rest) := by
  rw [field?, if_pos rfl, number?_fixed fits]

/-- The digits of a part of a second that is not zero. -/
def fractionDigits (nanoseconds : Nat) : Text := (Text.fixed 9 nanoseconds).withoutZeros

theorem fraction_eq {nanoseconds : Nat} (nonzero : nanoseconds ≠ 0) :
    fraction nanoseconds = CodePoint.ofChar '.' :: fractionDigits nanoseconds := if_neg nonzero

theorem isDigit_fractionDigits (nanoseconds : Nat) :
    ∀ c ∈ fractionDigits nanoseconds, IsDigit c.val :=
  fun c member => Text.isDigit_fixed 9 nanoseconds c (Text.mem_of_mem_dropEndWhile member)

theorem length_fractionDigits_le (nanoseconds : Nat) :
    (fractionDigits nanoseconds).length ≤ 9 := by
  rw [← Text.length_fixed 9 nanoseconds]
  exact (List.rdropWhile_prefix (· = CodePoint.ofChar '0') (Text.fixed 9 nanoseconds)).length_le

/-- The first digits of a part of a second stand for what they would stand for with all zeros. -/
theorem number_fractionDigits {count : Nat} (enough : count ≤ 9) (nanoseconds : Nat) :
    Text.number ((fractionDigits nanoseconds).take count) *
        Nat.pow 10 (count - (fractionDigits nanoseconds).length) =
      nanoseconds / Nat.pow 10 (9 - count) % Nat.pow 10 count := by
  have nine : count + (9 - count) = 9 := Nat.add_sub_of_le enough
  have whole : (Text.fixed 9 nanoseconds).take count =
      Text.fixed count (nanoseconds / Nat.pow 10 (9 - count)) := by
    have split := Text.fixed_add count (9 - count) nanoseconds
    rw [nine] at split
    rw [split, List.take_left' (Text.length_fixed _ _)]
  rw [fractionDigits, ← Text.number_take_eq (by rw [Text.length_fixed]; exact enough), whole,
    Text.number_fixed]

theorem fractionDigits_ne_nil {nanoseconds : Nat} (small : nanoseconds < 1000000000)
    (nonzero : nanoseconds ≠ 0) : fractionDigits nanoseconds ≠ [] := by
  intro none
  have number := number_fractionDigits (Nat.le_refl 9) nanoseconds
  rw [none] at number
  change 0 * _ = nanoseconds / 1 % 1000000000 at number
  omega

/-- A part of a second is read back if no digit follows it. -/
theorem fraction?_fraction {nanoseconds : Nat} (small : nanoseconds < 1000000000) {c : CodePoint}
    (notDigit : ¬IsDigit c.val) (notPoint : c ≠ .ofChar '.') (rest : Text) :
    fraction? (fraction nanoseconds ++ c :: rest) = some (nanoseconds, c :: rest) := by
  by_cases zero : nanoseconds = 0
  · subst zero
    exact if_neg notPoint
  · have inside : ∀ c ∈ fractionDigits nanoseconds, c.isAsciiDigit = true :=
      fun c member => CodePoint.isAsciiDigit_iff.mpr (isDigit_fractionDigits nanoseconds c member)
    have outside : ¬c.isAsciiDigit = true :=
      fun within => notDigit (CodePoint.isAsciiDigit_iff.mp within)
    have taken : (fractionDigits nanoseconds ++ c :: rest).takeWhile CodePoint.isAsciiDigit =
        fractionDigits nanoseconds := by
      rw [List.takeWhile_append_of_pos inside, List.takeWhile_cons_of_neg outside, List.append_nil]
    have dropped : (fractionDigits nanoseconds ++ c :: rest).dropWhile CodePoint.isAsciiDigit =
        c :: rest := by
      rw [List.dropWhile_append_of_pos inside, List.dropWhile_cons_of_neg outside]
    have long : 1 ≤ (fractionDigits nanoseconds).length :=
      List.length_pos_of_ne_nil (fractionDigits_ne_nil small zero)
    have short := length_fractionDigits_le nanoseconds
    have number := number_fractionDigits (Nat.le_refl 9) nanoseconds
    rw [List.take_of_length_le short] at number
    rw [fraction_eq zero, List.cons_append, fraction?, if_pos rfl]
    dsimp only
    rw [taken, dropped, if_pos ⟨long, short⟩, number]
    change some (nanoseconds / 1 % 1000000000, c :: rest) = _
    rw [Nat.div_one, Nat.mod_eq_of_lt small]

theorem offset_of_ne_zero {minutes : Int} (nonzero : minutes ≠ 0) :
    offset minutes = (if minutes < 0 then CodePoint.ofChar '-' else CodePoint.ofChar '+') ::
      sexagesimal (minutes.natAbs / 60) (minutes.natAbs % 60) := if_neg nonzero

/-- An offset is read back, a whole day included. -/
theorem offset?_offset {minutes : Int} (inside : minutes.natAbs ≤ 1440) :
    offset? (offset minutes) = some minutes := by
  by_cases zero : minutes = 0
  · subst zero
    rfl
  · have hour : minutes.natAbs / 60 < Nat.pow 10 2 := by
      change _ < 100
      omega
    have minute : minutes.natAbs % 60 < Nat.pow 10 2 := by
      change _ < 100
      omega
    have total : minutes.natAbs / 60 * 60 + minutes.natAbs % 60 = minutes.natAbs :=
      Nat.div_add_mod' _ 60
    have last := field?_fixed minute (CodePoint.ofChar ':') []
    rw [List.append_nil] at last
    rw [offset_of_ne_zero zero, sexagesimal]
    split
    · rw [offset?, if_neg (by decide), number?_fixed hour]
      simp only [Option.bind_eq_bind, Option.bind_some, last, total]
      change some (-(minutes.natAbs : Int)) = some minutes
      exact congrArg some (by omega)
    · rw [offset?, if_neg (by decide), number?_fixed hour]
      simp only [Option.bind_eq_bind, Option.bind_some, last, total]
      change some (minutes.natAbs : Int) = some minutes
      exact congrArg some (by omega)

/-- An offset starts with something that ends a part of a second. -/
theorem exists_offset_eq_cons (minutes : Int) :
    ∃ c rest, offset minutes = c :: rest ∧ ¬IsDigit c.val ∧ c ≠ .ofChar '.' := by
  by_cases zero : minutes = 0
  · subst zero
    exact ⟨.ofChar 'Z', [], rfl, by decide, by decide⟩
  · rw [offset_of_ne_zero zero]
    refine ⟨_, _, rfl, ?_⟩
    split
    · exact ⟨by decide, by decide⟩
    · exact ⟨by decide, by decide⟩

/-- The fields of a written time one after another, each mark in front of what it announces. -/
theorem written_eq (dateTime : DateTime) (nanoseconds : Nat) :
    written dateTime nanoseconds =
      Text.fixed 4 dateTime.date.year ++ CodePoint.ofChar '-' ::
        (Text.fixed 2 dateTime.date.month ++ CodePoint.ofChar '-' ::
          (Text.fixed 2 dateTime.date.day ++ CodePoint.ofChar 'T' ::
            (Text.fixed 2 dateTime.clock.hour ++ CodePoint.ofChar ':' ::
              (Text.fixed 2 dateTime.clock.minute ++ CodePoint.ofChar ':' ::
                (Text.fixed 2 dateTime.clock.second ++
                  (fraction nanoseconds ++ offset dateTime.offsetMinutes)))))) := by
  simp only [written, Date.written, Clock.written, sexagesimal, List.append_assoc,
    List.cons_append, DateTime.offsetMinutes]

end Rfc3339

/-- The numbers of a date have room in the fields that they are written in. -/
theorem Date.fields_fit (date : Date) :
    date.year < Nat.pow 10 4 ∧ date.month < Nat.pow 10 2 ∧ date.day < Nat.pow 10 2 :=
  have day := Nat.le_trans date.day_le (Rfc3339.daysInMonth_le _ _)
  ⟨Nat.lt_of_le_of_lt date.year_le (by decide), Nat.lt_of_le_of_lt date.month_le (by decide),
    Nat.lt_of_le_of_lt day (by decide)⟩

theorem Clock.fields_fit (clock : Clock) :
    clock.hour < Nat.pow 10 2 ∧ clock.minute < Nat.pow 10 2 ∧ clock.second < Nat.pow 10 2 :=
  ⟨Nat.lt_trans clock.hour_lt (by decide), Nat.lt_trans clock.minute_lt (by decide),
    Nat.lt_trans clock.second_lt (by decide)⟩

/-- What is written of a time with its part of a second given apart. -/
def DateTime.moment (dateTime : DateTime) (nanoseconds : Nat) : Rfc3339.Moment where
  year := dateTime.date.year
  month := dateTime.date.month
  day := dateTime.date.day
  hour := dateTime.clock.hour
  minute := dateTime.clock.minute
  second := dateTime.clock.second
  nanoseconds
  offset := dateTime.offsetMinutes

namespace Rfc3339

/-- All that is written is read back. -/
theorem read?_written (dateTime : DateTime) {nanoseconds : Nat}
    (small : nanoseconds < 1000000000) :
    read? (written dateTime nanoseconds) = some (dateTime.moment nanoseconds) := by
  rcases dateTime with ⟨date, clock, zone⟩
  rcases date.fields_fit with ⟨year, month, day⟩
  rcases clock.fields_fit with ⟨hour, minute, second⟩
  rcases DateTime.offsetMinutes_bounds ⟨date, clock, zone⟩ with ⟨⟨least, greatest⟩, _⟩
  have ending := offset?_offset
    (show (DateTime.offsetMinutes ⟨date, clock, zone⟩).natAbs ≤ 1440 by omega)
  rcases exists_offset_eq_cons (DateTime.offsetMinutes ⟨date, clock, zone⟩) with
    ⟨c, rest, same, notDigit, notPoint⟩
  rw [written_eq, read?, number?_fixed year]
  simp only [Option.bind_eq_bind, Option.bind_some, field?_fixed month, field?_fixed day,
    field?_fixed hour, field?_fixed minute, field?_fixed second, same,
    fraction?_fraction small notDigit notPoint]
  rw [← same, ending]
  rfl

end Rfc3339

/-! ## Instants -/

namespace UtcOffset

/-- Less than a minute of an offset is lost, and nothing of whole minutes. -/
theorem minutes_near (offset : UtcOffset) :
    (offset.microseconds - offset.minutes * 60000000).natAbs < 60000000 ∧
      (offset.microseconds % 60000000 = 0 → offset.minutes * 60000000 = offset.microseconds) := by
  rcases offset.minutes_cases with ⟨_, minutes⟩ | ⟨_, minutes⟩
  · omega
  · omega

end UtcOffset

namespace Clock

/-- The clock with another part of the second. -/
def withMicrosecond (clock : Clock) (microsecond : Nat) (small : microsecond < 1000000) : Clock :=
  { clock with microsecond, microsecond_lt := small }

theorem eq_of_seconds_eq {left right : Clock} (same : left.seconds = right.seconds) :
    left.hour = right.hour ∧ left.minute = right.minute ∧ left.second = right.second := by
  have minute := left.minute_lt
  have second := left.second_lt
  have minuteRight := right.minute_lt
  have secondRight := right.second_lt
  simp only [seconds] at same
  omega

end Clock

namespace DateTime

/-- The offset of a time in microseconds, none if it has no offset. -/
def offsetMicroseconds (dateTime : DateTime) : Int :=
  (dateTime.zone.offset?.map UtcOffset.microseconds).getD 0

/-- Whole seconds from the epoch by the local clock. -/
def localSeconds (dateTime : DateTime) : Int :=
  ((dateTime.date.ordinal : Int) - epochOrdinal) * 86400 + dateTime.clock.seconds

theorem localMicroseconds_eq (dateTime : DateTime) :
    dateTime.localMicroseconds = dateTime.localSeconds * 1000000 + dateTime.clock.microsecond := rfl

theorem instant_eq (dateTime : DateTime) :
    dateTime.instant = dateTime.localMicroseconds - dateTime.offsetMicroseconds := rfl

/-- Offsets are less than a day. -/
theorem natAbs_offsetMicroseconds_lt (dateTime : DateTime) :
    dateTime.offsetMicroseconds.natAbs < 86400000000 := by
  rw [offsetMicroseconds]
  cases dateTime.zone.offset? with
  | none => decide
  | some offset =>
      have greater := offset.gt_neg_day
      have less := offset.lt_day
      change offset.microseconds.natAbs < 86400000000
      omega

theorem offsetMinutes_near (dateTime : DateTime) :
    (dateTime.offsetMicroseconds - dateTime.offsetMinutes * 60000000).natAbs < 60000000 ∧
      (dateTime.offsetMicroseconds % 60000000 = 0 →
        dateTime.offsetMinutes * 60000000 = dateTime.offsetMicroseconds) := by
  rw [offsetMicroseconds, offsetMinutes]
  cases dateTime.zone.offset? with
  | none => exact ⟨by decide, fun _ => rfl⟩
  | some offset => exact offset.minutes_near

theorem instant_moment (dateTime : DateTime) (nanoseconds : Nat) :
    (dateTime.moment nanoseconds).instant =
      (dateTime.localSeconds - dateTime.offsetMinutes * 60) * 1000000000 + nanoseconds := by
  have seconds : (dateTime.moment nanoseconds).localSeconds = dateTime.localSeconds := rfl
  rw [Rfc3339.Moment.instant, seconds]
  rfl

theorem eq_of_localSeconds_eq {left right : DateTime}
    (same : left.localSeconds = right.localSeconds) :
    left.date = right.date ∧ left.clock.seconds = right.clock.seconds := by
  have inside := left.clock.seconds_lt
  have insideRight := right.clock.seconds_lt
  simp only [localSeconds] at same
  exact ⟨Date.eq_of_ordinal_eq (by omega), by omega⟩

/-- The UTC time of a number of microseconds is that many microseconds from the epoch. -/
theorem of_ofMicroseconds?_eq_some {microseconds : Int} {dateTime : DateTime}
    (found : ofMicroseconds? microseconds = some dateTime) :
    dateTime.zone = .utc ∧ dateTime.localMicroseconds = microseconds := by
  rw [ofMicroseconds?, Int.fdiv_eq_ediv_of_nonneg microseconds (by decide),
    Int.fdiv_eq_ediv_of_nonneg _ (by decide), Int.fmod_eq_emod_of_nonneg _ (by decide),
    Int.fmod_eq_emod_of_nonneg _ (by decide)] at found
  split at found
  · rcases Option.map_eq_some_iff.mp found with ⟨date, foundDate, rfl⟩
    rcases Date.of_ofOrdinal?_eq_some foundDate with ⟨_, ordinal⟩
    refine ⟨rfl, ?_⟩
    have seconds := Clock.ofSeconds_seconds
      (show (microseconds / 1000000 % 86400).toNat < 86400 by omega)
      (microseconds % 1000000).toNat
    rw [localMicroseconds_eq, localSeconds, seconds, ordinal]
    simp only [Clock.ofSeconds]
    omega
  · cases found

end DateTime

namespace Rfc3339

/-- Times are written alike if their clocks show the same second and their offsets are the same. -/
theorem written_congr {left right : DateTime} (seconds : left.localSeconds = right.localSeconds)
    (offset : left.offsetMinutes = right.offsetMinutes) (nanoseconds : Nat) :
    written left nanoseconds = written right nanoseconds := by
  rcases DateTime.eq_of_localSeconds_eq seconds with ⟨date, clock⟩
  rcases Clock.eq_of_seconds_eq clock with ⟨hour, minute, second⟩
  rw [written_eq, written_eq, date, hour, minute, second, offset]

/-! ## Integers -/

/-- An integer is cut into the seconds of a UTC time and what is left of them. -/
theorem of_ofNanoseconds?_eq_some {nanoseconds : Int} {timestamp : Timestamp}
    (found : Timestamp.ofNanoseconds? nanoseconds = some timestamp) :
    timestamp.dateTime.zone = .utc ∧
      timestamp.dateTime.localSeconds = nanoseconds / 1000000000 ∧
      (timestamp.nanoseconds : Int) = nanoseconds % 1000000000 := by
  rcases Option.map_eq_some_iff.mp found with ⟨dateTime, isDateTime, rfl⟩
  rcases DateTime.of_ofMicroseconds?_eq_some isDateTime with ⟨zone, whole⟩
  rw [Int.fdiv_eq_ediv_of_nonneg nanoseconds (by decide), DateTime.localMicroseconds_eq] at whole
  have microsecond := dateTime.clock.microsecond_lt
  dsimp only
  rw [Int.fmod_eq_emod_of_nonneg _ (by decide)]
  exact ⟨zone, by omega, by omega⟩

/-- The text of an integer is a time of UTC. -/
theorem exists_written_of_format {nanoseconds : Int} {text : Text}
    (formatted : Timestamp.format (.int nanoseconds) = .ok text) :
    ∃ (dateTime : DateTime) (part : Nat), part < 1000000000 ∧ dateTime.zone = .utc ∧
      dateTime.localSeconds = nanoseconds / 1000000000 ∧ (part : Int) = nanoseconds % 1000000000 ∧
      text = written dateTime part := by
  rcases Timestamp.format_eq_ok_iff.mp formatted with ⟨timestamp, found, rfl⟩
  rcases of_ofNanoseconds?_eq_some found with ⟨zone, seconds, part⟩
  exact ⟨timestamp.dateTime, timestamp.nanoseconds, timestamp.nanoseconds_lt, zone, seconds, part,
    rfl⟩

end Rfc3339

/-- That a zone counts as UTC: it has an offset of zero, or none. -/
def Zone.CountsAsUtc (zone : Zone) : Prop :=
  ∀ offset, zone = .fixed offset → offset.microseconds = 0

namespace DateTime

variable {dateTime : DateTime}

theorem offset_of_countsAsUtc (utc : dateTime.zone.CountsAsUtc) :
    dateTime.offsetMicroseconds = 0 ∧ dateTime.offsetMinutes = 0 := by
  have zero : dateTime.offsetMicroseconds = 0 := by
    rcases dateTime with ⟨date, clock, zone⟩
    cases zone with
    | naive | unknown => rfl
    | fixed offset => exact utc offset rfl
  have whole := dateTime.offsetMinutes_near.2 (by rw [zero]; rfl)
  exact ⟨zero, by omega⟩

theorem instant_of_countsAsUtc (utc : dateTime.zone.CountsAsUtc) :
    dateTime.instant = dateTime.localSeconds * 1000000 + dateTime.clock.microsecond := by
  rw [instant_eq, (offset_of_countsAsUtc utc).1, Int.sub_zero, localMicroseconds_eq]

end DateTime

theorem Zone.countsAsUtc_utc : Zone.utc.CountsAsUtc := by
  intro offset same
  cases same
  rfl

namespace Rfc3339

/-- A UTC time and an integer for the same instant have the same text. -/
theorem format_time_of_instant_eq {nanoseconds : Int} {dateTime : DateTime} {text : Text}
    (formatted : Timestamp.format (.int nanoseconds) = .ok text)
    (utc : dateTime.zone.CountsAsUtc) (same : dateTime.instant * 1000 = nanoseconds) :
    Timestamp.format (.time dateTime) = .ok text := by
  rcases exists_written_of_format formatted with ⟨found, part, _, zone, seconds, rest, rfl⟩
  have foundUtc : found.zone.CountsAsUtc := zone ▸ Zone.countsAsUtc_utc
  have microsecond := dateTime.clock.microsecond_lt
  rw [DateTime.instant_of_countsAsUtc utc] at same
  have parts : dateTime.clock.microsecond * 1000 = part := by omega
  have minutes : dateTime.offsetMinutes = found.offsetMinutes := by
    rw [(DateTime.offset_of_countsAsUtc utc).2, (DateTime.offset_of_countsAsUtc foundUtc).2]
  change Except.ok (written dateTime (dateTime.clock.microsecond * 1000)) = _
  rw [parts, written_congr (by omega) minutes]

/-- If an integer of whole microseconds has a text, then there is a UTC time for its instant. -/
theorem exists_time_of_format {nanoseconds : Int} {text : Text}
    (formatted : Timestamp.format (.int nanoseconds) = .ok text)
    (whole : nanoseconds % 1000 = 0) {zone : Zone} (utc : zone.CountsAsUtc) :
    ∃ dateTime : DateTime, dateTime.zone = zone ∧ dateTime.instant * 1000 = nanoseconds := by
  rcases exists_written_of_format formatted with ⟨found, part, small, _, seconds, rest, _⟩
  let clock := found.clock.withMicrosecond (part / 1000) (by omega)
  refine ⟨⟨found.date, clock, zone⟩, rfl, ?_⟩
  rw [DateTime.instant_of_countsAsUtc utc]
  change (found.localSeconds * 1000000 + (part / 1000 : Nat)) * 1000 = nanoseconds
  omega

theorem ofValue?_int_isSome_iff {nanoseconds : Int} :
    (Timestamp.ofValue? (.int nanoseconds)).isSome = true ↔
      DateTime.IsInCalendar (nanoseconds / 1000000000) := by
  rw [@Timestamp.ofValue?_isSome_iff _ false]
  simp [Property.Allows]

/-- An integer that is formatted is read back from its text. -/
theorem exists_moment_of_format {nanoseconds : Int} {text : Text}
    (formatted : Timestamp.format (.int nanoseconds) = .ok text) :
    ∃ moment, read? text = some moment ∧ moment.instant = nanoseconds := by
  rcases exists_written_of_format formatted with ⟨dateTime, part, small, zone, seconds, rest, rfl⟩
  have utc : dateTime.zone.CountsAsUtc := zone ▸ Zone.countsAsUtc_utc
  refine ⟨_, read?_written dateTime small, ?_⟩
  rw [DateTime.instant_moment, (DateTime.offset_of_countsAsUtc utc).2]
  omega

/-- The text of an integer ends in the letter for UTC. -/
theorem wellFormed_of_int {nanoseconds : Int} {text : Text}
    (formatted : Timestamp.format (.int nanoseconds) = .ok text) :
    WellFormed text ∧ ∃ stem, text = stem ++ [CodePoint.ofChar 'Z'] := by
  rcases exists_written_of_format formatted with ⟨dateTime, part, small, zone, _, _, rfl⟩
  have utc : dateTime.zone.CountsAsUtc := zone ▸ Zone.countsAsUtc_utc
  have none := (DateTime.offset_of_countsAsUtc utc).2
  constructor
  · rw [wellFormed_written_iff dateTime small, ← dateTime.offsetMinutes_bounds.2, none]
    decide
  · rcases exists_stem_of_written dateTime small with ⟨stem, same, _⟩
    rw [none] at same
    exact ⟨stem, same⟩

/-- An integer of nanoseconds is formatted exactly if its second is in the calendar.  Its text has
the form of RFC 3339 and is read back as that many nanoseconds from the epoch, so that no other
integer has it.  A time without an offset, or with none but zero, has the text of the integer for
its instant. -/
theorem integers_are_read_back (nanoseconds : Int) :
    ((∃ text, Timestamp.format (.int nanoseconds) = .ok text) ↔
        DateTime.IsInCalendar (nanoseconds / 1000000000)) ∧
      (¬DateTime.IsInCalendar (nanoseconds / 1000000000) →
        Timestamp.format (.int nanoseconds) = .error ⟨.timestamp, .int nanoseconds⟩) ∧
      ∀ text, Timestamp.format (.int nanoseconds) = .ok text →
        (WellFormed text ∧ ∃ stem, text = stem ++ [CodePoint.ofChar 'Z']) ∧
        (∃ moment, read? text = some moment ∧ moment.instant = nanoseconds) ∧
        (∀ other, Timestamp.format (.int other) = .ok text → other = nanoseconds) ∧
        (nanoseconds % 1000 = 0 → ∀ zone : Zone, zone.CountsAsUtc →
          (∃ dateTime : DateTime, dateTime.zone = zone ∧ dateTime.instant * 1000 = nanoseconds) ∧
          ∀ dateTime : DateTime, dateTime.zone = zone → dateTime.instant * 1000 = nanoseconds →
            Timestamp.format (.time dateTime) = .ok text) := by
  refine ⟨?_, fun outside => ?_, fun text formatted => ⟨wellFormed_of_int formatted,
    exists_moment_of_format formatted, fun other formattedOther => ?_, fun whole zone utc => ?_⟩⟩
  · rw [← ofValue?_int_isSome_iff, Option.isSome_iff_exists]
    constructor
    · rintro ⟨text, formatted⟩
      rcases Timestamp.format_eq_ok_iff.mp formatted with ⟨timestamp, found, _⟩
      exact ⟨timestamp, found⟩
    · rintro ⟨timestamp, found⟩
      exact ⟨_, Timestamp.format_eq_ok_iff.mpr ⟨timestamp, found, rfl⟩⟩
  · rw [← ofValue?_int_isSome_iff, Bool.not_eq_true, Option.isSome_eq_false_iff,
      Option.isNone_iff_eq_none] at outside
    rw [Timestamp.format, outside]
  · rcases exists_moment_of_format formatted with ⟨moment, read, instant⟩
    rcases exists_moment_of_format formattedOther with ⟨momentOther, readOther, instantOther⟩
    cases read.symm.trans readOther
    exact instantOther.symm.trans instant
  · refine ⟨exists_time_of_format formatted whole utc, fun dateTime isZone same => ?_⟩
    exact format_time_of_instant_eq formatted (isZone ▸ utc) same

/-- An integer before the epoch is read back from its text, and the one before the first second of
the calendar has no text. -/
theorem integers_are_read_back_of_negative :
    let text := Text.ofString "1969-12-31T23:59:59.9999985Z"
    (Timestamp.format (.int (-1500)) = .ok text ∧
        (∃ moment, read? text = some moment ∧ moment.instant = -1500) ∧
        ∀ other, Timestamp.format (.int other) = .ok text → other = -1500) ∧
      Timestamp.format (.int (-62135596800000000001)) =
        .error ⟨.timestamp, .int (-62135596800000000001)⟩ := by
  intro text
  have formatted : Timestamp.format (.int (-1500)) = .ok text := rfl
  have outside : ¬DateTime.IsInCalendar (-62135596800000000001 / 1000000000) := by
    rw [DateTime.isInCalendar_iff]
    decide
  rcases (integers_are_read_back (-1500)).2.2 text formatted with ⟨_, readBack, alone, _⟩
  exact ⟨⟨formatted, readBack, alone⟩,
    (integers_are_read_back (-62135596800000000001)).2.1 outside⟩

/-! ## Times with an offset -/

/-- That the fields are those of a date and a clock. -/
structure Moment.Shows (moment : Moment) (dateTime : DateTime) : Prop where
  year : moment.year = dateTime.date.year
  month : moment.month = dateTime.date.month
  day : moment.day = dateTime.date.day
  hour : moment.hour = dateTime.clock.hour
  minute : moment.minute = dateTime.clock.minute
  second : moment.second = dateTime.clock.second
  nanoseconds : moment.nanoseconds = dateTime.clock.microsecond * 1000

/-- Every time is formatted, and its date and clock are read back.  The instant that is read is less
than a minute away from that of the time, and it is that instant, with the offset that the time
has, if the offset is made of whole minutes. -/
theorem times_are_read_back (dateTime : DateTime) :
    ∃ text moment, Timestamp.format (.time dateTime) = .ok text ∧ read? text = some moment ∧
      moment.Shows dateTime ∧
      (moment.instant - dateTime.instant * 1000).natAbs < 60 * 1000000000 ∧
      (dateTime.offsetMicroseconds % 60000000 = 0 →
        moment.instant = dateTime.instant * 1000 ∧
          moment.offset * 60000000 = dateTime.offsetMicroseconds) := by
  have small : dateTime.clock.microsecond * 1000 < 1000000000 :=
    (Timestamp.ofDateTime dateTime).nanoseconds_lt
  have apart : (dateTime.moment (dateTime.clock.microsecond * 1000)).instant =
      dateTime.instant * 1000 +
        (dateTime.offsetMicroseconds - dateTime.offsetMinutes * 60000000) * 1000 := by
    rw [DateTime.instant_moment, DateTime.instant_eq, DateTime.localMicroseconds_eq]
    omega
  rcases dateTime.offsetMinutes_near with ⟨near, whole⟩
  refine ⟨_, dateTime.moment (dateTime.clock.microsecond * 1000), rfl, read?_written dateTime small,
    ⟨rfl, rfl, rfl, rfl, rfl, rfl, rfl⟩, by omega, fun minutes => ?_⟩
  have same := whole minutes
  exact ⟨by omega, same⟩

end Rfc3339

end Syslog
