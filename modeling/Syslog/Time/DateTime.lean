import Syslog.Time.Date
import Syslog.Number.Binary64

namespace Syslog

/-!
Dates with a time of day and a place relative to UTC.

A zone is *naive* when nothing is known of it, *unknown* when there is one but its offset is
not known, and *fixed* when the offset is a number of microseconds of less than a day.
Wherever an instant is needed, the first two count as UTC.
-/

structure Clock where
  hour : Nat
  minute : Nat
  second : Nat
  microsecond : Nat
  hour_lt : hour < 24
  minute_lt : minute < 60
  second_lt : second < 60
  microsecond_lt : microsecond < 1000000
deriving DecidableEq

namespace Clock

def ofFields? (hour minute second microsecond : Nat) : Option Clock :=
  if h : (hour < 24 ∧ minute < 60) ∧ (second < 60 ∧ microsecond < 1000000) then
    some ⟨hour, minute, second, microsecond, h.1.1, h.1.2, h.2.1, h.2.2⟩
  else none

def midnight : Clock := ⟨0, 0, 0, 0, by decide, by decide, by decide, by decide⟩

def seconds (clock : Clock) : Nat := clock.hour * 3600 + clock.minute * 60 + clock.second

/-- The time of day after a number of seconds and microseconds, both counted round. -/
def ofSeconds (seconds microseconds : Nat) : Clock where
  hour := seconds / 3600 % 24
  minute := seconds / 60 % 60
  second := seconds % 60
  microsecond := microseconds % 1000000
  hour_lt := Nat.mod_lt _ (by decide)
  minute_lt := Nat.mod_lt _ (by decide)
  second_lt := Nat.mod_lt _ (by decide)
  microsecond_lt := Nat.mod_lt _ (by decide)

end Clock

/-- An offset from UTC in microseconds, less than a day in either direction. -/
structure UtcOffset where
  microseconds : Int
  gt_neg_day : -86400000000 < microseconds
  lt_day : microseconds < 86400000000
deriving DecidableEq

namespace UtcOffset

def zero : UtcOffset := ⟨0, by decide, by decide⟩

def ofMicroseconds? (microseconds : Int) : Option UtcOffset :=
  if h : -86400000000 < microseconds ∧ microseconds < 86400000000 then
    some ⟨microseconds, h.1, h.2⟩
  else none

/-- Whole minutes: the part of a second is cut off towards zero, then that of a minute
downwards. -/
def minutes (offset : UtcOffset) : Int :=
  (offset.microseconds.tdiv 1000000).fdiv 60

end UtcOffset

inductive Zone
  | naive
  | unknown
  | fixed (offset : UtcOffset)
deriving DecidableEq

def Zone.utc : Zone := .fixed .zero

def Zone.offset? : Zone → Option UtcOffset
  | .fixed offset => some offset
  | _ => none

structure DateTime where
  date : Date
  clock : Clock
  zone : Zone
deriving DecidableEq

/-- The ordinal of the first of January 1970. -/
def epochOrdinal : Nat := 719163

namespace DateTime

/-- Microseconds from the epoch by the local clock. -/
def localMicroseconds (dateTime : DateTime) : Int :=
  (((dateTime.date.ordinal : Int) - epochOrdinal) * 86400 + dateTime.clock.seconds) * 1000000
    + dateTime.clock.microsecond

/-- Microseconds from the epoch. -/
def instant (dateTime : DateTime) : Int :=
  dateTime.localMicroseconds -
    (dateTime.zone.offset?.map UtcOffset.microseconds).getD 0

/-- Two times are the same when both have an offset and are at one instant, or when neither
has one and their clocks agree. -/
def same (left right : DateTime) : Bool :=
  left.zone.offset?.isSome == right.zone.offset?.isSome && left.instant == right.instant

/-- The UTC time of a number of microseconds from the epoch, within the calendar's years. -/
def ofMicroseconds? (microseconds : Int) : Option DateTime :=
  let seconds := microseconds.fdiv 1000000
  let ordinal := seconds.fdiv 86400 + epochOrdinal
  if 0 < ordinal then
    (Date.ofOrdinal? ordinal.toNat).map fun date =>
      ⟨date, .ofSeconds (seconds.fmod 86400).toNat (microseconds.fmod 1000000).toNat, .utc⟩
  else none

/-- The UTC time of a number of seconds from the epoch. -/
def ofSeconds? (seconds : Int) : Option DateTime := ofMicroseconds? (seconds * 1000000)

/--
The UTC time of a floating-point number of seconds.  The part of a second is multiplied out in
floating point and the product is rounded to whole microseconds.
-/
def ofBinary64? : Binary64 → Option DateTime
  | .finite negative magnitude => do
    let whole := magnitude.numerator / magnitude.denominator
    let fraction := magnitude.numerator % magnitude.denominator
    let product ← Magnitude.nearest? (fraction * 1000000) magnitude.denominator
    let microseconds := whole * 1000000 + roundDiv product.numerator product.denominator
    ofMicroseconds? (if negative then -(microseconds : Int) else microseconds)
  | _ => none

end DateTime

end Syslog
