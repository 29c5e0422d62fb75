import Syslog.Time.DateTime

namespace Syslog

/-!
The written forms of a time.

Messages carry the form of RFC 3339, with a fraction of up to nine digits that does not end in
zero, and with an offset of whole minutes.  Elsewhere times are shown in full, with six digits
of fraction or none and with an offset to the microsecond.
-/

namespace Date

def written (date : Date) : Text :=
  Text.fixed 4 date.year ++ CodePoint.ofChar '-' :: Text.fixed 2 date.month ++
    CodePoint.ofChar '-' :: Text.fixed 2 date.day

end Date

/-- Two fields of two digits around a colon. -/
def sexagesimal (high low : Nat) : Text :=
  Text.fixed 2 high ++ CodePoint.ofChar ':' :: Text.fixed 2 low

namespace Clock

/-- The clock without the part of a second. -/
def written (clock : Clock) : Text :=
  sexagesimal clock.hour clock.minute ++ CodePoint.ofChar ':' :: Text.fixed 2 clock.second

/-- The clock with six digits of fraction, unless they are all zero. -/
def writtenInFull (clock : Clock) : Text :=
  clock.written ++
    if clock.microsecond = 0 then []
    else CodePoint.ofChar '.' :: Text.fixed 6 clock.microsecond

end Clock

namespace Rfc3339

/-- Nanoseconds behind a point, without trailing zeros. -/
def fraction (nanoseconds : Nat) : Text :=
  if nanoseconds = 0 then []
  else CodePoint.ofChar '.' ::
    Text.dropEndWhile (· = .ofChar '0') (Text.fixed 9 nanoseconds)

/-- An offset of whole minutes; `Z` when it is zero. -/
def offset (minutes : Int) : Text :=
  if minutes = 0 then "Z"
  else
    let sign : CodePoint := if minutes < 0 then '-' else '+'
    sign :: sexagesimal (minutes.natAbs / 60) (minutes.natAbs % 60)

/-- A time whose part of a second is given separately, in nanoseconds. -/
def written (dateTime : DateTime) (nanoseconds : Nat) : Text :=
  dateTime.date.written ++ CodePoint.ofChar 'T' :: dateTime.clock.written ++
    fraction nanoseconds ++ offset ((dateTime.zone.offset?.map UtcOffset.minutes).getD 0)

end Rfc3339

namespace UtcOffset

/-- Hours and minutes, then seconds and microseconds as far as they are needed. -/
def written (offset : UtcOffset) : Text :=
  let sign : CodePoint := if offset.microseconds < 0 then '-' else '+'
  let microseconds := offset.microseconds.natAbs
  let seconds := microseconds / 1000000
  let clock := sign :: sexagesimal (seconds / 3600) (seconds / 60 % 60)
  if microseconds % 60000000 = 0 then clock
  else
    clock ++ CodePoint.ofChar ':' :: Text.fixed 2 (seconds % 60) ++
      if microseconds % 1000000 = 0 then []
      else CodePoint.ofChar '.' :: Text.fixed 6 (microseconds % 1000000)

end UtcOffset

/-- A time in full, with the given mark between the date and the clock. -/
def DateTime.written (mark : CodePoint) (dateTime : DateTime) : Text :=
  dateTime.date.written ++ mark :: dateTime.clock.writtenInFull ++
    (dateTime.zone.offset?.map UtcOffset.written).getD []

end Syslog
