import Syslog.Time.DateTime
import Syslog.Text.Utf8

namespace Syslog

/-!
Reading times in the formats of ISO 8601.

A date is a calendar or a week date, with or without hyphens; a clock has hours, then minutes
and seconds as far as given, with or without colons, and a fraction of the last of them; an
offset has the form of a clock.  One character of any kind stands between date and clock.

The reader is lenient where it does no harm.  A clock before an offset may end in one mark of
its own, digits of the fraction beyond the sixth are dropped, and a zero octet ends the text.
-/

namespace Iso8601

def isDigit (octet : UInt8) : Bool := '0'.toNat ≤ octet.toNat && octet.toNat ≤ '9'.toNat

def isChar (char : Char) (octet : UInt8) : Bool := octet.toNat == char.toNat

/-- A number of exactly `count` digits, and what follows it. -/
def digits? : (count : Nat) → Bytes → Option (Nat × Bytes)
  | 0, octets => some (0, octets)
  | _ + 1, [] => none
  | count + 1, octet :: rest =>
    if isDigit octet then
      (digits? count rest).map fun (value, after) =>
        ((octet.toNat - '0'.toNat) * Nat.pow 10 count + value, after)
    else none

/-- What stands behind the last field of a clock. -/
inductive ClockEnd
  | clean
  | leftover
  | fraction (octets : Bytes)

/--
The fields of a clock, of which `missing` may still come.  Whether colons separate them is
settled by what follows the first field.
-/
def clockFields? : (missing : Nat) → (separated : Option Bool) → Bytes →
    Option (List Nat × ClockEnd)
  | 0, _, octets => some ([], .fraction octets)
  | missing + 1, separated, octets =>
    match digits? 2 octets with
    | none => none
    | some (value, []) => some ([value], .clean)
    | some (value, [mark]) => some ([value], if mark = 0 then .clean else .leftover)
    | some (value, mark :: next :: rest) =>
      let separated := separated.getD (isChar ':' mark)
      if separated && isChar ':' mark then
        (clockFields? missing (some true) (next :: rest)).map fun (values, ending) =>
          (value :: values, ending)
      else if isChar '.' mark || isChar ',' mark then some ([value], .fraction (next :: rest))
      else if separated then none
      else
        (clockFields? missing (some false) (mark :: next :: rest)).map fun (values, ending) =>
          (value :: values, ending)

/-- A fraction in microseconds, and whether nothing follows it. -/
def fraction? (octets : Bytes) : Option (Nat × Bool) :=
  let count := min 6 octets.length
  (digits? count octets).map fun (value, after) =>
    let rest := after.dropWhile isDigit
    (value * Nat.pow 10 (6 - count), rest.isEmpty || rest.head? == some 0)

/-- The fields of a clock as they are written, and whether nothing follows them. -/
structure ClockReading where
  hour : Nat
  minute : Nat
  second : Nat
  microsecond : Nat
  clean : Bool

def clock? (octets : Bytes) : Option ClockReading := do
  let (fields, ending) ← clockFields? 3 none octets
  let (microsecond, clean) ← match ending with
    | .clean => some (0, true)
    | .leftover => some (0, false)
    | .fraction rest => fraction? rest
  some {
    hour := fields.head?.getD 0
    minute := fields[1]?.getD 0
    second := fields[2]?.getD 0
    microsecond
    clean }

/-- An offset whose sign has been read; a difference below a second counts as none. -/
def offset? (negative : Bool) (octets : Bytes) : Option Zone := do
  let reading ← clock? octets
  if !reading.clean then none
  let seconds := reading.hour * 3600 + reading.minute * 60 + reading.second
  let microseconds : Int := if seconds = 0 then 0 else seconds * 1000000 + reading.microsecond
  (UtcOffset.ofMicroseconds? (if negative then -microseconds else microseconds)).map .fixed

/-- A clock with or without an offset. -/
def clockAndZone? (octets : Bytes) : Option (Clock × Zone) := do
  let startsZone (octet : UInt8) : Bool :=
    isChar '+' octet || isChar '-' octet || isChar 'Z' octet
  let (before, after) := octets.span (!startsZone ·)
  let reading ← clock? before
  let zone ← match after with
    | [] => if reading.clean then some .naive else none
    | sign :: rest =>
      if isChar 'Z' sign then
        if rest.isEmpty || rest.head? == some 0 then some .utc else none
      else offset? (isChar '-' sign) rest
  let clock ← Clock.ofFields? reading.hour reading.minute reading.second reading.microsecond
  some (clock, zone)

/-- A hyphen, if hyphens are in use. -/
def hyphen? (hyphens : Bool) : Bytes → Option Bytes
  | [] => if hyphens then none else some []
  | octet :: rest =>
    if hyphens then if isChar '-' octet then some rest else none else some (octet :: rest)

/-- A date that takes up `length` octets. -/
def date? (octets : Bytes) (length : Nat) : Option Date := do
  let (year, rest) ← digits? 4 octets
  let hyphens := (rest.head?.map (isChar '-')).getD false
  let rest ← hyphen? hyphens rest
  if (rest.head?.map (isChar 'W')).getD false then
    let (week, rest) ← digits? 2 (rest.drop 1)
    if octets.length - rest.length < length then
      let rest ← hyphen? hyphens rest
      let (day, _) ← digits? 1 rest
      Date.ofWeek? year week day
    else Date.ofWeek? year week 1
  else
    let (month, rest) ← digits? 2 rest
    let rest ← hyphen? hyphens rest
    let (day, rest) ← digits? 2 rest
    if octets.length - rest.length = length then Date.ofFields? year month day else none

/--
How many octets the date takes up.  The marks at the fifth and sixth place tell the formats
apart; after a week, a weekday and the beginning of a clock are told apart by whether the
digits that follow come in pairs.
-/
def dateLength (octets : Bytes) : Nat :=
  let has (place : Nat) (char : Char) : Bool := (octets[place]?.map (isChar char)).getD false
  let digitAt (place : Nat) : Bool := (octets[place]?.map isDigit).getD false
  if octets.length = 7 then 7
  else if has 4 '-' then
    if has 5 'W' then if has 8 '-' && !digitAt 10 then 10 else 8
    else 10
  else if has 4 'W' then
    let weekEnd := 7 + ((octets.drop 7).takeWhile isDigit).length
    if weekEnd < 9 then weekEnd else if weekEnd % 2 = 0 then 7 else 8
  else 8

/-- How many octets the code point with the given first octet takes up. -/
def width (octet : UInt8) : Nat :=
  if octet < 0x80 then 1 else if octet < 0xE0 then 2 else if octet < 0xF0 then 3 else 4

/-- A surrogate where the mark between date and clock can stand is as good as any mark. -/
def withPlainMark (text : Text) : Text :=
  match [7, 8, 10].find? fun place => (text[place]?.map CodePoint.isSurrogate).getD false with
  | some place => text.set place 'T'
  | none => text

def read? (text : Text) : Option DateTime := do
  if text.length < 7 then none
  let octets ← (withPlainMark text).encode.toOption
  let length := dateLength octets
  let date ← date? octets length
  match octets.drop length with
  | [] => some ⟨date, .midnight, .naive⟩
  | mark :: rest =>
    let (clock, zone) ← clockAndZone? ((mark :: rest).drop (width mark))
    some ⟨date, clock, zone⟩

end Iso8601

end Syslog
