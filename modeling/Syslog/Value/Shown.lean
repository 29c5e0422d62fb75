import Syslog.Value.Basic
import Syslog.Text.Quoted
import Syslog.Number.Layout
import Syslog.Time.Rfc3339

namespace Syslog

/-!
The displayed and the quoted form of values.

The displayed form is the text that goes into messages; the quoted form also tells the kinds
apart and is used inside of containers and in error messages.  Only texts, times, objects and
failures differ between the two.
-/

/-- Parts between brackets, with a comma and a space between them. -/
def bracketed (opening closing : Char) (parts : List Text) : Text :=
  CodePoint.ofChar opening :: Text.joined ", " parts ++ [CodePoint.ofChar closing]

namespace DateTime

/-- A difference of times by days, seconds and microseconds, those that are not zero. -/
def quotedDifference (microseconds : Int) : Text :=
  let days := microseconds.fdiv 86400000000
  let seconds := (microseconds.fdiv 1000000).fmod 86400
  let rest := microseconds.fmod 1000000
  let part (name : String) (amount : Int) : List Text :=
    if amount = 0 then [] else [Text.ofString name ++ Text.ofInt amount]
  Text.ofString "datetime.timedelta" ++
    bracketed '(' ')' (part "days=" days ++ part "seconds=" seconds ++ part "microseconds=" rest)

def quotedZone : Zone → List Text
  | .naive => []
  | .unknown => [Text.ofString "tzinfo=unknown"]
  | .fixed offset =>
    if offset.microseconds = 0 then [Text.ofString "tzinfo=datetime.timezone.utc"]
    else [Text.ofString "tzinfo=datetime.timezone" ++
      bracketed '(' ')' [quotedDifference offset.microseconds]]

/-- The fields as arguments; seconds and microseconds are left out where they are zero. -/
def quoted (dateTime : DateTime) : Text :=
  let date := dateTime.date
  let clock := dateTime.clock
  let seconds :=
    if clock.microsecond ≠ 0 then [clock.second, clock.microsecond]
    else if clock.second ≠ 0 then [clock.second]
    else []
  let fields := [date.year, date.month, date.day, clock.hour, clock.minute] ++ seconds
  Text.ofString "datetime.datetime" ++
    bracketed '(' ')' (fields.map Text.ofNat ++ quotedZone dateTime.zone)

end DateTime

/-- Octets in quotes, with the kind around them unless they are fixed. -/
def OctetsKind.quoted (content : Bytes) : OctetsKind → Text
  | .fixed => content.quoted
  | .growable => Text.ofString "bytearray" ++ bracketed '(' ')' [content.quotedGrowable]
  | .view => "<memory>"

namespace Value

mutual

def quoted : Value → Text
  | .null => "None"
  | .bool true => "True"
  | .bool false => "False"
  | .int number => Text.ofInt number
  | .float number => number.shown
  | .text content => content.quoted
  | .octets kind content => kind.quoted content
  | .list items => bracketed '[' ']' (quotedItems items)
  | .tuple [item] => CodePoint.ofChar '(' :: item.quoted ++ Text.ofString ",)"
  | .tuple items => bracketed '(' ')' (quotedItems items)
  | .dict entries => bracketed '\x7b' '\x7d' (quotedEntries entries)
  | .time dateTime => dateTime.quoted
  | .object display => Text.ofString "Thing" ++ bracketed '(' ')' [display]
  | .failure kind argument => kind.name ++ bracketed '(' ')' [argument.quoted]

def quotedItems : List Value → List Text
  | [] => []
  | item :: rest => item.quoted :: quotedItems rest

def quotedEntries : List (Value × Value) → List Text
  | [] => []
  | (key, value) :: rest =>
    (key.quoted ++ Text.ofString ": " ++ value.quoted) :: quotedEntries rest

end

/-- The displayed form; of a failure it is that of the argument, quoted if it is a key. -/
def shown : Value → Text
  | .text content => content
  | .time dateTime => dateTime.written ' '
  | .object display => display
  | .failure .key argument => argument.quoted
  | .failure _ argument => argument.shown
  | value => value.quoted

end Value

end Syslog
