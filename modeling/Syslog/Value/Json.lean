import Syslog.Value.Words

namespace Syslog

/-!
Compact JSON of dynamic values.

Entries keep their order, numbers that are not finite become `null`, and values that have no
JSON form of their own become the JSON string of their displayed form.  Five things cannot be
written: integers beyond 64 bits, texts without a UTF-8 form, keys that are not texts, lists and
dictionaries inside of 254 other containers, and failures that have no displayed form.  The
containers around a value are counted in eight bits, and a tuple may stand at any depth, so
deeper ones can be written again.
-/

inductive JsonFault
  | integerRange
  | surrogates
  | keyKind
  | tooDeep
  /-- A value of the given kind that cannot be put into words. -/
  | wordless (kindName : Text)
deriving DecidableEq

namespace Json

/-- The count of containers inside of which no list and no dictionary can be written. -/
def depthLimit : Nat := 254

/-- The count of containers inside of one more, in eight bits. -/
def deeper (depth : Nat) : Nat := (depth + 1) % 256

def escaped (c : CodePoint) : Text :=
  if c = '"' then "\\\""
  else if c = '\\' then "\\\\"
  else if c = '\n' then "\\n"
  else if c = '\r' then "\\r"
  else if c = '\t' then "\\t"
  else if c.val = 8 then "\\b"
  else if c.val = 12 then "\\f"
  else if c.val < 0x20 then Text.ofString "\\u" ++ Text.hex 4 c.val
  else [c]

def string (text : Text) : Except JsonFault Text :=
  if text.isEncodable then
    .ok (CodePoint.ofChar '"' :: text.flatMap escaped ++ [CodePoint.ofChar '"'])
  else .error .surrogates

def integer (number : Int) : Except JsonFault Text :=
  if -(Nat.pow 2 63 : Int) ≤ number ∧ number < Nat.pow 2 64 then .ok (Text.ofInt number)
  else .error .integerRange

/--
An offset in hours and minutes.  It is cut down to seconds first, half a minute counts as a
whole one, and a whole day counts as nothing.
-/
def offset (offset : UtcOffset) : Text :=
  let seconds := offset.microseconds.fdiv 1000000
  let isNegative : Bool := seconds < 0 && seconds % 86400 != 0
  let sign : CodePoint := if isNegative then '-' else '+'
  let size := seconds.natAbs % 86400
  let minute := size / 60 % 60
  sign :: sexagesimal (size / 3600) (if size % 60 < 30 then minute else minute + 1)

/--
The offset of a zone.  A zone that does not know its offset counts as that of UTC: of such zones
the writer's documentation says nothing, and what it writes for them is not determined, so this
is a choice and not a description.
-/
def zone : Zone → Text
  | .naive => []
  | .unknown => offset .zero
  | .fixed known => offset known

def time (dateTime : DateTime) : Text :=
  CodePoint.ofChar '"' :: dateTime.date.written ++ CodePoint.ofChar 'T' ::
    dateTime.clock.writtenInFull ++ zone dateTime.zone ++ [CodePoint.ofChar '"']

/-- Parts between brackets, with nothing but a comma between them. -/
def bracketed (opening closing : Char) (parts : List Text) : Text :=
  CodePoint.ofChar opening :: Text.joined "," parts ++ [CodePoint.ofChar closing]

end Json

namespace Value

mutual

/-- The JSON of a value that stands inside of `depth` containers. -/
def jsonAt (depth : Nat) : Value → Except JsonFault Text
  | .null => .ok "null"
  | .bool true => .ok "true"
  | .bool false => .ok "false"
  | .int number => Json.integer number
  | .float number => .ok ((number.written? .json).getD "null")
  | .text content => Json.string content
  | .list items =>
    if depth = Json.depthLimit then .error .tooDeep
    else (jsonItems (Json.deeper depth) items).map (Json.bracketed '[' ']')
  | .tuple items => (jsonItems (Json.deeper depth) items).map (Json.bracketed '[' ']')
  | .dict entries =>
    if depth = Json.depthLimit then .error .tooDeep
    else (jsonEntries (Json.deeper depth) entries).map (Json.bracketed '\x7b' '\x7d')
  | .time dateTime => .ok (Json.time dateTime)
  | .octets kind content => Json.string (kind.quoted content)
  | .object display => Json.string display
  | .failure kind argument =>
    match inWords shown (.failure kind argument) with
    | .ok content => Json.string content
    | .error _ => .error (.wordless kind.name)

def jsonItems (depth : Nat) : List Value → Except JsonFault (List Text)
  | [] => .ok []
  | item :: rest => do
    let head ← item.jsonAt depth
    let tail ← jsonItems depth rest
    .ok (head :: tail)

def jsonEntries (depth : Nat) : List (Value × Value) → Except JsonFault (List Text)
  | [] => .ok []
  | (.text key, value) :: rest => do
    let name ← Json.string key
    let content ← value.jsonAt depth
    let tail ← jsonEntries depth rest
    .ok ((name ++ CodePoint.ofChar ':' :: content) :: tail)
  | _ :: _ => .error .keyKind

end

def json (value : Value) : Except JsonFault Text := value.jsonAt 0

end Value

end Syslog
