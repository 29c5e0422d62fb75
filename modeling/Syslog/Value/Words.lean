import Syslog.Value.Shown

namespace Syslog

/-!
Putting values into words, and what keeps a value from it.

The displayed and the quoted form of a value are made part by part, in the order in which the
parts are written, and end at the first obstacle: a part that stands inside of too many others,
or an integer with too many digits.  Both bounds belong to the process that makes the words, and
not to the form of messages; they count here only as far as they keep a value from being
written at all.
-/

/-- What keeps a value from being put into words. -/
inductive WordsFault
  | tooDeep
  | tooManyDigits
deriving DecidableEq

/--
The most digits of an integer that is put into words: what a process allows unless it is told
otherwise.
-/
def digitLimit : Nat := 4300

/-- What keeps an integer from being written in decimal; its sign does not count. -/
def WordsFault.ofInteger? (number : Int) : Option WordsFault :=
  if digitLimit < (Text.ofNat number.natAbs).length then some .tooManyDigits else none

namespace Value

/--
The most values inside of one another that are put into words.  Each takes a part of the stack,
and so many fit on it in one process with little on its stack so far.  It is a constant of that
process: with more on the stack there is room for fewer, and with a larger one for more.
-/
def nestingLimit : Nat := 985

mutual

/-- The first obstacle in a value, where there is room for so many values inside of another. -/
def obstacle? : Value → (room : Nat) → Option WordsFault
  | _, 0 => some .tooDeep
  | .int number, _ + 1 => WordsFault.ofInteger? number
  | .list items, room + 1 => obstacleIn? items room
  | .tuple items, room + 1 => obstacleIn? items room
  | .dict entries, room + 1 => obstacleInEntries? entries room
  | .failure _ argument, room + 1 => argument.obstacle? room
  | _, _ => none

def obstacleIn? : List Value → (room : Nat) → Option WordsFault
  | [], _ => none
  | item :: rest, room => (item.obstacle? room).or (obstacleIn? rest room)

def obstacleInEntries? : List (Value × Value) → (room : Nat) → Option WordsFault
  | [], _ => none
  | (key, value) :: rest, room =>
    ((key.obstacle? room).or (value.obstacle? room)).or (obstacleInEntries? rest room)

end

/-- What keeps a value from being put into words. -/
def wordsFault? (value : Value) : Option WordsFault := value.obstacle? nestingLimit

/-- A value in words of the given form, unless something in it keeps it from that. -/
def inWords (form : Value → Text) (value : Value) : Except WordsFault Text :=
  match value.wordsFault? with
  | some fault => .error fault
  | none => .ok (form value)

theorem inWords_eq_ok_iff {form : Value → Text} {value : Value} {text : Text} :
    value.inWords form = .ok text ↔ value.wordsFault? = none ∧ form value = text := by
  rw [inWords]
  split
  · next found => simp [found]
  · next clear => simp [clear]

theorem inWords_eq_error_iff {form : Value → Text} {value : Value} {fault : WordsFault} :
    value.inWords form = .error fault ↔ value.wordsFault? = some fault := by
  rw [inWords]
  split
  · next found => simp [found]
  · next clear => simp [clear]

end Value

end Syslog
