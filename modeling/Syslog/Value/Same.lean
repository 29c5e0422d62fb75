import Syslog.Value.Basic

namespace Syslog

/-!
When two values count as the same.

Numbers are compared by what they are worth, so `1`, `1.0` and a truth value can be the same;
the number that is none is the same as nothing.  Octets are compared by content, lists with
lists and tuples with tuples, dictionaries without regard to order.  An object or a failure is
only the same as itself, and two values are never one and the same object here.
-/

/-- What a number is worth. -/
inductive Worth
  | infinite (negative : Bool)
  | ratio (numerator : Int) (denominator : Nat)

namespace Worth

def same : Worth → Worth → Bool
  | .infinite left, .infinite right => left == right
  | .ratio num den, .ratio num' den' => num * den' == num' * den
  | _, _ => false

end Worth

namespace Value

/-- The worth of a number or of a truth value. -/
def worth? : Value → Option Worth
  | .bool truth => some (.ratio (if truth then 1 else 0) 1)
  | .int number => some (.ratio number 1)
  | .float (.infinite negative) => some (.infinite negative)
  | .float number => number.ratio?.map fun (numerator, denominator) => .ratio numerator denominator
  | _ => none

def sameWorth (left right : Value) : Bool :=
  match left.worth?, right.worth? with
  | some worth, some worth' => worth.same worth'
  | _, _ => false

mutual

def same : Value → Value → Bool
  | .null, .null => true
  | .text left, .text right => left == right
  | .octets _ left, .octets _ right => left == right
  | .list left, .list right => sameItems left right
  | .tuple left, .tuple right => sameItems left right
  | .dict left, .dict right => left.length == right.length && sameEntries left right
  | .time left, .time right => left.same right
  | left, right => left.sameWorth right

def sameItems : List Value → List Value → Bool
  | [], [] => true
  | left :: lefts, right :: rights => left.same right && sameItems lefts rights
  | _, _ => false

/-- Every entry on the left has its match on the right. -/
def sameEntries : List (Value × Value) → List (Value × Value) → Bool
  | [], _ => true
  | (key, value) :: rest, right =>
    right.any (fun entry => key.same entry.1 && value.same entry.2) && sameEntries rest right

end

/-- Nothing but the same text is the same as a text. -/
theorem same_text (value : Value) (text : Text) :
    value.same (.text text) = (value.text? == some text) := by
  cases value <;> simp [same, sameWorth, worth?, text?]

end Value

namespace Entries

def get? (entries : Entries) (key : Value) : Option Value :=
  (List.find? (fun entry => entry.1.same key) entries).map (·.2)

def contains (entries : Entries) (key : Value) : Bool :=
  entries.any fun entry => entry.1.same key

/-- Puts a value under a key; a key that is present keeps its place. -/
def insert (key value : Value) : Entries → Entries
  | [] => [(key, value)]
  | (present, old) :: rest =>
    if present.same key then (present, value) :: rest
    else (present, old) :: insert key value rest

def erase (key : Value) (entries : Entries) : Entries :=
  entries.filter fun entry => !entry.1.same key

theorem get?_cons (key value : Value) (rest : Entries) (sought : Value) :
    get? ((key, value) :: rest) sought =
      if key.same sought then some value else get? rest sought := by
  cases found : key.same sought <;> simp [get?, found]

/-- An insertion is seen under its own key, and under no other text. -/
theorem get?_insert_text (entries : Entries) (key other : Text) (value : Value) :
    get? (insert (.text key) value entries) (.text other) =
      if other = key then some value else get? entries (.text other) := by
  induction entries with
  | nil =>
    rw [insert, get?_cons]
    by_cases same : other = key
    · subst same
      simp [Value.same_text, Value.text?]
    · simp [Value.same_text, Value.text?, same, Ne.symm same]
  | cons entry rest ih =>
    obtain ⟨present, old⟩ := entry
    rw [insert]
    by_cases match_key : present.same (.text key) = true
    · rw [if_pos match_key, get?_cons, get?_cons]
      rw [Value.same_text, beq_iff_eq] at match_key
      by_cases same : other = key
      · subst same
        simp [Value.same_text, match_key]
      · simp [Value.same_text, match_key, same, Ne.symm same]
    · rw [if_neg match_key, get?_cons, get?_cons, ih]
      rw [Value.same_text, beq_iff_eq] at match_key
      by_cases same : other = key
      · subst same
        simp [Value.same_text, match_key]
      · simp [same]

/-- What is erased is gone, and what stands under another text stays. -/
theorem get?_erase_text (entries : Entries) (key other : Text) :
    get? (erase (.text key) entries) (.text other) =
      if other = key then none else get? entries (.text other) := by
  induction entries with
  | nil => simp [erase, get?]
  | cons entry rest ih =>
    obtain ⟨present, old⟩ := entry
    by_cases dropped : present.same (.text key) = true
    · have shorter : erase (.text key) ((present, old) :: rest) = erase (.text key) rest := by
        simp [erase, dropped]
      rw [shorter, ih, get?_cons]
      rw [Value.same_text, beq_iff_eq] at dropped
      by_cases same : other = key
      · simp [same]
      · simp [Value.same_text, dropped, same, Ne.symm same]
    · have kept : erase (.text key) ((present, old) :: rest) =
          (present, old) :: erase (.text key) rest := by
        simp [erase, dropped]
      rw [kept, get?_cons, get?_cons, ih]
      rw [Value.same_text, beq_iff_eq] at dropped
      by_cases same : other = key
      · subst same
        simp [Value.same_text, dropped]
      · simp [same]

/-- Puts a value under a key that is not there yet. -/
def insertNew (key value : Value) (entries : Entries) : Entries :=
  if entries.contains key then entries else entries.insert key value

def insertAll (entries : Entries) (new : Entries) : Entries :=
  new.foldl (fun done entry => insert entry.1 entry.2 done) entries

/-- The dictionary of a list of entries, where a later one overrules an earlier one. -/
def ofList (list : List (Value × Value)) : Entries := insertAll [] list

end Entries

end Syslog
