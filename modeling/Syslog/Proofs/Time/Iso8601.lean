import Mathlib.Data.List.TakeDrop
import Syslog.Proofs.Message.Decoded
import Syslog.Proofs.Time.Instant
import Syslog.Time.Iso8601

namespace Syslog

/-!
# Written times are read as times of ISO 8601

The reader of ISO 8601 is lenient and settles what it reads by looking ahead, so it does not follow
from the form of a written time that it is read as what was meant.  Each part of the reader is
therefore shown to stop where the part that was written ends: a number after its digits, a clock
before the sign of the offset, a fraction after its last digit.

A letter for the offset of UTC is first replaced by an offset of zero, and digits beyond
microseconds are dropped.  All else is read as it was written, unless the offset is a whole day
(`Iso8601.read?_written`).
-/

namespace Iso8601

variable {width number : Nat}

/-! ## Numbers -/

theorem isDigit_iff {o : UInt8} : isDigit o = true ↔ IsDigit o.toNat := by
  rw [isDigit, Bool.and_eq_true, decide_eq_true_eq, decide_eq_true_eq]
  exact Iff.rfl

theorem isDigit_ascii (code : Nat) (digit : IsDigit code) : code < 0x80 :=
  Nat.lt_of_le_of_lt digit.2 (by decide)

/-- As many digits as are asked for are read as their number. -/
theorem digits?_utf8 {digits : Text} (digit : ∀ c ∈ digits, IsDigit c.val) (rest : Bytes) :
    digits? digits.length (digits.utf8 ++ rest) = some (digits.number, rest) := by
  induction digits with
  | nil => rfl
  | cons c digits inductionHypothesis =>
      rcases List.forall_mem_cons.mp digit with ⟨first, others⟩
      have octet : (UInt8.ofNat c.val).toNat = c.val :=
        toNat_ofNat_octet (Nat.lt_trans (isDigit_ascii _ first) (by decide))
      have isDigit : isDigit (.ofNat c.val) = true := isDigit_iff.mpr (octet.symm ▸ first)
      rw [Text.utf8_cons, CodePoint.utf8_of_ascii (isDigit_ascii _ first), List.length_cons,
        List.append_assoc, List.singleton_append, digits?, if_pos isDigit,
        inductionHypothesis others, Option.map_some, octet]
      change some ((c.val - 48) * Nat.pow 10 digits.length + Text.number digits, rest) =
        some (Text.number ([c] ++ digits), rest)
      have single : Text.number [c] = c.val - 48 :=
        (Text.number_append_singleton first []).trans (Nat.zero_add _)
      rw [Text.number_append [c] others, single]

theorem digits?_fixed (fits : number < Nat.pow 10 width) (rest : Bytes) :
    digits? width ((Text.fixed width number).utf8 ++ rest) = some (number, rest) := by
  have read := digits?_utf8 (Text.isDigit_fixed width number) rest
  rw [Text.length_fixed, Text.number_fixed, Nat.mod_eq_of_lt fits] at read
  exact read

theorem length_utf8_fixed (width number : Nat) : (Text.fixed width number).utf8.length = width := by
  rw [Text.length_utf8_of_ascii fun c member =>
    isDigit_ascii _ (Text.isDigit_fixed width number c member), Text.length_fixed]

/-- A number starts with a digit. -/
theorem exists_digit_of_fixed (width number : Nat) (rest : Bytes) :
    ∃ o more, (Text.fixed (width + 1) number).utf8 ++ rest = o :: more ∧ IsDigit o.toNat := by
  have digit := Text.forall_mem_utf8 isDigit_ascii (Text.isDigit_fixed (width + 1) number)
  cases octets : (Text.fixed (width + 1) number).utf8 with
  | nil =>
      have length := length_utf8_fixed (width + 1) number
      rw [octets] at length
      cases length
  | cons o more =>
      rw [octets] at digit
      exact ⟨o, more ++ rest, rfl, digit o List.mem_cons_self⟩

/-- An octet of a class is no character outside of it. -/
theorem isChar_eq_false {Class : Nat → Prop} {char : Char} {o : UInt8} (inside : Class o.toNat)
    (outside : ¬Class char.toNat) : isChar char o = false := by
  rw [isChar, beq_eq_false_iff_ne]
  intro same
  exact outside (same ▸ inside)

theorem ne_nil_of_fixed (width number : Nat) (rest : Bytes) :
    (Text.fixed (width + 1) number).utf8 ++ rest ≠ [] := by
  rcases exists_digit_of_fixed width number rest with ⟨o, more, same, _⟩
  rw [same]
  exact List.cons_ne_nil o more

/-! ## Clocks -/

/-- A field of a clock that a colon ends, if colons are in use or nothing is settled. -/
theorem clockFields?_colon {missing : Nat} {separated : Option Bool} {rest : Bytes}
    (fits : number < 100) (colons : separated ≠ some false) (more : rest ≠ []) :
    clockFields? (missing + 1) separated ((Text.fixed 2 number).utf8 ++ octet ':' :: rest) =
      (clockFields? missing (some true) rest).map fun found => (number :: found.1, found.2) := by
  cases rest with
  | nil => exact absurd rfl more
  | cons next rest =>
      have settled : separated.getD (isChar ':' (octet ':')) = true := by
        rcases separated with _ | _ | _
        · rfl
        · exact absurd rfl colons
        · rfl
      rw [clockFields?, digits?_fixed fits]
      dsimp only
      rw [settled, if_pos (by decide)]

/-- The last field of a clock with a part of a second. -/
theorem clockFields?_point {missing : Nat} {rest : Bytes} (fits : number < 100) (more : rest ≠ []) :
    clockFields? (missing + 1) (some true)
        ((Text.fixed 2 number).utf8 ++ octet '.' :: rest) =
      some ([number], .fraction rest) := by
  cases rest with
  | nil => exact absurd rfl more
  | cons next rest =>
      rw [clockFields?, digits?_fixed fits]
      dsimp only
      rw [Option.getD_some, if_neg (by decide), if_pos (by decide)]

/-- The last field of a clock without one. -/
theorem clockFields?_end {missing : Nat} {separated : Option Bool} (fits : number < 100) :
    clockFields? (missing + 1) separated (Text.fixed 2 number).utf8 = some ([number], .clean) := by
  have read : digits? 2 (Text.fixed 2 number).utf8 = some (number, []) := by
    rw [← List.append_nil (Text.fixed 2 number).utf8]
    exact digits?_fixed fits []
  rw [clockFields?, read]

/-- A part of a second is read in whole microseconds, up to its last digit. -/
theorem fraction?_fractionDigits {nanoseconds : Nat} (small : nanoseconds < 1000000000) :
    fraction? (Rfc3339.fractionDigits nanoseconds).utf8 = some (nanoseconds / 1000, true) := by
  have digit := Rfc3339.isDigit_fractionDigits nanoseconds
  have number := Rfc3339.number_fractionDigits (show 6 ≤ 9 by decide) nanoseconds
  generalize Rfc3339.fractionDigits nanoseconds = digits at digit number
  have length : digits.utf8.length = digits.length :=
    Text.length_utf8_of_ascii fun c member => isDigit_ascii _ (digit c member)
  have split : digits.utf8 = Text.utf8 (digits.take 6) ++ Text.utf8 (digits.drop 6) := by
    rw [← Text.utf8_append, List.take_append_drop]
  have digitTaken : ∀ c ∈ digits.take 6, IsDigit c.val :=
    fun c member => digit c (List.mem_of_mem_take member)
  have taken := digits?_utf8 digitTaken (Text.utf8 (digits.drop 6))
  have dropped : (Text.utf8 (digits.drop 6)).dropWhile isDigit = [] := by
    rw [List.dropWhile_eq_nil_iff]
    intro o member
    refine isDigit_iff.mpr (Text.forall_mem_utf8 isDigit_ascii ?_ o member)
    exact fun c member => digit c (List.mem_of_mem_drop member)
  have missing : 6 - min 6 digits.length = 6 - digits.length := by omega
  rw [List.length_take] at taken
  rw [fraction?, length]
  dsimp only
  rw [split, taken, Option.map_some, dropped, missing, number]
  change some (nanoseconds / 1000 % 1000000, true) = _
  rw [Nat.mod_eq_of_lt (by omega)]

/-- A clock is read back with its part of a second in whole microseconds. -/
theorem clock?_written (clock : Clock) {nanoseconds : Nat} (small : nanoseconds < 1000000000) :
    clock? (Text.utf8 (clock.written ++ Rfc3339.fraction nanoseconds)) =
      some ⟨clock.hour, clock.minute, clock.second, nanoseconds / 1000, true⟩ := by
  rcases clock.fields_fit with ⟨hour, minute, second⟩
  have colon : (CodePoint.ofChar ':').utf8 = [octet ':'] := rfl
  have octets : Text.utf8 (clock.written ++ Rfc3339.fraction nanoseconds) =
      (Text.fixed 2 clock.hour).utf8 ++ octet ':' ::
        ((Text.fixed 2 clock.minute).utf8 ++ octet ':' ::
          ((Text.fixed 2 clock.second).utf8 ++ (Rfc3339.fraction nanoseconds).utf8)) := by
    simp only [Clock.written, sexagesimal, Text.utf8_append, Text.utf8_cons, colon,
      List.append_assoc, List.cons_append, List.nil_append]
  rw [octets, clock?, clockFields?_colon hour (by decide) (ne_nil_of_fixed 1 _ _),
    clockFields?_colon minute (by decide) (ne_nil_of_fixed 1 _ _)]
  by_cases zero : nanoseconds = 0
  · subst zero
    have empty : (Rfc3339.fraction 0).utf8 = [] := rfl
    rw [empty, List.append_nil, clockFields?_end second]
    rfl
  · have point : (Rfc3339.fraction nanoseconds).utf8 =
        octet '.' :: (Rfc3339.fractionDigits nanoseconds).utf8 := by
      rw [Rfc3339.fraction_eq zero, Text.utf8_cons]
      rfl
    have filled : (Rfc3339.fractionDigits nanoseconds).utf8 ≠ [] := by
      rw [Text.utf8, ne_eq, List.flatMap_eq_nil_iff]
      intro empty
      rcases List.exists_mem_of_ne_nil _ (Rfc3339.fractionDigits_ne_nil small zero) with
        ⟨c, member⟩
      exact CodePoint.utf8_ne_nil c (empty c member)
    rw [point, clockFields?_point second filled]
    simp only [Option.map_some, Option.bind_eq_bind, Option.bind_some,
      fraction?_fractionDigits small]
    rfl

/-! ## Offsets -/

/-- An offset with its sign, which is zero too. -/
def signed (minutes : Int) : Text :=
  (if minutes < 0 then CodePoint.ofChar '-' else CodePoint.ofChar '+') ::
    sexagesimal (minutes.natAbs / 60) (minutes.natAbs % 60)

/-- Two fields of two digits are read as an hour and a minute. -/
theorem clock?_sexagesimal {high low : Nat} (fitsHigh : high < 100) (fitsLow : low < 100) :
    clock? (sexagesimal high low).utf8 = some ⟨high, low, 0, 0, true⟩ := by
  have octets : (sexagesimal high low).utf8 =
      (Text.fixed 2 high).utf8 ++ octet ':' :: (Text.fixed 2 low).utf8 := by
    rw [sexagesimal, Text.utf8_append, Text.utf8_cons]
    rfl
  have more := ne_nil_of_fixed 1 low []
  rw [List.append_nil] at more
  rw [octets, clock?, clockFields?_colon fitsHigh (by decide) more, clockFields?_end fitsLow]
  rfl

/-- An offset of less than a day is read back. -/
theorem offset?_signed {minutes : Int} (inside : minutes.natAbs < 1440) :
    ∃ offset : UtcOffset, offset.microseconds = minutes * 60000000 ∧
      offset? (isChar '-' (if minutes < 0 then octet '-' else octet '+'))
          (sexagesimal (minutes.natAbs / 60) (minutes.natAbs % 60)).utf8 =
        some (.fixed offset) := by
  refine ⟨⟨minutes * 60000000, by omega, by omega⟩, rfl, ?_⟩
  have total : minutes.natAbs / 60 * 3600 + minutes.natAbs % 60 * 60 + 0 = minutes.natAbs * 60 := by
    omega
  rw [offset?, clock?_sexagesimal (by omega) (by omega)]
  simp only [Option.bind_eq_bind, Option.bind_some, total, Int.natCast_mul]
  have size : (if minutes.natAbs * 60 = 0 then (0 : Int)
      else (minutes.natAbs : Int) * (60 : Nat) * 1000000 + (0 : Nat)) =
        (minutes.natAbs : Int) * 60000000 := by
    split
    · omega
    · omega
  have value : (if isChar '-' (if minutes < 0 then octet '-' else octet '+') = true then
      -((minutes.natAbs : Int) * 60000000) else (minutes.natAbs : Int) * 60000000) =
        minutes * 60000000 := by
    rcases Int.lt_or_le minutes 0 with behind | ahead
    · rw [if_pos behind, if_pos (by decide)]
      omega
    · rw [if_neg (Int.not_lt.mpr ahead), if_neg (by decide)]
      omega
  have bounds : -86400000000 < minutes * 60000000 ∧ minutes * 60000000 < 86400000000 := by omega
  rw [size, value, UtcOffset.ofMicroseconds?, dif_pos bounds]
  rfl

/-! ## Clocks with offsets -/

/-- What the octets of a clock are: digits, and the marks in front of fields. -/
def IsClockOctet (code : Nat) : Prop := 46 ≤ code ∧ code ≤ 58

instance (code : Nat) : Decidable (IsClockOctet code) := inferInstanceAs (Decidable (_ ∧ _))

theorem isClockOctet_ascii (code : Nat) (inside : IsClockOctet code) : code < 0x80 :=
  Nat.lt_of_le_of_lt inside.2 (by decide)

theorem isClockOctet_of_isDigit {code : Nat} (digit : IsDigit code) : IsClockOctet code :=
  ⟨Nat.le_trans (by decide) digit.1, Nat.le_trans digit.2 (by decide)⟩

theorem isClockOctet_written (clock : Clock) (nanoseconds : Nat) :
    ∀ c ∈ clock.written ++ Rfc3339.fraction nanoseconds, IsClockOctet c.val := by
  have field : ∀ number, ∀ c ∈ Text.fixed 2 number, IsClockOctet c.val :=
    fun number c member => isClockOctet_of_isDigit (Text.isDigit_fixed 2 number c member)
  have colon : IsClockOctet (CodePoint.ofChar ':').val := ⟨by decide, by decide⟩
  simp only [Clock.written, sexagesimal, List.forall_mem_append, List.forall_mem_cons]
  refine ⟨⟨⟨field _, colon, field _⟩, colon, field _⟩, ?_⟩
  by_cases zero : nanoseconds = 0
  · subst zero
    exact List.forall_mem_nil _
  · rw [Rfc3339.fraction_eq zero, List.forall_mem_cons]
    refine ⟨⟨by decide, by decide⟩, fun c member => ?_⟩
    exact isClockOctet_of_isDigit (Rfc3339.isDigit_fractionDigits nanoseconds c member)

/-- A sign ends the clock and starts the offset. -/
theorem clockAndZone?_append {before : Bytes} {sign : UInt8} (rest : Bytes)
    (plain : ∀ o ∈ before, IsClockOctet o.toNat) (isSign : sign = octet '+' ∨ sign = octet '-') :
    clockAndZone? (before ++ sign :: rest) = (do
      let reading ← clock? before
      let zone ← offset? (isChar '-' sign) rest
      let clock ← Clock.ofFields? reading.hour reading.minute reading.second reading.microsecond
      some (clock, zone)) := by
  have inside : ∀ o ∈ before,
      (!(isChar '+' o || isChar '-' o || isChar 'Z' o)) = true := by
    intro o member
    rw [isChar_eq_false (plain o member) (by decide), isChar_eq_false (plain o member) (by decide),
      isChar_eq_false (plain o member) (by decide)]
    rfl
  have outside : (!(isChar '+' sign || isChar '-' sign || isChar 'Z' sign)) = false := by
    rcases isSign with rfl | rfl
    · decide
    · decide
  have split : List.span (fun o => !(isChar '+' o || isChar '-' o || isChar 'Z' o))
      (before ++ sign :: rest) = (before, sign :: rest) := by
    rw [List.span_eq_takeWhile_dropWhile]
    exact splitWhile_append rest inside outside
  have notZ : isChar 'Z' sign = false := by
    rcases isSign with rfl | rfl
    · decide
    · decide
  rw [clockAndZone?, split]
  simp only [notZ, Bool.false_eq_true, if_false]

/-- A clock is read back with its offset. -/
theorem clockAndZone?_written (clock : Clock) {nanoseconds : Nat}
    (small : nanoseconds < 1000000000) {minutes : Int} (inside : minutes.natAbs < 1440) :
    ∃ offset : UtcOffset, offset.microseconds = minutes * 60000000 ∧
      clockAndZone?
          (Text.utf8 (clock.written ++ Rfc3339.fraction nanoseconds) ++ (signed minutes).utf8) =
        some (clock.withMicrosecond (nanoseconds / 1000) (by omega), .fixed offset) := by
  rcases offset?_signed inside with ⟨offset, microseconds, read⟩
  refine ⟨offset, microseconds, ?_⟩
  have plain := Text.forall_mem_utf8 isClockOctet_ascii (isClockOctet_written clock nanoseconds)
  have sign : (signed minutes).utf8 = (if minutes < 0 then octet '-' else octet '+') ::
      (sexagesimal (minutes.natAbs / 60) (minutes.natAbs % 60)).utf8 := by
    rw [signed, Text.utf8_cons]
    split
    · rfl
    · rfl
  have isSign : (if minutes < 0 then octet '-' else octet '+') = octet '+' ∨
      (if minutes < 0 then octet '-' else octet '+') = octet '-' := by
    split
    · exact Or.inr rfl
    · exact Or.inl rfl
  have fields : (clock.hour < 24 ∧ clock.minute < 60) ∧
      (clock.second < 60 ∧ nanoseconds / 1000 < 1000000) :=
    ⟨⟨clock.hour_lt, clock.minute_lt⟩, clock.second_lt, by omega⟩
  rw [sign, clockAndZone?_append _ plain isSign, clock?_written clock small]
  simp only [Option.bind_eq_bind, Option.bind_some, read, Clock.ofFields?, dif_pos fields]
  rfl

/-! ## Dates -/

theorem utf8_date_append (date : Date) (rest : Bytes) :
    date.written.utf8 ++ rest =
      (Text.fixed 4 date.year).utf8 ++ octet '-' ::
        ((Text.fixed 2 date.month).utf8 ++ octet '-' ::
          ((Text.fixed 2 date.day).utf8 ++ rest)) := by
  have hyphen : (CodePoint.ofChar '-').utf8 = [octet '-'] := rfl
  simp only [Date.written, Text.utf8_append, Text.utf8_cons, hyphen, List.append_assoc,
    List.cons_append, List.nil_append]

theorem length_utf8_date (date : Date) : date.written.utf8.length = 10 := by
  rw [← List.append_nil date.written.utf8, utf8_date_append]
  simp only [List.length_append, List.length_cons, length_utf8_fixed, List.length_nil]

/-- A date is read back from the ten octets it takes up. -/
theorem date?_written (date : Date) (rest : Bytes) :
    date? (date.written.utf8 ++ rest) 10 = some date := by
  rcases date.fields_fit with ⟨year, month, day⟩
  have length : (date.written.utf8 ++ rest).length - rest.length = 10 := by
    rw [List.length_append, length_utf8_date, Nat.add_sub_cancel]
  have fields : ((1 ≤ date.year ∧ date.year ≤ 9999) ∧ (1 ≤ date.month ∧ date.month ≤ 12)) ∧
      (1 ≤ date.day ∧ date.day ≤ daysInMonth date.year date.month) :=
    ⟨⟨⟨date.year_pos, date.year_le⟩, date.month_pos, date.month_le⟩, date.day_pos, date.day_le⟩
  rcases exists_digit_of_fixed 1 date.month
    (octet '-' :: ((Text.fixed 2 date.day).utf8 ++ rest)) with ⟨first, more, same, digit⟩
  have isHyphen : isChar '-' (octet '-') = true := by decide
  have notW : isChar 'W' first = false := isChar_eq_false digit (by decide)
  rw [date?]
  generalize (date.written.utf8 ++ rest).length = total at length ⊢
  rw [utf8_date_append, digits?_fixed year]
  simp only [Option.bind_eq_bind, Option.bind_some, List.head?_cons, Option.map_some,
    Option.getD_some, isHyphen, hyphen?, if_true]
  rw [same]
  simp only [List.head?_cons, Option.map_some, Option.getD_some, notW, Bool.false_eq_true, if_false]
  rw [← same, digits?_fixed month]
  simp only [Option.bind_some, isHyphen, if_true]
  rw [digits?_fixed day]
  simp only [Option.bind_some, length, if_true, Date.ofFields?, dif_pos fields]

/-- The octets of a date with hyphens are counted right. -/
theorem dateLength_written (date : Date) (mark : UInt8) (rest : Bytes) :
    dateLength (date.written.utf8 ++ mark :: rest) = 10 := by
  rcases exists_digit_of_fixed 1 date.month
    (octet '-' :: ((Text.fixed 2 date.day).utf8 ++ mark :: rest)) with ⟨first, more, same, digit⟩
  have long : ¬(date.written.utf8 ++ mark :: rest).length = 7 := by
    rw [List.length_append, length_utf8_date]
    omega
  have year := length_utf8_fixed 4 date.year
  have fifth : ((Text.fixed 4 date.year).utf8 ++ octet '-' :: first :: more)[4]? =
      some (octet '-') := by
    rw [List.getElem?_append_right (by omega), year]
    rfl
  have sixth : ((Text.fixed 4 date.year).utf8 ++ octet '-' :: first :: more)[5]? = some first := by
    rw [List.getElem?_append_right (by omega), year]
    rfl
  have isHyphen : isChar '-' (octet '-') = true := by decide
  have notW : isChar 'W' first = false := isChar_eq_false digit (by decide)
  rw [dateLength, if_neg long, utf8_date_append, same]
  simp only [fifth, sixth, Option.map_some, Option.getD_some, isHyphen, notW, if_true,
    Bool.false_eq_true, if_false]

/-! ## The letter for UTC -/

theorem replacing_of_absent {text : Text} {old : CodePoint} (absent : ∀ c ∈ text, c ≠ old)
    (replacement : Text) : text.replacing old replacement = text := by
  rw [Text.replacing, List.flatMap_congr fun c member => if_neg (absent c member)]
  exact List.flatMap_singleton' text

theorem replacing_append (left right : Text) (old : CodePoint) (replacement : Text) :
    Text.replacing (left ++ right) old replacement =
      left.replacing old replacement ++ right.replacing old replacement := List.flatMap_append

/-- Of the characters of a written time only the letter for UTC is a `Z`. -/
theorem ne_letter_of_lt {c : CodePoint} (before : c.val < 90) : c ≠ .ofChar 'Z' := by
  rintro rfl
  exact absurd before (by decide)

theorem lt_letter_of_fixed (width number : Nat) : ∀ c ∈ Text.fixed width number, c.val < 90 :=
  fun c member => Nat.lt_of_le_of_lt (Text.isDigit_fixed width number c member).2 (by decide)

/-- An offset without its letter is the same offset with a sign. -/
theorem replacing_offset (minutes : Int) :
    (Rfc3339.offset minutes).replacing 'Z' "+00:00" = signed minutes := by
  by_cases zero : minutes = 0
  · subst zero
    rfl
  · refine (congrArg (Text.replacing · _ _) (Rfc3339.offset_of_ne_zero zero)).trans ?_
    refine replacing_of_absent (fun c member => ne_letter_of_lt ?_) _
    revert c
    rw [sexagesimal, List.forall_mem_cons, List.forall_mem_append, List.forall_mem_cons]
    refine ⟨?_, lt_letter_of_fixed 2 _, by decide, lt_letter_of_fixed 2 _⟩
    split
    · decide
    · decide

/-- What the reader of times is given in place of a written time. -/
theorem replacing_written (dateTime : DateTime) (nanoseconds : Nat) :
    (Rfc3339.written dateTime nanoseconds).replacing 'Z' "+00:00" =
      dateTime.date.written ++ CodePoint.ofChar 'T' ::
        ((dateTime.clock.written ++ Rfc3339.fraction nanoseconds) ++
          signed dateTime.offsetMinutes) := by
  have date : ∀ c ∈ dateTime.date.written, c.val < 90 := by
    simp only [Date.written, List.forall_mem_append, List.forall_mem_cons]
    exact ⟨⟨lt_letter_of_fixed 4 _, by decide, lt_letter_of_fixed 2 _⟩, by decide,
      lt_letter_of_fixed 2 _⟩
  have clock : ∀ c ∈ dateTime.clock.written ++ Rfc3339.fraction nanoseconds, c.val < 90 :=
    fun c member => Nat.lt_of_le_of_lt (isClockOctet_written _ _ c member).2 (by decide)
  have stem : ∀ c ∈ dateTime.date.written ++ CodePoint.ofChar 'T' ::
      (dateTime.clock.written ++ Rfc3339.fraction nanoseconds), c ≠ .ofChar 'Z' := by
    refine fun c member => ne_letter_of_lt ?_
    revert c
    rw [List.forall_mem_append, List.forall_mem_cons]
    exact ⟨date, by decide, clock⟩
  have split : Rfc3339.written dateTime nanoseconds =
      (dateTime.date.written ++ CodePoint.ofChar 'T' ::
        (dateTime.clock.written ++ Rfc3339.fraction nanoseconds)) ++
          Rfc3339.offset dateTime.offsetMinutes := by
    simp only [Rfc3339.written, DateTime.offsetMinutes, List.append_assoc, List.cons_append]
  rw [split, replacing_append, replacing_of_absent stem, replacing_offset]
  simp only [List.append_assoc, List.cons_append]

/-! ## Times -/

/-- A text without surrogates already has a plain mark. -/
theorem withPlainMark_of_isEncodable {text : Text} (encodable : text.isEncodable = true) :
    withPlainMark text = text := by
  have plain : [7, 8, 10].find? (fun place =>
      (text[place]?.map CodePoint.isSurrogate).getD false) = none := by
    refine List.find?_eq_none.mpr fun place _ => ?_
    cases found : text[place]? with
    | none => decide
    | some c =>
        have notSurrogate := List.all_eq_true.mp encodable c (List.mem_of_getElem? found)
        rw [Option.map_some, Option.getD_some, Bool.not_eq_true]
        exact (Bool.not_eq_true' _).mp notSurrogate
  rw [withPlainMark, plain]

/-- A written time is read back, with microseconds and with its offset, if that is less than a
day. -/
theorem read?_written (dateTime : DateTime) {nanoseconds : Nat} (small : nanoseconds < 1000000000)
    (inside : dateTime.offsetMinutes.natAbs < 1440) :
    ∃ offset : UtcOffset, offset.microseconds = dateTime.offsetMinutes * 60000000 ∧
      read? ((Rfc3339.written dateTime nanoseconds).replacing 'Z' "+00:00") =
        some ⟨dateTime.date, dateTime.clock.withMicrosecond (nanoseconds / 1000) (by omega),
          .fixed offset⟩ := by
  rcases clockAndZone?_written dateTime.clock small inside with ⟨offset, microseconds, read⟩
  refine ⟨offset, microseconds, ?_⟩
  have encodable :
      ((Rfc3339.written dateTime nanoseconds).replacing 'Z' "+00:00").isEncodable = true := by
    refine Text.isEncodable_flatMap fun c member => ?_
    split
    · decide
    · refine Text.isEncodable_of_printable (List.forall_mem_singleton.mpr ?_)
      exact Rfc3339.printable_written dateTime nanoseconds c member
  have encoded := Text.encode_eq_ok_iff.mpr ⟨encodable, rfl⟩
  have mark : (CodePoint.ofChar 'T').utf8 = [octet 'T'] := rfl
  have length := length_utf8_date dateTime.date
  have single : width (octet 'T') = 1 := by decide
  rw [read?, withPlainMark_of_isEncodable encodable, encoded, replacing_written, if_neg]
  · simp only [Text.utf8_append, Text.utf8_cons, mark, List.singleton_append,
      Except.toOption, Option.bind_eq_bind, Option.bind_some, dateLength_written, date?_written]
    rw [Text.utf8_append] at read
    rw [List.drop_left' length]
    simp only [single, List.drop_succ_cons, List.drop_zero, read, Option.bind_some]
  · simp only [Date.written, List.length_append, List.length_cons, Text.length_fixed]
    omega

end Iso8601

end Syslog
