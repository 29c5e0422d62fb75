import Syslog.Time.DateTime

namespace Syslog

/-!
# Which seconds have a date

Days are cut into eras of 400 years, centuries, cycles of four years and years, and a year into
its months.  Each cut is shown to lose nothing, so that the date found for an ordinal has that
ordinal (`Date.ofOrdinal?_eq_some`).  It follows that a number of seconds from the epoch can be
written as a UTC time exactly if it lies in one of the years 1 to 9999
(`DateTime.ofSeconds?_isSome_iff`).
-/

/-- The days of a year. -/
def daysInYear (year : Nat) : Nat := if isLeapYear year then 366 else 365

/-- The ordinal of the last day of the year 9999. -/
def lastOrdinal : Nat := 3652059

theorem isLeapYear_iff {year : Nat} :
    isLeapYear year = true ↔ year % 4 = 0 ∧ (year % 100 ≠ 0 ∨ year % 400 = 0) := by
  simp [isLeapYear]

theorem daysInYear_cases (year : Nat) :
    (year % 4 = 0 ∧ (year % 100 ≠ 0 ∨ year % 400 = 0)) ∧ daysInYear year = 366 ∨
    ¬(year % 4 = 0 ∧ (year % 100 ≠ 0 ∨ year % 400 = 0)) ∧ daysInYear year = 365 := by
  by_cases leap : isLeapYear year = true
  · exact Or.inl ⟨isLeapYear_iff.mp leap, if_pos leap⟩
  · exact Or.inr ⟨fun rule => leap (isLeapYear_iff.mpr rule), if_neg leap⟩

/-- The days before a year of an era, where the year is given by its parts. -/
theorem daysBeforeYear_parts {era century cycle year : Nat} (centuries : century ≤ 3)
    (cycles : cycle ≤ 24) (years : year ≤ 3) :
    daysBeforeYear (era * 400 + century * 100 + cycle * 4 + year + 1) =
      era * 146097 + century * 36524 + cycle * 1461 + year * 365 := by
  have fours : (era * 400 + century * 100 + cycle * 4 + year) / 4 =
    era * 100 + century * 25 + cycle := by omega
  have hundreds : (era * 400 + century * 100 + cycle * 4 + year) / 100 =
    era * 4 + century := by omega
  have eras : (era * 400 + century * 100 + cycle * 4 + year) / 400 = era := by omega
  simp only [daysBeforeYear, Nat.add_sub_cancel, fours, hundreds, eras]
  omega

private theorem succ_div (number divisor : Nat) :
    (number + 1) / divisor =
      number / divisor + if (number + 1) % divisor = 0 then 1 else 0 := by
  rw [Nat.succ_div]
  simp only [Nat.dvd_iff_mod_eq_zero]

/-- The days that are past at the end of a year. -/
theorem daysBeforeYear_succ (past : Nat) :
    daysBeforeYear (past + 2) = daysBeforeYear (past + 1) + daysInYear (past + 1) := by
  have fours := succ_div past 4
  have hundreds := succ_div past 100
  have eras := succ_div past 400
  have fewer : past / 100 ≤ past / 4 := Nat.div_le_div_left (by decide) (by decide)
  have before : daysBeforeYear (past + 1) =
    past * 365 + past / 4 - past / 100 + past / 400 := rfl
  have after : daysBeforeYear (past + 2) =
    (past + 1) * 365 + (past + 1) / 4 - (past + 1) / 100 + (past + 1) / 400 := rfl
  rw [before, after, fours, hundreds, eras]
  generalize past / 4 = four at *
  generalize past / 100 = hundred at *
  generalize past / 400 = era at *
  rcases daysInYear_cases (past + 1) with ⟨⟨four, notHundred | era⟩, days⟩ | ⟨common, days⟩
  · rw [days, if_pos four, if_neg notHundred, if_neg (by omega)]
    omega
  · rw [days, if_pos four, if_pos (by omega), if_pos era]
    omega
  · rw [days]
    by_cases four : (past + 1) % 4 = 0
    · rw [if_pos four, if_pos (by omega), if_neg (by omega)]
      omega
    · rw [if_neg four, if_neg (by omega), if_neg (by omega)]
      omega

theorem daysBeforeYear_mono {first second : Nat} (later : first ≤ second) :
    daysBeforeYear (first + 1) ≤ daysBeforeYear (second + 1) := by
  induction later with
  | refl => exact Nat.le_refl _
  | @step past _ inductionHypothesis =>
      rw [daysBeforeYear_succ past]
      exact Nat.le_trans inductionHypothesis (Nat.le_add_right _ _)

namespace Date

/-- Cutting days into a year and days of that year loses nothing. -/
theorem splitDays_spec (days : Nat) :
    1 ≤ (splitDays days).1 ∧
      daysBeforeYear (splitDays days).1 + (splitDays days).2 = days ∧
      (splitDays days).2 < daysInYear (splitDays days).1 := by
  simp only [splitDays]
  generalize eraEq : days / 146097 = era
  generalize inEraEq : days % 146097 = inEra
  generalize centuryEq : min 3 (inEra / 36524) = century
  generalize cycleEq : (inEra - century * 36524) / 1461 = cycle
  generalize inCycleEq : (inEra - century * 36524) % 1461 = inCycle
  generalize yearEq : min 3 (inCycle / 365) = year
  have centuries : century ≤ 3 := by omega
  have cycles : cycle ≤ 24 := by omega
  have years : year ≤ 3 := by omega
  refine ⟨by omega, ?_, ?_⟩
  · rw [daysBeforeYear_parts centuries cycles years]
    omega
  · rcases daysInYear_cases (era * 400 + century * 100 + cycle * 4 + year + 1) with
      ⟨_, length⟩ | ⟨common, length⟩
    · omega
    · -- only the last year of a cycle can have 366 days, and then it is a leap year
      rw [length]
      have fours : year = 3 → (era * 400 + century * 100 + cycle * 4 + year + 1) % 4 = 0 := by
        intro last
        omega
      omega

/-- A year of the calendar ends no later than its last day. -/
theorem yearEnd_le {year : Nat} (positive : 1 ≤ year) (inside : year ≤ 9999) :
    daysBeforeYear year + daysInYear year ≤ lastOrdinal := by
  rcases Nat.exists_eq_add_of_le' positive with ⟨past, rfl⟩
  rw [← daysBeforeYear_succ]
  exact daysBeforeYear_mono inside

/-- A year beyond the calendar starts no earlier than the last day is over. -/
theorem lastOrdinal_le {year : Nat} (beyond : 9999 < year) :
    lastOrdinal ≤ daysBeforeYear year := by
  rcases Nat.exists_eq_add_of_le' (Nat.zero_lt_of_lt beyond) with ⟨past, rfl⟩
  exact daysBeforeYear_mono (Nat.le_of_lt_succ beyond)

theorem daysBeforeMonth_succ (year : Nat) {month : Nat} (positive : 1 ≤ month) :
    daysBeforeMonth year (month + 1) = daysBeforeMonth year month + daysInMonth year month := by
  cases month with
  | zero => omega
  | succ earlier => rfl

/-- The month that is found, and the day in it, lie in the year; nothing is lost. -/
theorem splitYear_spec (year months month days : Nat) (positive : 1 ≤ month)
    (enough : daysBeforeMonth year month + days <
      daysBeforeMonth year (month + months) + daysInMonth year (month + months)) :
    let found := splitYear year months month days
    (month ≤ found.1 ∧ found.1 ≤ month + months) ∧
      (1 ≤ found.2 ∧ found.2 ≤ daysInMonth year found.1) ∧
      daysBeforeMonth year found.1 + found.2 = daysBeforeMonth year month + days + 1 := by
  induction months generalizing month days with
  | zero =>
      simp only [splitYear, Nat.add_zero] at enough ⊢
      omega
  | succ months inductionHypothesis =>
      simp only [splitYear]
      by_cases inside : days < daysInMonth year month
      · rw [if_pos inside]
        simp only
        omega
      · rw [if_neg inside]
        have past := daysBeforeMonth_succ year positive
        have shift : month + 1 + months = month + (months + 1) := by omega
        have found := inductionHypothesis (month + 1) (days - daysInMonth year month)
          (by omega) (by rw [shift]; omega)
        simp only at found ⊢
        omega

/-- The twelve months make up the year. -/
theorem daysBeforeMonth_twelve (year : Nat) :
    daysBeforeMonth year 12 + daysInMonth year 12 = daysInYear year := by
  simp only [daysBeforeMonth, daysInMonth, daysInYear]
  cases isLeapYear year <;> rfl

/-- A month ends no later than one that comes after it. -/
theorem daysBeforeMonth_mono (year : Nat) {month : Nat} (positive : 1 ≤ month) (later : Nat) :
    daysBeforeMonth year month + daysInMonth year month ≤
      daysBeforeMonth year (month + later) + daysInMonth year (month + later) := by
  induction later with
  | zero => exact Nat.le_refl _
  | succ later inductionHypothesis =>
      have still : 1 ≤ month + later := Nat.le_add_right_of_le positive
      have past := daysBeforeMonth_succ year still
      rw [← Nat.add_assoc, past]
      omega

theorem ordinal_pos (date : Date) : 1 ≤ date.ordinal := by
  have day := date.day_pos
  simp only [ordinal]
  omega

theorem ordinal_le_yearEnd (date : Date) :
    date.ordinal ≤ daysBeforeYear date.year + daysInYear date.year := by
  rcases Nat.exists_eq_add_of_le date.month_le with ⟨later, twelve⟩
  have month := daysBeforeMonth_mono date.year date.month_pos later
  rw [← twelve, daysBeforeMonth_twelve] at month
  have day := date.day_le
  simp only [ordinal]
  omega

/-- No date lies behind the last day of the year 9999. -/
theorem ordinal_le (date : Date) : date.ordinal ≤ lastOrdinal :=
  Nat.le_trans date.ordinal_le_yearEnd (yearEnd_le date.year_pos date.year_le)

theorem ordinal_lt_of_year_lt {earlier later : Date} (before : earlier.year < later.year) :
    earlier.ordinal < later.ordinal := by
  have yearEnd := earlier.ordinal_le_yearEnd
  rcases Nat.exists_eq_add_of_le' earlier.year_pos with ⟨past, same⟩
  rcases Nat.exists_eq_add_of_le' later.year_pos with ⟨more, sameLater⟩
  rw [same, ← daysBeforeYear_succ past] at yearEnd
  have years : daysBeforeYear (past + 2) ≤ daysBeforeYear later.year := by
    rw [sameLater]
    exact daysBeforeYear_mono (by omega)
  have day := later.day_pos
  rw [ordinal] at yearEnd ⊢
  rw [ordinal]
  omega

theorem ordinal_lt_of_month_lt {earlier later : Date} (year : earlier.year = later.year)
    (before : earlier.month < later.month) : earlier.ordinal < later.ordinal := by
  rcases Nat.exists_eq_add_of_lt before with ⟨between, same⟩
  have months := daysBeforeMonth_mono earlier.year earlier.month_pos between
  have past := daysBeforeMonth_succ earlier.year
    (show 1 ≤ earlier.month + between from Nat.le_add_right_of_le earlier.month_pos)
  have monthEnd := earlier.day_le
  have day := later.day_pos
  rw [ordinal, ordinal, ← year, same, past]
  omega

/-- No two dates have the same ordinal. -/
theorem eq_of_ordinal_eq {left right : Date} (same : left.ordinal = right.ordinal) :
    left = right := by
  have year : left.year = right.year := by
    rcases Nat.lt_trichotomy left.year right.year with before | equal | after
    · exact absurd same (Nat.ne_of_lt (ordinal_lt_of_year_lt before))
    · exact equal
    · exact absurd same (Nat.ne_of_gt (ordinal_lt_of_year_lt after))
  have month : left.month = right.month := by
    rcases Nat.lt_trichotomy left.month right.month with before | equal | after
    · exact absurd same (Nat.ne_of_lt (ordinal_lt_of_month_lt year before))
    · exact equal
    · exact absurd same (Nat.ne_of_gt (ordinal_lt_of_month_lt year.symm after))
  have day : left.day = right.day := by
    rw [ordinal, ordinal, year, month] at same
    exact Nat.add_left_cancel same
  cases left
  cases right
  cases year
  cases month
  cases day
  rfl

theorem ofOrdinal?_of_pos {ordinal : Nat} (positive : 1 ≤ ordinal) :
    ofOrdinal? ordinal =
      let year := (splitDays (ordinal - 1)).1
      let found := splitYear year 11 1 (splitDays (ordinal - 1)).2
      ofFields? year found.1 found.2 := by
  rw [ofOrdinal?, if_neg (by omega)]

/-- Every ordinal up to that of the last day has a date, and the date has this ordinal. -/
theorem ofOrdinal?_eq_some {ordinal : Nat} (positive : 1 ≤ ordinal)
    (inside : ordinal ≤ lastOrdinal) :
    ∃ date, ofOrdinal? ordinal = some date ∧ date.ordinal = ordinal := by
  rcases splitDays_spec (ordinal - 1) with ⟨yearPositive, days, inYear⟩
  rw [ofOrdinal?_of_pos positive]
  generalize (splitDays (ordinal - 1)).1 = year at *
  generalize (splitDays (ordinal - 1)).2 = dayOfYear at *
  have yearInside : year ≤ 9999 := by
    apply Nat.le_of_not_lt
    intro beyond
    have later := lastOrdinal_le beyond
    omega
  have firstMonth : daysBeforeMonth year 1 = 0 := rfl
  have enough : daysBeforeMonth year 1 + dayOfYear <
      daysBeforeMonth year 12 + daysInMonth year 12 := by
    rw [daysBeforeMonth_twelve, firstMonth, Nat.zero_add]
    exact inYear
  have found := splitYear_spec year 11 1 dayOfYear (Nat.le_refl 1) enough
  rcases found with ⟨⟨monthPositive, monthInside⟩, ⟨dayPositive, dayInside⟩, total⟩
  simp only [ofFields?]
  rw [dif_pos ⟨⟨⟨yearPositive, yearInside⟩, monthPositive, monthInside⟩, dayPositive, dayInside⟩]
  refine ⟨_, rfl, ?_⟩
  simp only [Date.ordinal]
  omega

/-- Only ordinals up to that of the last day have a date. -/
theorem of_ofOrdinal?_eq_some {ordinal : Nat} {date : Date}
    (found : ofOrdinal? ordinal = some date) :
    (1 ≤ ordinal ∧ ordinal ≤ lastOrdinal) ∧ date.ordinal = ordinal := by
  have positive : 1 ≤ ordinal := by
    apply Nat.pos_of_ne_zero
    intro zero
    simp [ofOrdinal?, zero] at found
  have inside : ordinal ≤ lastOrdinal := by
    rcases splitDays_spec (ordinal - 1) with ⟨yearPositive, days, inYear⟩
    rw [ofOrdinal?_of_pos positive] at found
    generalize (splitDays (ordinal - 1)).1 = year at *
    simp only [ofFields?] at found
    split at found
    · next fields =>
        have yearEnd := yearEnd_le yearPositive fields.1.1.2
        omega
    · cases found
  rcases ofOrdinal?_eq_some positive inside with ⟨other, foundOther, same⟩
  rw [found] at foundOther
  cases foundOther
  exact ⟨⟨positive, inside⟩, same⟩

end Date

namespace DateTime

/-- The first second of the year 1 and the last second of the year 9999. -/
def firstSecond : Int := -62135596800

@[inherit_doc firstSecond]
def lastSecond : Int := 253402300799

/-- Seconds that some date and some time of day amount to, counted from the epoch. -/
def IsInCalendar (seconds : Int) : Prop :=
  ∃ (date : Date) (clock : Clock),
    seconds = ((date.ordinal : Int) - epochOrdinal) * 86400 + clock.seconds

end DateTime

namespace Clock

theorem seconds_lt (clock : Clock) : clock.seconds < 86400 := by
  have hour := clock.hour_lt
  have minute := clock.minute_lt
  have second := clock.second_lt
  simp only [seconds]
  omega

theorem ofSeconds_seconds {seconds : Nat} (inside : seconds < 86400) (microseconds : Nat) :
    (ofSeconds seconds microseconds).seconds = seconds := by
  simp only [Clock.seconds, ofSeconds]
  omega

end Clock

namespace DateTime

/-- Within these seconds, the day of a second has a date. -/
theorem exists_date {seconds : Int} (first : firstSecond ≤ seconds)
    (last : seconds ≤ lastSecond) :
    0 < seconds.fdiv 86400 + epochOrdinal ∧
      ∃ date, Date.ofOrdinal? (seconds.fdiv 86400 + epochOrdinal).toNat = some date ∧
        (date.ordinal : Int) = seconds / 86400 + epochOrdinal := by
  have epoch : (epochOrdinal : Int) = 719163 := rfl
  simp only [firstSecond, lastSecond] at first last
  rw [Int.fdiv_eq_ediv_of_nonneg seconds (by decide)]
  have positive : 0 < seconds / 86400 + epochOrdinal := by omega
  have least : 1 ≤ (seconds / 86400 + epochOrdinal).toNat := by omega
  have inside : (seconds / 86400 + epochOrdinal).toNat ≤ lastOrdinal := by
    simp only [lastOrdinal]
    omega
  rcases Date.ofOrdinal?_eq_some least inside with ⟨date, found, same⟩
  exact ⟨positive, date, found, by omega⟩

theorem isInCalendar_iff {seconds : Int} :
    IsInCalendar seconds ↔ firstSecond ≤ seconds ∧ seconds ≤ lastSecond := by
  have epoch : (epochOrdinal : Int) = 719163 := rfl
  constructor
  · rintro ⟨date, clock, rfl⟩
    have positive := date.ordinal_pos
    have inside := date.ordinal_le
    have clockInside := clock.seconds_lt
    simp only [firstSecond, lastSecond, lastOrdinal] at inside ⊢
    omega
  · rintro ⟨first, last⟩
    rcases exists_date first last with ⟨_, date, _, same⟩
    refine ⟨date, .ofSeconds (seconds % 86400).toNat 0, ?_⟩
    rw [Clock.ofSeconds_seconds (by omega), same]
    omega

/-- A number of seconds from the epoch has a UTC time exactly in the years 1 to 9999. -/
theorem ofSeconds?_isSome_iff {seconds : Int} :
    (ofSeconds? seconds).isSome = true ↔ IsInCalendar seconds := by
  have epoch : (epochOrdinal : Int) = 719163 := rfl
  have whole : (seconds * 1000000).fdiv 1000000 = seconds :=
    Int.mul_fdiv_cancel seconds (by decide)
  simp only [ofSeconds?, ofMicroseconds?, whole]
  constructor
  · intro found
    apply isInCalendar_iff.mpr
    rw [Int.fdiv_eq_ediv_of_nonneg seconds (by decide)] at found
    split at found
    · next positive =>
        rw [Option.isSome_map] at found
        rcases Option.isSome_iff_exists.mp found with ⟨date, foundDate⟩
        rcases Date.of_ofOrdinal?_eq_some foundDate with ⟨⟨_, inside⟩, _⟩
        simp only [firstSecond, lastSecond, lastOrdinal] at inside ⊢
        omega
    · cases found
  · intro inside
    rcases isInCalendar_iff.mp inside with ⟨first, last⟩
    rcases exists_date first last with ⟨positive, date, found, _⟩
    rw [if_pos positive, found]
    rfl

end DateTime

end Syslog
