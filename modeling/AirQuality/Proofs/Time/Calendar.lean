import AirQuality.Time.Moment
import Mathlib.Tactic.Common

/-!
# Days and their numbers

A day number names one day of the calendar, and that day has this number. So a wall time is known by
the year, month, day and time of day that it shows.

## Key results

- `exists_cycles`: a day number in cycles of 400, 100, 4 and 1 years
- `daysBeforeYear_succ`: a year begins when the one before it ends
- `dayNumber_ofDayNumber`: a day number names a day with this number
- `exists_ofDayNumber`: the day is one of the calendar
- `of?_civil_dayTime`: a wall time is put together again from the fields that it shows
-/

namespace AirQuality.Time

/-! ## Years -/

/-- The length of a year. -/
def daysInYear (year : Nat) : Nat := if isLeap year then 366 else 365

/-- The days before a year that is given by whole cycles of 400, 100, 4 and 1 years. -/
private theorem daysBeforeYear_cycles (a : Nat) {b c d : Nat} (hb : b ≤ 3) (hc : c ≤ 24)
    (hd : d ≤ 3) :
    daysBeforeYear (400 * a + 100 * b + 4 * c + d + 1) =
      146097 * a + 36524 * b + 1461 * c + 365 * d := by
  -- The three quotients of the past years, by the cycles that they are counted in.
  have past : 400 * a + 100 * b + 4 * c + d + 1 - 1 = 400 * a + 100 * b + 4 * c + d := by omega
  have fourths : (400 * a + 100 * b + 4 * c + d) / 4 = 100 * a + 25 * b + c := by omega
  have centuries : (400 * a + 100 * b + 4 * c + d) / 100 = 4 * a + b := by omega
  have cycles : (400 * a + 100 * b + 4 * c + d) / 400 = a := by omega
  simp only [daysBeforeYear, past, fourths, centuries, cycles]
  omega

/-- The last year of a cycle of four years is a leap year, but for three of four centuries. -/
private theorem isLeap_cycles (a : Nat) {b c d : Nat} (hb : b ≤ 3) (hc : c ≤ 24) (hd : d ≤ 3) :
    isLeap (400 * a + 100 * b + 4 * c + d + 1) = decide (d = 3 ∧ (c = 24 → b = 3)) := by
  rw [Bool.eq_iff_iff]
  simp only [isLeap, Bool.and_eq_true, Bool.or_eq_true, beq_iff_eq, bne_iff_ne, decide_eq_true_eq]
  -- Which of the moduli divide the year can be told from the four counts.
  omega

/-- A day number in whole cycles of years and a day of the last year. -/
theorem exists_cycles (n : Nat) :
    ∃ a b c d rest, b ≤ 3 ∧ c ≤ 24 ∧ d ≤ 3 ∧
      yearOfDayNumber n = 400 * a + 100 * b + 4 * c + d + 1 ∧
      n = 146097 * a + 36524 * b + 1461 * c + 365 * d + rest ∧
      rest < if d = 3 ∧ (c = 24 → b = 3) then 366 else 365 := by
  -- The counts are the quotients of the algorithm. A century or a year of the last cycle would be
  -- one too many on its last day, and so it is bounded by three.
  obtain ⟨b, hb⟩ : ∃ b, b = min (n % 146097 / 36524) 3 := ⟨_, rfl⟩
  obtain ⟨r100, hr100⟩ : ∃ r, r = n % 146097 - b * 36524 := ⟨_, rfl⟩
  obtain ⟨d, hd⟩ : ∃ d, d = min (r100 % 1461 / 365) 3 := ⟨_, rfl⟩
  have century : r100 < if b = 3 then 36525 else 36524 := by split <;> omega
  have fourth : r100 / 1461 ≤ 24 := by split at century <;> omega
  refine ⟨n / 146097, b, r100 / 1461, d, r100 % 1461 - 365 * d, by omega, fourth, by omega, ?_, ?_,
    ?_⟩
  · rw [hd, hr100, hb]
    rfl
  · omega
  · split <;> split at century <;> omega

/-- The year of a day number begins on that day or before it. -/
private theorem daysBeforeYear_le (n : Nat) : daysBeforeYear (yearOfDayNumber n) ≤ n := by
  obtain ⟨a, b, c, d, rest, hb, hc, hd, year, days, _⟩ := exists_cycles n
  rw [year, daysBeforeYear_cycles a hb hc hd]
  omega

/-- A day number is one of its year. -/
private theorem lt_daysInYear (n : Nat) :
    n - daysBeforeYear (yearOfDayNumber n) < daysInYear (yearOfDayNumber n) := by
  -- The days before the year are taken away, and the rest is what the last cycle leaves.
  obtain ⟨a, b, c, d, rest, hb, hc, hd, year, days, short⟩ := exists_cycles n
  rw [year, daysBeforeYear_cycles a hb hc hd, daysInYear, isLeap_cycles a hb hc hd]
  simp only [decide_eq_true_eq]
  omega

/-- A later year has not fewer days before it. -/
theorem daysBeforeYear_mono {a b : Nat} (h : a ≤ b) : daysBeforeYear a ≤ daysBeforeYear b := by
  induction h with
  | refl => exact Nat.le_refl _
  | step _ ih =>
    refine Nat.le_trans ih ?_
    simp only [daysBeforeYear]
    omega

/-- A year is a leap year if it is a multiple of 4, unless it is one of 100 and none of 400. -/
theorem isLeap_iff {year : Nat} :
    isLeap year = true ↔ 4 ∣ year ∧ (¬ 100 ∣ year ∨ 400 ∣ year) := by
  simp only [isLeap, Bool.and_eq_true, Bool.or_eq_true, beq_iff_eq, bne_iff_ne, ne_eq,
    Nat.dvd_iff_mod_eq_zero]

/-- A year begins when the one before it ends. -/
theorem daysBeforeYear_succ {year : Nat} (first : 1 ≤ year) :
    daysBeforeYear (year + 1) = daysBeforeYear year + daysInYear year := by
  obtain ⟨past, rfl⟩ : ∃ past, year = past + 1 := ⟨year - 1, by omega⟩
  have fewer : past / 100 ≤ past := Nat.div_le_self past 100
  -- Each quotient grows by one just where the year is a multiple, and these are nested.
  simp only [daysBeforeYear, daysInYear, isLeap_iff, Nat.add_sub_cancel, Nat.succ_div]
  generalize past / 4 = fourths, past / 100 = centuries, past / 400 = cycles at *
  by_cases cycle : 400 ∣ past + 1
  · have century : 100 ∣ past + 1 := Nat.dvd_trans (by decide) cycle
    have fourth : 4 ∣ past + 1 := Nat.dvd_trans (by decide) cycle
    simp only [cycle, century, fourth, or_true, and_true, if_true]
    omega
  by_cases century : 100 ∣ past + 1
  · have fourth : 4 ∣ past + 1 := Nat.dvd_trans (by decide) century
    simp only [cycle, century, fourth, not_true, or_false, and_false, if_true, if_false]
    omega
  by_cases fourth : 4 ∣ past + 1
  · simp only [cycle, century, fourth, not_false_iff, true_or, and_true, if_true, if_false]
    omega
  · simp only [cycle, century, fourth, false_and, if_false]
    omega

/-- The first year is the year one. -/
private theorem one_le_yearOfDayNumber (n : Nat) : 1 ≤ yearOfDayNumber n := by
  obtain ⟨a, b, c, d, rest, _, _, _, year, _⟩ := exists_cycles n
  omega

/-- The year of a day number ends behind that day. -/
private theorem lt_daysBeforeYear_succ (n : Nat) : n < daysBeforeYear (yearOfDayNumber n + 1) := by
  have within := lt_daysInYear n
  rw [daysBeforeYear_succ (one_le_yearOfDayNumber n)]
  omega

/-- A later day is not in an earlier year. -/
theorem yearOfDayNumber_mono {m n : Nat} (h : m ≤ n) : yearOfDayNumber m ≤ yearOfDayNumber n := by
  -- Otherwise the later day would have begun before the earlier one had ended.
  by_contra earlier
  have begun := daysBeforeYear_le m
  have next : daysBeforeYear (yearOfDayNumber n + 1) ≤ daysBeforeYear (yearOfDayNumber m) :=
    daysBeforeYear_mono (Nat.lt_of_not_le earlier)
  have ended := lt_daysBeforeYear_succ n
  omega

/-- The days of the calendar lie in its years. -/
private theorem yearOfDayNumber_le {n : Nat} (h : n < calendarDays) :
    yearOfDayNumber n ≤ lastYear := by
  have first := daysBeforeYear_le n
  -- A later year would begin behind the last day of the calendar.
  by_contra beyond
  have late : calendarDays ≤ daysBeforeYear (yearOfDayNumber n) :=
    daysBeforeYear_mono (Nat.lt_of_not_le beyond)
  omega

/-! ## Months -/

/-- No month has more than 31 days. -/
theorem daysInMonth_le (year month : Nat) : daysInMonth year month ≤ 31 := by
  unfold daysInMonth
  split
  · split <;> omega
  all_goals omega

/-- A month begins when the one before it ends. -/
theorem daysBeforeMonth_succ (year : Nat) {month : Nat} (h : 1 ≤ month) :
    daysBeforeMonth year (month + 1) = daysBeforeMonth year month + daysInMonth year month := by
  cases month with
  | zero => omega
  | succ month => rfl

/-- The months of a year add up to its length. -/
theorem daysBeforeMonth_end (year : Nat) : daysBeforeMonth year 13 = daysInYear year := by
  -- Only February differs in a leap year.
  simp only [daysBeforeMonth, daysInMonth, daysInYear]
  split <;> rfl

/-- The month and the day of the month that are found for a day fit together, and name the day. -/
private theorem monthOfDay_spec (year : Nat) {month n left : Nat} (first : 1 ≤ month)
    (last : daysBeforeMonth year month + n < daysBeforeMonth year (month + left + 1)) :
    1 ≤ (monthOfDay year month n left).1 ∧
    (monthOfDay year month n left).1 ≤ month + left ∧
    1 ≤ (monthOfDay year month n left).2 ∧
    (monthOfDay year month n left).2 ≤ daysInMonth year (monthOfDay year month n left).1 ∧
    daysBeforeMonth year (monthOfDay year month n left).1 +
        ((monthOfDay year month n left).2 - 1) =
      daysBeforeMonth year month + n := by
  -- On the months that are left: the day is in this month, or it is looked for in the next one.
  induction left generalizing month n with
  | zero =>
    rw [Nat.add_zero, daysBeforeMonth_succ year first] at last
    simp only [monthOfDay]
    omega
  | succ left ih =>
    have next := daysBeforeMonth_succ year first
    by_cases here : n < daysInMonth year month
    · simp only [monthOfDay, here, if_true]
      omega
    · -- The day lies in a later month, counted from its first day.
      rw [monthOfDay, if_neg here]
      have later : daysBeforeMonth year (month + 1) + (n - daysInMonth year month) <
          daysBeforeMonth year (month + 1 + left + 1) := by
        rw [show month + 1 + left + 1 = month + (left + 1) + 1 by omega]
        omega
      obtain ⟨low, high, one, fits, days⟩ := ih (by omega) later
      refine ⟨low, by omega, one, fits, ?_⟩
      omega

/-! ## Days -/

/-- The month and the day of a day number fit together, and name the day in its year. -/
private theorem Civil.ofDayNumber_spec (n : Nat) :
    ∃ month day, Civil.ofDayNumber n = ⟨yearOfDayNumber n, month, day⟩ ∧
      1 ≤ month ∧ month ≤ 12 ∧ 1 ≤ day ∧ day ≤ daysInMonth (yearOfDayNumber n) month ∧
      daysBeforeMonth (yearOfDayNumber n) month + (day - 1) =
        n - daysBeforeYear (yearOfDayNumber n) := by
  -- The day of the year is looked for from January on, with eleven months behind it.
  have inYear : daysBeforeMonth (yearOfDayNumber n) 1 + (n - daysBeforeYear (yearOfDayNumber n)) <
      daysBeforeMonth (yearOfDayNumber n) (1 + 11 + 1) := by
    rw [daysBeforeMonth_end]
    simpa [daysBeforeMonth] using lt_daysInYear n
  have spec := monthOfDay_spec (yearOfDayNumber n) (Nat.le_refl 1) inYear
  rw [show daysBeforeMonth (yearOfDayNumber n) 1 = 0 from rfl, Nat.zero_add] at spec
  cases found : monthOfDay (yearOfDayNumber n) 1 (n - daysBeforeYear (yearOfDayNumber n)) 11 with
  | mk month day =>
    rw [found] at spec
    have parts : Civil.ofDayNumber n = ⟨yearOfDayNumber n, month, day⟩ := by
      simp only [Civil.ofDayNumber, found]
    exact ⟨month, day, parts, spec⟩

/-- A day number names a day with this number. -/
theorem dayNumber_ofDayNumber (n : Nat) : (Civil.ofDayNumber n).dayNumber = n := by
  obtain ⟨month, day, parts, _, _, _, _, days⟩ := Civil.ofDayNumber_spec n
  have year := daysBeforeYear_le n
  simp only [parts, Civil.dayNumber]
  omega

/-- A day number of the calendar names a day that exists. -/
theorem exists_ofDayNumber {n : Nat} (h : n < calendarDays) :
    (Civil.ofDayNumber n).exists = true := by
  obtain ⟨month, day, parts, firstMonth, lastMonth, firstDay, lastDay, _⟩ :=
    Civil.ofDayNumber_spec n
  have firstYear := one_le_yearOfDayNumber n
  have lastYear := yearOfDayNumber_le h
  simp only [parts, Civil.exists, Civil.isInMonth, Bool.and_eq_true, decide_eq_true_eq]
  exact ⟨⟨firstYear, lastYear⟩, ⟨⟨firstMonth, lastMonth⟩, firstDay⟩, lastDay⟩

/-! ## Wall times -/

/-- The fields of a time of day are checked one by one. -/
theorem DayTime.exists_iff {t : DayTime} :
    t.exists = true ↔ t.hour < 24 ∧ t.minute < 60 ∧ t.second < 60 ∧ t.micro < 1000000 := by
  simp only [DayTime.exists, Bool.and_eq_true, decide_eq_true_eq, and_assoc]
  rfl

/-- The fields of a time of day that is shown are in range. -/
theorem WallTime.dayTime_lt (w : WallTime) :
    w.dayTime.hour < 24 ∧ w.dayTime.minute < 60 ∧ w.dayTime.second < 60 ∧
      w.dayTime.micro < 1000000 := by
  simp only [WallTime.dayTime, dayMicros, hourMicros, minuteMicros, secondMicros]
  omega

/-- The time of day that is shown is one that exists. -/
theorem WallTime.exists_dayTime (w : WallTime) : w.dayTime.exists = true :=
  DayTime.exists_iff.mpr w.dayTime_lt

/-- The time of day that is shown is the part of a wall time within its day. -/
theorem WallTime.micros_dayTime (w : WallTime) : w.dayTime.micros = w.micros % dayMicros := by
  simp only [WallTime.dayTime, DayTime.micros, dayMicros, hourMicros, minuteMicros, secondMicros]
  omega

/-- The day that is shown has a number of the calendar. -/
private theorem WallTime.day_lt (w : WallTime) : w.micros / dayMicros < calendarDays := by
  have inCalendar := w.inCalendar
  rw [calendarMicros] at inCalendar
  exact Nat.div_lt_of_lt_mul (by rwa [Nat.mul_comm] at inCalendar)

/-- The day that is shown is one of the calendar. -/
theorem WallTime.exists_civil (w : WallTime) : w.civil.exists = true := exists_ofDayNumber w.day_lt

/-- A wall time is put together again from the day and the time of day that it shows. -/
theorem WallTime.of?_civil_dayTime (w : WallTime) : WallTime.of? w.civil w.dayTime = some w := by
  have day := w.exists_civil
  have time := w.exists_dayTime
  -- Days and the part of the last day add up to the microseconds of the wall time.
  have micros : w.civil.dayNumber * dayMicros + w.dayTime.micros = w.micros := by
    rw [WallTime.civil, dayNumber_ofDayNumber, w.micros_dayTime, Nat.mul_comm, Nat.div_add_mod]
  have count : (w.civil.dayNumber * dayMicros + w.dayTime.micros : Int) = (w.micros : Nat) := by
    exact_mod_cast micros
  have inCalendar := w.inCalendar
  rw [WallTime.of?, day, time, Bool.and_true, if_pos rfl, count, WallTime.ofInt?,
    dif_pos (by omega)]
  rfl

end AirQuality.Time
