import AirQuality.Proofs.Time.Calendar
import AirQuality.Proofs.Time.Utc

/-!
# Days and times of day

A day of the calendar is known by its number, and a wall time shows the day and the time of day that
it was made of. So a day at UTC has a first moment and a last one, and a moment lies between these
just if it is one of that day.

## Key results

- `Civil.ofDayNumber_dayNumber`: a day is known by its number
- `WallTime.exists_of?`: a day and a time of day make a wall time that shows them
- `toUtc_utc`, `exists_dayBound`: moments and days at UTC
- `Moment.utcDay?_eq_some_iff`: the moments of a day
-/

namespace AirQuality.Time

/-! ## Days by number -/

/-- A later month has not fewer days of the year before it. -/
private theorem daysBeforeMonth_mono (year : Nat) {a b : Nat} (first : 1 ≤ a) (le : a ≤ b) :
    daysBeforeMonth year a ≤ daysBeforeMonth year b := by
  induction le with
  | refl => exact Nat.le_refl _
  | @step b le ih =>
    rw [daysBeforeMonth_succ year (Nat.le_trans first le)]
    omega

/-- The fields of a day place it in its month, and the month in its year. -/
theorem Civil.dayNumber_spec {d : Civil} (real : d.exists = true) :
    (1 ≤ d.year ∧ d.year ≤ lastYear) ∧ (1 ≤ d.month ∧ d.month ≤ 12) ∧
      (1 ≤ d.day ∧ d.day ≤ daysInMonth d.year d.month) ∧
      daysBeforeMonth d.year d.month + daysInMonth d.year d.month ≤ daysInYear d.year := by
  simp only [Civil.exists, Civil.isInMonth, Bool.and_eq_true, decide_eq_true_eq] at real
  -- The conditions on the fields, of which the last one places the day in its month.
  obtain ⟨⟨firstYear, lastYear⟩, ⟨⟨firstMonth, lastMonth⟩, firstDay⟩, lastDay⟩ := real
  refine ⟨⟨firstYear, lastYear⟩, ⟨firstMonth, lastMonth⟩, ⟨firstDay, lastDay⟩, ?_⟩
  rw [← daysBeforeMonth_succ d.year firstMonth, ← daysBeforeMonth_end d.year]
  exact daysBeforeMonth_mono d.year (by omega) (by omega)

/-- The number of a day lies in the year of the day. -/
private theorem Civil.dayNumber_bounds {d : Civil} (real : d.exists = true) :
    daysBeforeYear d.year ≤ d.dayNumber ∧ d.dayNumber < daysBeforeYear (d.year + 1) := by
  obtain ⟨⟨firstYear, _⟩, _, ⟨firstDay, lastDay⟩, inYear⟩ := dayNumber_spec real
  rw [daysBeforeYear_succ firstYear, dayNumber]
  omega

/-- A day that exists has a number of the calendar. -/
private theorem Civil.dayNumber_lt {d : Civil} (real : d.exists = true) :
    d.dayNumber < calendarDays := by
  obtain ⟨⟨_, lastYear⟩, _⟩ := dayNumber_spec real
  exact Nat.lt_of_lt_of_le (dayNumber_bounds real).2 (daysBeforeYear_mono (Nat.succ_le_succ lastYear))

/-- Of periods that follow each other, only one holds a day. -/
private theorem eq_of_between {before : Nat → Nat}
    (mono : ∀ {a b : Nat}, 1 ≤ a → a ≤ b → before a ≤ before b) {a b n : Nat} (ha : 1 ≤ a)
    (hb : 1 ≤ b) (within : before a ≤ n ∧ n < before (a + 1))
    (within' : before b ≤ n ∧ n < before (b + 1)) : a = b := by
  -- The period that comes first has ended when the other one begins.
  by_contra other
  rcases Nat.lt_or_gt_of_ne other with less | more
  · have ended := mono (by omega) (show a + 1 ≤ b by omega)
    omega
  · have ended := mono (by omega) (show b + 1 ≤ a by omega)
    omega

/-- Days with one number are the same day. -/
private theorem Civil.eq_of_dayNumber_eq {d e : Civil} (real : d.exists = true)
    (real' : e.exists = true) (same : d.dayNumber = e.dayNumber) : d = e := by
  have bounds := dayNumber_bounds real
  have bounds' := dayNumber_bounds real'
  obtain ⟨year, month, day⟩ := d
  obtain ⟨year', month', day'⟩ := e
  obtain ⟨⟨firstYear, _⟩, ⟨firstMonth, _⟩, ⟨firstDay, lastDay⟩, _⟩ := dayNumber_spec real
  obtain ⟨⟨firstYear', _⟩, ⟨firstMonth', _⟩, ⟨firstDay', lastDay'⟩, _⟩ := dayNumber_spec real'
  -- The number lies in one year, and then in one month of it.
  obtain rfl : year = year' := by
    rw [← same] at bounds'
    exact eq_of_between (fun _ => daysBeforeYear_mono) firstYear firstYear' bounds bounds'
  simp only [dayNumber] at same firstMonth firstMonth' firstDay lastDay firstDay' lastDay'
  have next := daysBeforeMonth_succ year firstMonth
  have next' := daysBeforeMonth_succ year firstMonth'
  have within : daysBeforeMonth year month ≤ daysBeforeMonth year month + (day - 1) ∧
      daysBeforeMonth year month + (day - 1) < daysBeforeMonth year (month + 1) := by omega
  obtain rfl : month = month' :=
    eq_of_between (daysBeforeMonth_mono year) firstMonth firstMonth' within (by omega)
  obtain rfl : day = day' := by omega
  rfl

/-- A day is known by its number. -/
theorem Civil.ofDayNumber_dayNumber {d : Civil} (real : d.exists = true) :
    Civil.ofDayNumber d.dayNumber = d :=
  eq_of_dayNumber_eq (exists_ofDayNumber (dayNumber_lt real)) real (dayNumber_ofDayNumber _)

/-! ## Wall times of a day -/

/-- A time of day is less than a day. -/
private theorem DayTime.micros_lt {t : DayTime} (fits : t.exists = true) :
    t.micros < dayMicros := by
  obtain ⟨hour, minute, second, micro⟩ := exists_iff.mp fits
  simp only [micros, dayMicros, secondMicros]
  omega

/-- A wall time shows the day and the time of day that it consists of. -/
private theorem WallTime.fields_of_micros {w : WallTime} {d : Civil} {t : DayTime}
    (real : d.exists = true) (fits : t.exists = true)
    (micros : w.micros = d.dayNumber * dayMicros + t.micros) :
    w.civil = d ∧ w.dayTime = t := by
  have short := DayTime.micros_lt fits
  have pos : 0 < dayMicros := by decide
  -- The time of day is less than a day: it is what a division into days leaves over.
  have day : w.micros / dayMicros = d.dayNumber := by
    rw [micros, Nat.mul_comm, Nat.mul_add_div pos, Nat.div_eq_of_lt short, Nat.add_zero]
  have time : w.micros % dayMicros = t.micros := by
    rw [micros, Nat.mul_comm, Nat.mul_add_mod, Nat.mod_eq_of_lt short]
  constructor
  · rw [civil, day, Civil.ofDayNumber_dayNumber real]
  -- The fields of the time of day are the digits of the rest in a mixed base.
  · obtain ⟨hour, minute, second, micro⟩ := DayTime.exists_iff.mp fits
    rw [dayTime, time]
    obtain ⟨h, m, s, u⟩ := t
    simp only [DayTime.micros, hourMicros, minuteMicros, secondMicros, DayTime.mk.injEq] at *
    omega

/-- A day and a time of day make a wall time. -/
theorem WallTime.exists_of? {d : Civil} {t : DayTime} (real : d.exists = true)
    (fits : t.exists = true) :
    ∃ w, WallTime.of? d t = some w ∧ w.micros = d.dayNumber * dayMicros + t.micros := by
  have day := Civil.dayNumber_lt real
  have time := DayTime.micros_lt fits
  have inCalendar : d.dayNumber * dayMicros + t.micros < calendarMicros := by
    -- The day ends before the calendar does.
    have upTo : (d.dayNumber + 1) * dayMicros ≤ calendarMicros := Nat.mul_le_mul_right _ day
    rw [Nat.succ_mul] at upTo
    omega
  refine ⟨⟨_, inCalendar⟩, ?_, rfl⟩
  rw [of?, real, fits, Bool.and_true, if_pos rfl, ofInt?, dif_pos (by omega)]
  rfl

/-! ## Moments at UTC -/

/-- A moment without an offset is taken as UTC. -/
theorem toUtc_utc (m : Moment) : toUtc (some .utc) m = orFault m.toUtc? .outOfRange := by
  -- A moment with an offset has a place of its own, and one without is placed by the zone.
  obtain ⟨wall, offset⟩ := m
  cases offset with
  | some o => rfl
  | none =>
    have placed : Zone.utc.place? wall = some ⟨wall, some .zero⟩ := rfl
    have instant : (Moment.mk wall (some .zero)).key = (Moment.mk wall none).key :=
      Moment.key_of_utc rfl
    simp only [toUtc, orFault, placed, bind, Except.bind, Moment.toUtc?, instant]

/-- Whether a moment is at UTC, and shows a day and a time of day. -/
structure Moment.IsAt (m : Moment) (d : Civil) (t : DayTime) : Prop where
  utc : m.offset = some .zero
  civil : m.wall.civil = d
  dayTime : m.wall.dayTime = t

/-- The day of a moment at UTC, if the calendar has the moment there. -/
def Moment.utcDay? (m : Moment) : Option Civil := m.toUtc?.map fun u => u.wall.civil

/-- The instant of a moment at UTC is that of its day and its time of day. -/
theorem Moment.IsAt.key {m : Moment} {d : Civil} {t : DayTime} (isAt : m.IsAt d t) :
    m.key = d.dayNumber * dayMicros + t.micros := by
  -- Days and rest of the wall time are those of the fields that it shows.
  have micros := Nat.div_add_mod' m.wall.micros dayMicros
  rw [← m.wall.micros_dayTime, isAt.dayTime] at micros
  have day : m.wall.micros / dayMicros = d.dayNumber := by
    rw [← isAt.civil, WallTime.civil, dayNumber_ofDayNumber]
  rw [Moment.key_of_utc isAt.utc, ← micros, day]
  exact_mod_cast rfl

/-- A day that exists starts, and ends, with a moment at UTC. -/
theorem exists_isAt {d : Civil} {t : DayTime} (real : d.exists = true) (fits : t.exists = true) :
    ∃ w, WallTime.of? d t = some w ∧ toUtc (some .utc) ⟨w, none⟩ = .ok ⟨w, some .zero⟩ ∧
      (Moment.mk w (some .zero)).IsAt d t := by
  obtain ⟨w, made, micros⟩ := WallTime.exists_of? real fits
  obtain ⟨civil, dayTime⟩ := WallTime.fields_of_micros real fits micros
  have instant : (Moment.mk w (some .zero)).key = (Moment.mk w none).key := Moment.key_of_utc rfl
  -- Moving to UTC does not change the instant, and at UTC there is nothing to move.
  refine ⟨w, made, ?_, ⟨rfl, civil, dayTime⟩⟩
  rw [toUtc_utc, Moment.toUtc?, ← instant, ← Moment.toUtc?, Moment.toUtc?_of_utc rfl]
  rfl

/-- The bound of a day that exists. -/
theorem exists_dayBound {d : Civil} {t : DayTime} (real : d.exists = true) (fits : t.exists = true) :
    ∃ m, dayBound t d = .ok m ∧ m.IsAt d t := by
  obtain ⟨w, made, placed, isAt⟩ := exists_isAt real fits
  refine ⟨_, ?_, isAt⟩
  rw [dayBound, made]
  exact placed

/-- The moments of a day are those from its first moment to its last. -/
theorem Moment.utcDay?_eq_some_iff {m first last : Moment} {d : Civil} (real : d.exists = true)
    (start : first.IsAt d .first) (stop : last.IsAt d .last) :
    m.utcDay? = some d ↔ first.key ≤ m.key ∧ m.key ≤ last.key := by
  have firstMicros : DayTime.first.micros = 0 := rfl
  have lastMicros : DayTime.last.micros + 1 = dayMicros := rfl
  rw [start.key, stop.key, firstMicros, utcDay?]
  constructor
  · intro named
    -- At UTC the moment is some time of the day.
    obtain ⟨u, placed, civil⟩ := Option.map_eq_some_iff.mp named
    have isAt : u.IsAt d u.wall.dayTime := ⟨offset_of_toUtc? placed, civil, rfl⟩
    have short := DayTime.micros_lt u.wall.exists_dayTime
    rw [← key_of_toUtc? placed, isAt.key]
    omega
  · rintro ⟨after, before⟩
    -- The day is in the calendar, and so is all of it.
    have day := Civil.dayNumber_lt real
    have upTo : (d.dayNumber + 1) * dayMicros ≤ calendarMicros := Nat.mul_le_mul_right _ day
    have whole : (d.dayNumber + 1) * dayMicros = d.dayNumber * dayMicros + dayMicros :=
      Nat.succ_mul _ _
    have inCalendar : 0 ≤ m.key ∧ m.key.toNat < calendarMicros := by omega
    rw [toUtc?, ofInstant?, WallTime.ofInt?, dif_pos inCalendar]
    have quotient : m.key.toNat / dayMicros = d.dayNumber := by
      refine Nat.div_eq_of_lt_le ?_ ?_ <;> omega
    simp only [Option.map_some, WallTime.civil, quotient, Civil.ofDayNumber_dayNumber real]

end AirQuality.Time
