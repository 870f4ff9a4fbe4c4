import AirQuality.Time.Calendar

/-!
# Moments

A wall time is a calendar day and a time of day, to the microsecond. A moment is a wall time with an
offset from UTC, or without one; only moments with an offset name an instant. Moments are ordered
among each other if both have an offset (by instant) or both have none (by wall time); there is no
order between the two kinds.

* `WallTime.ofInt?`: a count of microseconds, if it lies in the calendar
* `Moment.le?`, `Moment.lt?`: the order, where there is one
* `Moment.shift?`, `Moment.toUtc?`: arithmetic that stays in the calendar or fails
-/

namespace AirQuality.Time

/-- Microseconds of a second. -/
def secondMicros : Nat := 1000000

/-- Microseconds of a minute. -/
def minuteMicros : Nat := 60 * secondMicros

/-- Microseconds of an hour. -/
def hourMicros : Nat := 3600 * secondMicros

/-- Microseconds of a day. -/
def dayMicros : Nat := 86400 * secondMicros

/-- Microseconds in the calendar. -/
def calendarMicros : Nat := calendarDays * dayMicros

/-- A calendar day with a time of day, as the count of microseconds since the calendar began. -/
structure WallTime where
  micros : Nat
  inCalendar : micros < calendarMicros
deriving DecidableEq

/-- The wall time with a count of microseconds. -/
def WallTime.ofInt? (n : Int) : Option WallTime :=
  if h : 0 ≤ n ∧ n.toNat < calendarMicros then some ⟨n.toNat, h.2⟩ else none

theorem WallTime.micros_of_ofInt? {n : Int} {w : WallTime} (h : ofInt? n = some w) :
    (w.micros : Int) = n := by
  unfold ofInt? at h
  split at h
  · obtain rfl := Option.some.inj h
    dsimp only
    omega
  · cases h

/-- A time of day. -/
structure DayTime where
  hour : Nat
  minute : Nat
  second : Nat
  micro : Nat
deriving Repr, DecidableEq

/-- Whether a day has such a time. -/
def DayTime.exists (t : DayTime) : Bool :=
  t.hour < 24 && t.minute < 60 && t.second < 60 && t.micro < secondMicros

/-- The microseconds since midnight. -/
def DayTime.micros (t : DayTime) : Nat :=
  ((t.hour * 60 + t.minute) * 60 + t.second) * secondMicros + t.micro

/-- The first time of a day. -/
def DayTime.first : DayTime := ⟨0, 0, 0, 0⟩

/-- The last time of a day. -/
def DayTime.last : DayTime := ⟨23, 59, 59, 999999⟩

/-- The wall time of a day and a time of day, if both exist. -/
def WallTime.of? (d : Civil) (t : DayTime) : Option WallTime :=
  if d.exists && t.exists then WallTime.ofInt? (d.dayNumber * dayMicros + t.micros) else none

/-- The day of a wall time. -/
def WallTime.civil (w : WallTime) : Civil := Civil.ofDayNumber (w.micros / dayMicros)

/-- The time of day of a wall time. -/
def WallTime.dayTime (w : WallTime) : DayTime :=
  let m := w.micros % dayMicros
  ⟨m / hourMicros, m / minuteMicros % 60, m / secondMicros % 60, m % secondMicros⟩

/-- A distance from UTC, counted eastwards in microseconds; less than a day either way. -/
structure UtcOffset where
  micros : Int
  inRange : -(dayMicros : Int) < micros ∧ micros < dayMicros
deriving DecidableEq

/-- The offset of a count of microseconds. -/
def UtcOffset.ofMicros? (n : Int) : Option UtcOffset :=
  if h : -(dayMicros : Int) < n ∧ n < dayMicros then some ⟨n, h⟩ else none

/-- No distance from UTC. -/
def UtcOffset.zero : UtcOffset := ⟨0, by decide⟩

/-- A wall time, with or without an offset from UTC. -/
structure Moment where
  wall : WallTime
  offset : Option UtcOffset
deriving DecidableEq

namespace Moment

/-- Whether the moment has an offset. -/
def isAware (m : Moment) : Bool := m.offset.isSome

/-- What moments are ordered by: the microseconds of the instant for a moment with an offset, those
of the wall time for one without. -/
def key (m : Moment) : Int :=
  match m.offset with
  | some o => m.wall.micros - o.micros
  | none => m.wall.micros

/-- Whether there is an order between two moments. -/
def comparable (a b : Moment) : Bool := a.isAware == b.isAware

/-- The order of moments. -/
def le? (a b : Moment) : Option Bool :=
  if comparable a b then some (a.key ≤ b.key) else none

/-- The strict order of moments. -/
def lt? (a b : Moment) : Option Bool :=
  if comparable a b then some (a.key < b.key) else none

theorem comparable_of_aware {a b : Moment} (ha : a.isAware = true) (hb : b.isAware = true) :
    a.comparable b = true := by
  simp [comparable, ha, hb]

theorem lt?_of_aware {a b : Moment} (ha : a.isAware = true) (hb : b.isAware = true) :
    a.lt? b = some (decide (a.key < b.key)) :=
  if_pos (comparable_of_aware ha hb)

theorem le?_isSome_iff {a b : Moment} : (a.le? b).isSome = comparable a b := by
  unfold le?
  split <;> simp_all

/-- The moment some microseconds later on the same clock, if the calendar has it. -/
def shift? (m : Moment) (delta : Int) : Option Moment :=
  (WallTime.ofInt? (m.wall.micros + delta)).map fun w => ⟨w, m.offset⟩

theorem isSome_shift?_iff {m : Moment} {delta : Int} :
    (m.shift? delta).isSome = true ↔
      0 ≤ m.wall.micros + delta ∧ m.wall.micros + delta < calendarMicros := by
  unfold shift? WallTime.ofInt?
  split <;> simp <;> omega

theorem shift?_eq_some {m m' : Moment} {delta : Int} (h : m.shift? delta = some m') :
    m'.offset = m.offset ∧ (m'.wall.micros : Int) = m.wall.micros + delta := by
  obtain ⟨w, wall, rfl⟩ := Option.map_eq_some_iff.mp h
  exact ⟨rfl, WallTime.micros_of_ofInt? wall⟩

theorem key_of_shift? {m m' : Moment} {delta : Int} (h : m.shift? delta = some m') :
    m'.key = m.key + delta := by
  obtain ⟨offset, wall⟩ := shift?_eq_some h
  unfold key
  rw [offset]
  cases m.offset <;> dsimp only <;> omega

theorem isAware_of_shift? {m m' : Moment} {delta : Int} (h : m.shift? delta = some m') :
    m'.isAware = m.isAware := by
  unfold isAware
  rw [(shift?_eq_some h).1]

theorem comparable_of_shift? {m m' : Moment} {delta : Int} (h : m.shift? delta = some m')
    (other : Moment) : m'.comparable other = m.comparable other := by
  unfold comparable
  rw [isAware_of_shift? h]

/-- The moment at UTC with a given instant, if the calendar has it. -/
def ofInstant? (n : Int) : Option Moment :=
  (WallTime.ofInt? n).map fun w => ⟨w, some .zero⟩

/-- The same instant at UTC, if the calendar has it; a moment without offset is taken as UTC. -/
def toUtc? (m : Moment) : Option Moment := ofInstant? m.key

end Moment

/-- The instant of the year 1970's beginning. -/
def epochMicros : Int := (Civil.mk 1970 1 1).dayNumber * dayMicros

end AirQuality.Time
