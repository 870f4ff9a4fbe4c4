import AirQuality.Time.Feed
import AirQuality.Time.Range

/-!
# Moments at UTC

A moment at UTC is known by its wall time, and a moment that has one at UTC is the same instant
there. The bounds of a range are moments at UTC, however they are given.

## Key results

- `Moment.toUtc?_of_utc`, `Moment.key_of_toUtc?`: the moment at UTC
- `offset_of_readFeed`: dates of the feed
- `Bound.offset_of_read`, `DateRange.of_read`: bounds and ranges
-/

namespace AirQuality.Time

/-- The beginning of the calendar. -/
def WallTime.first : WallTime := ⟨0, by decide⟩

/-- At UTC the instant is the wall time. -/
theorem Moment.key_of_utc {m : Moment} (utc : m.offset = some .zero) : m.key = m.wall.micros := by
  simp [Moment.key, utc, UtcOffset.zero]

/-- A moment at UTC is its own moment at UTC. -/
theorem Moment.toUtc?_of_utc {m : Moment} (utc : m.offset = some .zero) : m.toUtc? = some m := by
  have inCalendar := m.wall.inCalendar
  rw [toUtc?, ofInstant?, key_of_utc utc, WallTime.ofInt?, dif_pos (by omega)]
  obtain ⟨wall, offset⟩ := m
  obtain rfl := utc
  rfl

/-- What is moved to UTC has the offset of UTC. -/
theorem Moment.offset_of_toUtc? {m u : Moment} (h : m.toUtc? = some u) : u.offset = some .zero := by
  obtain ⟨w, _, rfl⟩ := Option.map_eq_some_iff.mp h
  rfl

/-- The moment at UTC is the same instant. -/
theorem Moment.key_of_toUtc? {m u : Moment} (h : m.toUtc? = some u) : u.key = m.key := by
  rw [key_of_utc (offset_of_toUtc? h)]
  obtain ⟨w, wall, rfl⟩ := Option.map_eq_some_iff.mp h
  exact WallTime.micros_of_ofInt? wall

/-- So has what is moved to UTC from a zone. -/
private theorem offset_of_toUtc {zone : Option Zone} {m u : Moment} (h : toUtc zone m = .ok u) :
    u.offset = some .zero := by
  have atUtc {placed : Moment} (h : orFault placed.toUtc? .outOfRange = .ok u) :
      u.offset = some .zero := Moment.offset_of_toUtc? (orFault_eq_ok_iff.mp h)
  -- A moment without an offset is placed by the zone first, and moved after that.
  simp only [toUtc] at h
  split at h
  · exact atUtc h
  · obtain ⟨_, _, h⟩ := bind_eq_ok_iff.mp h
    obtain ⟨_, _, h⟩ := bind_eq_ok_iff.mp h
    exact atUtc h

/-- A date of the feed is read as a moment at UTC. -/
theorem offset_of_readFeed {text : Text} {zone : Option Zone} {m : Moment}
    (read : readFeed text zone = .ok m) : m.offset = some .zero := by
  simp only [readFeed] at read
  -- A stamp has no offset of its own, but what is read is at UTC in either case.
  split at read
  · obtain ⟨_, _, placed⟩ := bind_eq_ok_iff.mp read
    exact offset_of_toUtc placed
  · obtain ⟨_, _, placed⟩ := bind_eq_ok_iff.mp read
    exact offset_of_toUtc placed

/-! ## Ranges -/

/-- A bound of a range is read as a moment at UTC. -/
theorem Bound.offset_of_read {time : DayTime} {b : Bound} {m : Moment} (h : b.read time = .ok m) :
    m.offset = some .zero := by
  have day {d : Civil} (h : dayBound time d = .ok m) : m.offset = some .zero := by
    obtain ⟨_, _, placed⟩ := bind_eq_ok_iff.mp h
    exact offset_of_toUtc placed
  -- Whatever a bound is read as, moving it to UTC comes last.
  cases b with
  | moment given => exact offset_of_toUtc h
  | day d => exact day h
  | value v =>
    simp only [Bound.read] at h
    split at h
    · obtain ⟨_, _, placed⟩ := bind_eq_ok_iff.mp h
      exact day placed
    · obtain ⟨_, _, placed⟩ := bind_eq_ok_iff.mp h
      exact offset_of_toUtc placed

/-- A range that is accepted is one at UTC, and is not the wrong way round. -/
theorem DateRange.of_read {a b : Bound} {range : DateRange} (h : DateRange.read a b = .ok range) :
    range.start.offset = some .zero ∧ range.stop.offset = some .zero ∧
      range.start.key ≤ range.stop.key := by
  obtain ⟨start, first, h⟩ := bind_eq_ok_iff.mp h
  obtain ⟨stop, last, h⟩ := bind_eq_ok_iff.mp h
  -- The bounds are compared before the range is made of them.
  split at h
  · cases h
  · rename_i order
    obtain rfl := Except.ok.inj h
    exact ⟨a.offset_of_read first, b.offset_of_read last, Int.not_lt.mp order⟩

end AirQuality.Time
