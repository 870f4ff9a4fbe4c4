import AirQuality.Proofs.Time.Days

/-!
# How the reading of a range ends

A bound stands for a moment, if it can be read, and the moment is then brought to UTC. The first
step fails with a text that is no date, and this is said; the second one fails with a moment so close
to an end of the calendar that its offset leads out of it, and this fault is of another kind. So a
range is accepted or refused, unless one of its bounds leaves the calendar.

## Key results

- `Bound.read_eq`: the two steps
- `DateRange.read_outcome`: how the reading of a range ends
- `DateRange.read_of_leaves`: what becomes of a range that leaves the calendar
-/

namespace AirQuality.Time

/-- A day that is read from a stamp exists. -/
private theorem Stamp.exists_of_civil? {s : String} {d : Civil} (read : Stamp.civil? s = some d) :
    d.exists = true := by
  -- The reader has checked the day before it gives it.
  obtain ⟨⟨day, rest⟩, _, read⟩ := Option.bind_eq_some_iff.mp read
  simp only at read
  split at read
  · rename_i fits
    obtain rfl := Option.some.inj read
    exact (Bool.and_eq_true_iff.mp fits).2
  · cases read

/-- Whether something is given that can be a bound: a moment, a day of the calendar, or any text. -/
def Bound.IsGiven : Bound → Prop
  | .moment _ => True
  | .day d => d.exists = true
  | .value v => ∃ t, v = .str t

/-- The moment that a bound stands for on its own clock, if it can be read; a day stands for the
given time of it. -/
def Bound.given? (time : DayTime) : Bound → Option Moment
  | .moment m => some m
  | .day d => (WallTime.of? d time).map fun w => ⟨w, none⟩
  | .value v =>
    let t := v.asText.stripped
    if t.length = 10 then
      (t.string?.bind Stamp.civil?).bind fun d => (WallTime.of? d time).map fun w => ⟨w, none⟩
    else Iso.moment? (spellOutZulu t)

/-- The text of a bound in a message, if it is a text. -/
def Bound.shown : Bound → String
  | .value v => v.shown
  | _ => ""

/-- A bound that can be read is brought to UTC; any other one is no date. -/
theorem Bound.read_eq {b : Bound} (given : b.IsGiven) {time : DayTime} (fits : time.exists = true) :
    b.read time = match b.given? time with
      | some m => orFault m.toUtc? .outOfRange
      | none => .error (.badDate b.shown) := by
  -- A day that exists has each time of day, and so it does not fail before it is brought to UTC.
  have day {d : Civil} (real : d.exists = true) : dayBound time d =
      match (WallTime.of? d time).map fun w => (⟨w, none⟩ : Moment) with
      | some m => orFault m.toUtc? .outOfRange
      | none => .error (.badDate b.shown) := by
    obtain ⟨w, made, _⟩ := WallTime.exists_of? real fits
    rw [dayBound, made, Option.map_some]
    exact toUtc_utc ⟨w, none⟩
  -- A moment is only moved, a day is the case above, and a value is read as one of the two.
  cases b with
  | moment m => exact toUtc_utc m
  | day d => exact day given
  | value v =>
    simp only [read, given?]
    -- Ten characters are read as a stamp, all others as ISO 8601.
    split
    · cases stamp : v.asText.stripped.string?.bind Stamp.civil? with
      | none => rfl
      | some d =>
        obtain ⟨_, _, named⟩ := Option.bind_eq_some_iff.mp stamp
        exact day (Stamp.exists_of_civil? named)
    · cases Iso.moment? (spellOutZulu v.asText.stripped) with
      | none => rfl
      | some m => exact toUtc_utc m

/-- Whether a bound can be read and lies outside of the calendar at UTC. -/
def Bound.IsOutside (time : DayTime) (b : Bound) : Prop :=
  ∃ m, b.given? time = some m ∧ ¬(0 ≤ m.key ∧ m.key < calendarMicros)

/-- A moment has no place at UTC if its instant is before the calendar or after it. -/
theorem Moment.toUtc?_eq_none_iff {m : Moment} :
    m.toUtc? = none ↔ ¬(0 ≤ m.key ∧ m.key < calendarMicros) := by
  rw [toUtc?, ofInstant?, Option.map_eq_none_iff, WallTime.ofInt?]
  split <;> simp <;> omega

/-- A bound is outside of the calendar if this is the fault that its reading ends with. -/
theorem Bound.isOutside_iff {b : Bound} (given : b.IsGiven) {time : DayTime}
    (fits : time.exists = true) : b.IsOutside time ↔ b.read time = .error .outOfRange := by
  simp only [IsOutside, ← Moment.toUtc?_eq_none_iff]
  rw [read_eq given fits]
  -- A bound that cannot be read is refused with another fault.
  cases b.given? time with
  | none => simp
  | some m => simp [orFault_eq_error_iff]

namespace DateRange

/-- Whether a bound leaves the calendar, and no other one is found not to be a date before. -/
def Leaves (a b : Bound) : Prop :=
  a.IsOutside .first ∨ (a.given? .first).isSome = true ∧ b.IsOutside .last

/-- How the reading of a range ends. -/
inductive Outcome (a b : Bound) : Except Fault DateRange → Prop where
  /-- The bounds at UTC, in order. -/
  | accepted {range : DateRange} (start : (a.given? .first).bind Moment.toUtc? = some range.start)
      (stop : (b.given? .last).bind Moment.toUtc? = some range.stop)
      (utc : range.start.offset = some .zero ∧ range.stop.offset = some .zero)
      (ordered : range.start.key ≤ range.stop.key) : Outcome a b (.ok range)
  | unreadable (shown : String) (unread : a.given? .first = none ∨ b.given? .last = none) :
      Outcome a b (.error (.badDate shown))
  | inverted {start stop : Moment} (first : a.given? .first = some start)
      (last : b.given? .last = some stop) (inverted : stop.key < start.key) :
      Outcome a b (.error .invertedRange)
  | outside (leaves : Leaves a b) : Outcome a b (.error .outOfRange)

variable {a b : Bound} (given : a.IsGiven) (given' : b.IsGiven)

include given given'

/-- A range is read as two moments at UTC in order, or it is refused, or it leaves the calendar. -/
theorem read_outcome : Outcome a b (DateRange.read a b) := by
  simp only [read, Bound.read_eq given (show DayTime.first.exists = true by decide),
    Bound.read_eq given' (show DayTime.last.exists = true by decide), bind, Except.bind]
  -- The second bound is looked at only when the first one is at UTC.
  cases first : a.given? .first with
  | none => exact .unreadable _ (.inl first)
  | some start =>
    cases startUtc : start.toUtc? with
    | none =>
      simp only [orFault, startUtc]
      exact .outside (.inl ⟨start, first, Moment.toUtc?_eq_none_iff.mp startUtc⟩)
    | some u =>
      simp only [orFault, startUtc]
      cases last : b.given? .last with
      | none => exact .unreadable _ (.inr last)
      | some stop =>
        cases stopUtc : stop.toUtc? with
        | none =>
          simp only [stopUtc]
          refine .outside (.inr ⟨by rw [first]; rfl, stop, last, ?_⟩)
          exact Moment.toUtc?_eq_none_iff.mp stopUtc
        | some v =>
          simp only [stopUtc]
          split
          · rename_i inverted
            -- The bounds are compared as instants, which moving them does not change.
            rw [Moment.key_of_toUtc? startUtc, Moment.key_of_toUtc? stopUtc] at inverted
            exact .inverted first last inverted
          · rename_i ordered
            refine .accepted (by rw [first]; exact startUtc) (by rw [last]; exact stopUtc) ?_ ?_
            · exact ⟨Moment.offset_of_toUtc? startUtc, Moment.offset_of_toUtc? stopUtc⟩
            · exact Int.not_lt.mp ordered

/-- A range that leaves the calendar is neither accepted nor refused. -/
theorem read_of_leaves (leaves : Leaves a b) : DateRange.read a b = .error .outOfRange := by
  rcases leaves with outside | ⟨readable, outside⟩
  · rw [read, (Bound.isOutside_iff given (by decide)).mp outside]
    rfl
  · -- The first bound is looked at first, but if it can be read it has no other fault.
    obtain ⟨start, first⟩ := Option.isSome_iff_exists.mp readable
    rw [read, (Bound.isOutside_iff given' (by decide)).mp outside,
      Bound.read_eq given (by decide), first]
    simp only
    cases start.toUtc? <;> rfl

end DateRange

end AirQuality.Time
