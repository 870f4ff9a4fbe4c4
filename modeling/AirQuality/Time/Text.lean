import AirQuality.Time.Moment

/-!
# Texts of moments

Four forms are written. All have the fields of the wall time with leading zeros, and a fraction of
six digits if there are microseconds.

* `isoText`: the offset as `+HH:MM`, with seconds and a fraction where it has any
* `spacedText`: the same with a space between day and time
* `recordText`: offsets in whole minutes, and `Z` for none
* `zuluText`: with `Z`, and always with a fraction
-/

namespace AirQuality.Time

/-- A number with leading zeros up to a width. -/
def padded (width n : Nat) : String :=
  let ds := Nat.toDigits 10 n
  String.ofList (List.replicate (width - ds.length) '0' ++ ds)

/-- Year, month and day. -/
def Civil.text (d : Civil) : String :=
  padded 4 d.year ++ "-" ++ padded 2 d.month ++ "-" ++ padded 2 d.day

/-- A point and six digits, or nothing. -/
def microsText (micro : Nat) : String :=
  if micro = 0 then "" else "." ++ padded 6 micro

/-- Hours, minutes and seconds, and the fraction if there is one. -/
def DayTime.text (t : DayTime) : String :=
  padded 2 t.hour ++ ":" ++ padded 2 t.minute ++ ":" ++ padded 2 t.second ++ microsText t.micro

/-- The offset with its sign. Seconds are written if the offset has them or a fraction. -/
def UtcOffset.text (o : UtcOffset) : String :=
  let n := o.micros.natAbs
  let seconds := n / secondMicros % 60
  let micro := n % secondMicros
  (if o.micros < 0 then "-" else "+") ++ padded 2 (n / hourMicros) ++ ":" ++
    padded 2 (n / minuteMicros % 60) ++
    (if seconds = 0 ∧ micro = 0 then "" else ":" ++ padded 2 seconds ++ microsText micro)

/-- The offset in whole minutes: it is rounded to the nearest second, and then its seconds are
dropped. None is left of an offset of less than half a second. -/
def UtcOffset.recordText (o : UtcOffset) : String :=
  let seconds := (2 * o.micros.natAbs + secondMicros) / (2 * secondMicros)
  if seconds = 0 then "Z"
  else
    (if o.micros < 0 then "-" else "+") ++ padded 2 (seconds / 3600) ++ ":" ++
      padded 2 (seconds / 60 % 60)

/-- Day, separator and time of a wall time. -/
def WallTime.text (separator : String) (w : WallTime) : String :=
  w.civil.text ++ separator ++ w.dayTime.text

namespace Moment

/-- Day and time joined by `T`, and the offset. -/
def isoText (m : Moment) : String :=
  m.wall.text "T" ++ (m.offset.map UtcOffset.text).getD ""

/-- Day and time with a space between them, and the offset. -/
def spacedText (m : Moment) : String :=
  m.wall.text " " ++ (m.offset.map UtcOffset.text).getD ""

/-- The text of a moment in a record. -/
def recordText (m : Moment) : String :=
  m.wall.text "T" ++ (m.offset.map UtcOffset.recordText).getD ""

/-- The wall time with six places of the second, and the letter of UTC. -/
def zuluText (m : Moment) : String :=
  let day := m.wall.civil
  let t := m.wall.dayTime
  toString day.year ++ "-" ++ padded 2 day.month ++ "-" ++ padded 2 day.day ++ "T" ++
    padded 2 t.hour ++ ":" ++ padded 2 t.minute ++ ":" ++ padded 2 t.second ++ "." ++
    padded 6 t.micro ++ "Z"

end Moment

end AirQuality.Time
