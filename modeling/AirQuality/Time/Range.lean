import AirQuality.Time.Feed
import AirQuality.Json.Shown

/-!
# Date ranges

A range is given by two bounds, both of them in the range. A bound is a moment, a day, or a text; a
day stands for its first moment at the start of a range and for its last at the end. A text of ten
characters is a day, any other one ISO 8601.

* `DateRange.read`: two bounds as moments at UTC, the first not after the second
-/

namespace AirQuality.Time

/-- A bound of a range, as it is given. -/
inductive Bound where
  | moment (m : Moment)
  | day (d : Civil)
  | value (v : Json)

/-- Two moments, the first not after the second. -/
structure DateRange where
  start : Moment
  stop : Moment
deriving DecidableEq

/-- The moment of a day that a range starts or ends with. -/
def dayBound (time : DayTime) (d : Civil) : Except Fault Moment := do
  let w ← orFault (WallTime.of? d time) .badValue
  toUtc (some .utc) ⟨w, none⟩

/-- Reads a bound; a day stands for the given time of it. -/
def Bound.read (time : DayTime) : Bound → Except Fault Moment
  | .moment m => toUtc (some .utc) m
  | .day d => dayBound time d
  | .value v => do
    let t := v.asText.stripped
    -- The length tells a day from a moment.
    if t.length = 10 then
      let d ← orFault (t.string?.bind Stamp.civil?) (.badDate v.shown)
      dayBound time d
    else
      let m ← orFault (Iso.moment? (spellOutZulu t)) (.badDate v.shown)
      toUtc (some .utc) m

/-- Reads a range. -/
def DateRange.read (start stop : Bound) : Except Fault DateRange := do
  let a ← start.read .first
  let b ← stop.read .last
  if b.key < a.key then .error .invertedRange else return ⟨a, b⟩

end AirQuality.Time
