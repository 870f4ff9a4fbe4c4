import AirQuality.Text.Split
import AirQuality.TimeSeries.Point

/-!
# Selections of points

What is asked of the database: the points from a time on, and possibly before another one, of one
station or of all of them. The times of a selection are at UTC. A selection has a text for the
database, and so has the removal of points.

* `Selection.records`: the measurements of a range, both ends included
* `Selection.recent`: whether there is a point at a time or after it
* `Selection.text`, `Selection.lines`: the text of a selection
-/

namespace AirQuality.TimeSeries

open Time (Moment)

/-- What is wanted of the selected points. -/
inductive Wanted where
  /-- Whole records by time, up to a limit. -/
  | records (newestFirst : Bool) (limit : Option Nat)
  /-- A single identifier. -/
  | anyIdentifier
deriving Repr, DecidableEq

/-- A selection of points: from `start` on, and before `stop`. -/
structure Selection where
  start : Moment
  stop : Option Moment
  station : Option Int
  wanted : Wanted
deriving DecidableEq

/-- A removal of points: from `start` on, up to `stop`. -/
structure Removal where
  start : Moment
  stop : Moment
deriving DecidableEq

/-- A moment at UTC. One without an offset is taken as UTC, but not on the first day of the
calendar. -/
def atUtc (m : Moment) : Except Fault Moment :=
  if m.offset.isNone && m.wall.micros < Time.dayMicros then .error .badValue
  else orFault m.toUtc? .outOfRange

/-- The beginning of 1970 at UTC. -/
def epoch : Moment := ⟨⟨Time.epochMicros.toNat, by decide⟩, some .zero⟩

/-- The least step of time: a range without its end includes a moment if it ends a step later. -/
def step : Int := 1

namespace Selection

/-- The measurements from `start` to `stop`, both included. -/
def records (start stop : Moment) (station : Option Int) (newestFirst : Bool)
    (limit : Option Nat) : Except Fault Selection := do
  let start ← atUtc start
  let stop ← atUtc (← orFault (stop.shift? step) .outOfRange)
  return ⟨start, some stop, station, .records newestFirst limit⟩

/-- A point of a station at a time or after it. -/
def recent (station : Int) (threshold : Moment) : Except Fault Selection := do
  return ⟨← atUtc threshold, none, some station, .anyIdentifier⟩

/-- The line that selects the times. -/
def rangeLine (s : Selection) : String :=
  "|> range(start: " ++ s.start.zuluText ++
    (match s.stop with
      | some stop => ", stop: " ++ stop.zuluText
      | none => "") ++ ")"

/-- The line that selects a station. -/
def stationLine (id : Int) : String :=
  "|> filter(fn: (r) => r[\"station_id\"] == \"" ++ toString id ++ "\")"

/-- The lines that shape what is selected. -/
def wantedLines : Wanted → List String
  | .records newestFirst limit =>
    ["|> pivot(rowKey: [\"_time\"], columnKey: [\"_field\"], valueColumn: \"_value\")",
      "|> group()",
      "|> sort(columns: [\"_time\"], desc: " ++ (if newestFirst then "true" else "false") ++ ")"] ++
      limit.toList.map fun n => "|> limit(n: " ++ toString n ++ ")"
  | .anyIdentifier => ["|> filter(fn: (r) => r._field == \"record_id\")", "|> limit(n: 1)"]

/-- The text of a selection from a bucket. -/
def text (bucket : String) (s : Selection) : String :=
  "\n".intercalate <|
    ["from(bucket: \"" ++ bucket ++ "\")", s.rangeLine,
      "|> filter(fn: (r) => r._measurement == \"" ++ seriesName ++ "\")"] ++
      s.station.toList.map stationLine ++ wantedLines s.wanted

/-- The text of a selection from a bucket, line by line. -/
def lines (bucket : String) (s : Selection) : List String := Text.trimmedLines (s.text bucket)

end Selection

namespace Removal

/-- The removal of everything since 1970 that is older than a moment. -/
def olderThan (threshold : Moment) : Except Fault Removal := do
  return ⟨epoch, ← orFault (threshold.shift? (-step)) .outOfRange⟩

/-- The text that says which points are removed. -/
def condition : String := "_measurement=\"" ++ seriesName ++ "\""

end Removal

end AirQuality.TimeSeries
