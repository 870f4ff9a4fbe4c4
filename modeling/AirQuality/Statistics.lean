import AirQuality.Measurement

/-!
# Statistics of a station

Averages, extremes and a histogram of levels over the measurements of a window. Absent values are
left out: a pollutant without any value has no average, and a genuine average of zero stays zero.

* `mean?`, `Summary.of?`: average, least and greatest of some values
* `histogram`: how often each level occurs
* `Statistics.mostCommonLevel`: the level with the greatest positive count, the better one of equals
* `Statistics.of?`: all of it for a list of measurements
-/

namespace AirQuality

open Time (Moment)

/-- The sum from left to right, starting at zero. -/
def total (xs : List Float) : Float := xs.foldl (· + ·) 0.0

/-- The sum divided by the count, if there are values. -/
def mean? (xs : List Float) : Option Float :=
  if xs.isEmpty then none else some (total xs / Float.ofNat xs.length)

/-- Average, least and greatest of some values. -/
structure Summary where
  avg : Float
  min : Float
  max : Float

namespace Summary

/-- The summary of some values, if there are any. A later value is the least or the greatest only if
it is strictly below or above the ones in front. -/
def of? : List Float → Option Summary
  | [] => none
  | x :: xs =>
    some ⟨total (x :: xs) / Float.ofNat (xs.length + 1),
      xs.foldl (fun m y => if y < m then y else m) x,
      xs.foldl (fun m y => if m < y then y else m) x⟩

/-- Reads a summary from the pairs of an object. -/
def ofPairs (pairs : List (Text × Json)) : Checked Summary :=
  Summary.mk <$> Check.required "avg" Check.real pairs <*> Check.required "min" Check.real pairs
    <*> Check.required "max" Check.real pairs

/-- Reads a summary. -/
def ofJson : Json → Checked Summary := Check.record ofPairs

/-- The summary of numbers that may be integers, if there are any. -/
def ofNumbers? : List Number → Except Fault (Option Summary)
  | [] => .ok none
  | x :: xs => do
    let avg ← orFault (Number.mean? (x :: xs)) .outOfRange
    let checked := ofPairs [("avg", .ofFloat avg), ("min", .num (xs.foldl Number.least x)),
      ("max", .num (xs.foldl Number.greatest x))]
    return some (← checked.orFault)

/-- The summary as a record. -/
def toJson (s : Summary) : Json :=
  .obj [("avg", .ofFloat s.avg), ("min", .ofFloat s.min), ("max", .ofFloat s.max)]

/-- The summary as a record, or null. -/
def toJson? : Option Summary → Json
  | some s => s.toJson
  | none => .null

end Summary

/-- How often levels occur, by level. -/
abbrev LevelCounts := List (Level × Int)

namespace LevelCounts

/-- The count of a level, zero if it is not listed. -/
def get (counts : LevelCounts) (l : Level) : Int :=
  ((counts.find? fun e => e.1 == l).map Prod.snd).getD 0

/-- Zero for every level. -/
def zero : LevelCounts := Level.all.map fun l => (l, 0)

/-- Reads counts from the pairs of an object, whose keys are the names of levels. -/
def ofPairs : List (Text × Json) → Checked LevelCounts
  | [] => .valid []
  | (k, v) :: rest =>
    let level := ((Level.check (.str k)).within .keyItself).within (.key k)
    let count := (Check.integer v).within (.key k)
    List.cons <$> (Prod.mk <$> level <*> count) <*> ofPairs rest

/-- Reads counts. -/
def ofJson : Json → Checked LevelCounts
  | .obj pairs => ofPairs pairs
  | _ => Checked.problem .notAMapping

/-- The counts as a record. -/
def toJson (counts : LevelCounts) : Json :=
  .obj (counts.map fun (l, n) => (l.name, .ofInt n))

end LevelCounts

/-- How often each level occurs as the overall level. -/
def histogram (ms : List Measurement) : LevelCounts :=
  Level.all.map fun l => (l, ((ms.filter fun m => m.levels.overall == some l).length : Int))

/-- The statistics of a station over a period. -/
structure Statistics where
  stationId : Int
  stationName : Option Text
  periodStart : Moment
  periodEnd : Moment
  count : Int
  pm10 : Option Summary
  pm25 : Option Summary
  so2 : Option Float
  no2 : Option Float
  co : Option Float
  o3 : Option Float
  levelCounts : LevelCounts

namespace Statistics

/-- The level with the greatest positive count; of equal counts the better level. -/
def mostCommonLevel (s : Statistics) : Option Level :=
  Level.all.foldl (fun best l =>
    let n := s.levelCounts.get l
    match best with
    | none => if 0 < n then some l else none
    | some b => if 0 < n ∧ s.levelCounts.get b < n then some l else some b) none

/-- The values of a pollutant that are present. -/
def present (ms : List Measurement) (p : Pollutant) : List Float :=
  ms.filterMap fun m => m.values.get p

/-- The statistics of a station's measurements, if there are any. The name of the station is that of
the first one. -/
def of? (stationId : Int) (start stop : Moment) : List Measurement → Option Statistics
  | [] => none
  | m :: ms =>
    let present := present (m :: ms)
    some
      { stationId := stationId
        stationName := m.stationName
        periodStart := start
        periodEnd := stop
        count := (m :: ms).length
        pm10 := Summary.of? (present .pm10)
        pm25 := Summary.of? (present .pm25)
        so2 := mean? (present .so2)
        no2 := mean? (present .no2)
        co := mean? (present .co)
        o3 := mean? (present .o3)
        levelCounts := histogram (m :: ms) }

/-- Reads statistics from the pairs of an object. -/
def ofPairs (pairs : List (Text × Json)) : Checked Statistics :=
  Statistics.mk <$> Check.required "station_id" Check.integer pairs
    <*> Check.nullableField "station_name" Check.text pairs
    <*> Check.required "period_start" Check.moment pairs
    <*> Check.required "period_end" Check.moment pairs
    <*> Check.required "measurement_count" Check.integer pairs
    <*> Check.nullableField "pm10" Summary.ofJson pairs
    <*> Check.nullableField "pm25" Summary.ofJson pairs
    <*> Check.nullableField "so2_avg" Check.real pairs
    <*> Check.nullableField "no2_avg" Check.real pairs
    <*> Check.nullableField "co_avg" Check.real pairs
    <*> Check.nullableField "o3_avg" Check.real pairs
    <*> Check.optional "level_counts" LevelCounts.zero LevelCounts.ofJson pairs

/-- Reads statistics. -/
def ofJson : Json → Checked Statistics := Check.record ofPairs

/-- The statistics as a record, with the most common level. -/
def toJson (s : Statistics) : Json :=
  .obj [("station_id", .ofInt s.stationId), ("station_name", .ofText? s.stationName),
    ("period_start", .ofMoment s.periodStart), ("period_end", .ofMoment s.periodEnd),
    ("measurement_count", .ofInt s.count), ("pm10", Summary.toJson? s.pm10),
    ("pm25", Summary.toJson? s.pm25), ("so2_avg", .ofFloat? s.so2), ("no2_avg", .ofFloat? s.no2),
    ("co_avg", .ofFloat? s.co), ("o3_avg", .ofFloat? s.o3),
    ("level_counts", s.levelCounts.toJson), ("most_common_level", Level.toJson? s.mostCommonLevel)]

end Statistics

end AirQuality
