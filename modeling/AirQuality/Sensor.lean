import AirQuality.Record.Check
import AirQuality.Time.Text

/-!
# Live values of a station

The live index of a station carries the labels that the feed gives to its levels; a sensor carries a
series of readings of one pollutant.

* `latestValues`: the latest value of every pollutant code
-/

namespace AirQuality

open Time (Moment)

/-- A moment in a record. -/
def Json.ofMoment (m : Moment) : Json := .str m.recordText

/-- The live index of a station, with the labels of its levels as the feed writes them. -/
structure LiveIndex where
  stationId : Int
  calculationDate : Moment
  overall : Option Text
  so2 : Option Text
  no2 : Option Text
  pm10 : Option Text
deriving DecidableEq

namespace LiveIndex

/-- Reads a live index from the pairs of an object. -/
def ofPairs (pairs : List (Text × Json)) : Checked LiveIndex :=
  LiveIndex.mk <$> Check.required "station_id" Check.integer pairs
    <*> Check.required "calculation_date" Check.moment pairs
    <*> Check.nullableField "overall_level" Check.text pairs
    <*> Check.nullableField "so2_level" Check.text pairs
    <*> Check.nullableField "no2_level" Check.text pairs
    <*> Check.nullableField "pm10_level" Check.text pairs

/-- Reads a live index. -/
def ofJson : Json → Checked LiveIndex := Check.record ofPairs

/-- The live index as a record. -/
def toJson (i : LiveIndex) : Json :=
  .obj [("station_id", .ofInt i.stationId), ("calculation_date", .ofMoment i.calculationDate),
    ("overall_level", .ofText? i.overall), ("so2_level", .ofText? i.so2),
    ("no2_level", .ofText? i.no2), ("pm10_level", .ofText? i.pm10)]

end LiveIndex

/-- A value at a moment; the value may be absent. -/
structure Reading where
  date : Moment
  value : Option Float

namespace Reading

/-- Reads a reading from the pairs of an object. -/
def ofPairs (pairs : List (Text × Json)) : Checked Reading :=
  Reading.mk <$> Check.required "date" Check.moment pairs
    <*> Check.nullableField "value" Check.real pairs

/-- Reads a reading. -/
def ofJson : Json → Checked Reading := Check.record ofPairs

/-- The reading as a record. -/
def toJson (r : Reading) : Json :=
  .obj [("date", .ofMoment r.date), ("value", .ofFloat? r.value)]

end Reading

/-- A sensor of a station with its readings. -/
structure SensorSeries where
  sensorId : Int
  code : Text
  name : Text
  readings : List Reading

namespace SensorSeries

/-- Reads a sensor from the pairs of an object. -/
def ofPairs (pairs : List (Text × Json)) : Checked SensorSeries :=
  SensorSeries.mk <$> Check.required "sensor_id" Check.integer pairs
    <*> Check.required "param_code" Check.text pairs
    <*> Check.required "param_name" Check.text pairs
    <*> Check.optional "readings" [] (Check.list Reading.ofJson) pairs

/-- Reads a sensor. -/
def ofJson : Json → Checked SensorSeries := Check.record ofPairs

/-- The sensor as a record. -/
def toJson (s : SensorSeries) : Json :=
  .obj [("sensor_id", .ofInt s.sensorId), ("param_code", .str s.code), ("param_name", .str s.name),
    ("readings", .arr (s.readings.map Reading.toJson))]

end SensorSeries

/-- The latest dated value seen for every pollutant code so far. -/
abbrev Latest := List (Text × Moment × Float)

/-- The entry of a code. -/
def Latest.find? (latest : Latest) (code : Text) : Option (Moment × Float) :=
  (List.find? (fun e => e.1 == code) latest).map Prod.snd

/-- The entries with the one of a code replaced, or with a new one at the end. -/
def Latest.put (code : Text) (entry : Moment × Float) : Latest → Latest
  | [] => [(code, entry)]
  | (c, e) :: rest => if c = code then (c, entry) :: rest else (c, e) :: Latest.put code entry rest

/-- Takes a reading into account: it counts if it has a value and its date is strictly later than
the one kept for the code. -/
def Latest.add (code : Text) (latest : Latest) (r : Reading) : Except Fault Latest :=
  match r.value, latest.find? code with
  | none, _ => .ok latest
  | some x, none => .ok (latest.put code (r.date, x))
  | some x, some (date, _) => do
    let isLater ← orFault (date.lt? r.date) .wrongKind
    return if isLater then latest.put code (r.date, x) else latest

/-- The latest value of every pollutant code that has one, in the order in which the codes occur. -/
def latestValues (sensors : List SensorSeries) : Except Fault (List (Text × Float)) := do
  let latest ← sensors.foldlM (fun acc s => s.readings.foldlM (Latest.add s.code) acc) []
  return latest.map fun (code, _, x) => (code, x)

end AirQuality
