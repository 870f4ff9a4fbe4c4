import AirQuality.Measurement
import AirQuality.Number.Reader
import AirQuality.Number.Text

/-!
# Points of the database

The database keeps points: a time, the station as a tag, and named fields. A measurement is written
as one point; what it lacks, and numbers that are not finite, are not written at all. The time is
brought to UTC only when the point is written, so that a point may turn out to have no line.

* `Point.of`: the point of a measurement
* `Point.line`: a point in the line protocol, with its fields in the order of their names
-/

namespace AirQuality.TimeSeries

open Time (Moment)

/-- The name under which all points are kept. -/
def seriesName : String := "air_quality_measurements"

/-- The value of a field. -/
inductive FieldValue where
  | text (t : Text)
  | number (x : Float)

/-- A point. -/
structure Point where
  /-- The time, as the measurement has it. -/
  time : Moment
  stationId : Int
  fields : List (String × FieldValue)

namespace Point

/-- A field with a text, if there is one. -/
def textField (name : String) (t : Option Text) : Option (String × FieldValue) :=
  t.map fun t => (name, .text t)

/-- The field of a level, if it is known. -/
def levelField (m : Measurement) (l : LevelOf) : Option (String × FieldValue) :=
  textField l.fieldName ((m.levels.get l).map fun level => (level.name : Text))

/-- The field of a concentration, if there is a finite one. -/
def valueField (m : Measurement) (p : Pollutant) : Option (String × FieldValue) :=
  ((m.values.get p).filter Float.isFinite).map fun x => (p.fieldName, .number x)

/-- The fields of a measurement, in the order of their names. -/
def fieldsOf (m : Measurement) : List (String × FieldValue) :=
  [valueField m .co, textField "created_at" (some m.createdAt.isoText), levelField m .no2,
    valueField m .no2, valueField m .o3, levelField m .overall, levelField m .pm10,
    valueField m .pm10, levelField m .pm25, valueField m .pm25, textField "record_id" m.id,
    levelField m .so2, valueField m .so2, textField "station_name" m.stationName].filterMap id

/-- The point of a measurement. The tag is a text, which needs a numeral of the station. -/
def of (m : Measurement) : Except Fault Point :=
  if Number.hasNumeral m.stationId then .ok ⟨m.date, m.stationId, fieldsOf m⟩
  else .error .badValue

/-- Numbers in the line protocol: whole ones are written without a point. -/
def numberStyle : Number.FloatStyle := ⟨false, "nan", "inf", "-inf"⟩

/-- A character inside a text. -/
def escapeChar (c : Char) : List Char :=
  if c = '"' ∨ c.toNat = 0x5c then [Char.ofNat 0x5c, c] else [c]

/-- A value in the line protocol. -/
def valueText : FieldValue → Text
  | .text t => Text.ofString "\"" ++ t.substitute escapeChar ++ Text.ofString "\""
  | .number x => Number.floatText numberStyle x

/-- The nanoseconds since the beginning of 1970. A time without offset is taken as UTC. -/
def nanoseconds (p : Point) : Except Fault Int := do
  let utc ← orFault p.time.toUtc? .outOfRange
  return (utc.key - Time.epochMicros) * 1000

/-- The point in the line protocol. -/
def line (p : Point) : Except Fault Text := do
  let fields := p.fields.map fun (name, v) => Text.ofString (name ++ "=") ++ valueText v
  return Text.ofString (seriesName ++ ",station_id=" ++ toString p.stationId ++ " ") ++
    Text.joined "," fields ++ Text.ofString (" " ++ toString (← p.nanoseconds))

end Point

end AirQuality.TimeSeries
