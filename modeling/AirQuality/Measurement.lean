import AirQuality.Level
import AirQuality.Sensor

/-!
# Measurements

A measurement is the snapshot of a station that the history keeps: the levels of the live index and
the latest concentration of each pollutant.

* `Measurement.build`: from checked parts; the problems of all parts are listed in field order
* `Measurement.ofJson`: from a record
* `Measurement.ofLive`: from a live index and the latest values of the pollutant codes
-/

namespace AirQuality

open Time (Moment)

/-- The pollutants that a measurement has a concentration of. -/
inductive Pollutant where
  | pm10
  | pm25
  | so2
  | no2
  | co
  | o3
deriving Repr, DecidableEq

namespace Pollutant

/-- All pollutants, in the order of a measurement's fields. -/
def all : List Pollutant := [pm10, pm25, so2, no2, co, o3]

/-- The code that the feed gives to a pollutant. -/
def code : Pollutant → String
  | pm10 => "PM10"
  | pm25 => "PM2.5"
  | so2 => "SO2"
  | no2 => "NO2"
  | co => "CO"
  | o3 => "O3"

/-- The name of a pollutant's field in records. -/
def fieldName : Pollutant → String
  | pm10 => "pm10_value"
  | pm25 => "pm25_value"
  | so2 => "so2_value"
  | no2 => "no2_value"
  | co => "co_value"
  | o3 => "o3_value"

end Pollutant

/-- What a level of a measurement is about: the whole index, or one pollutant of it. -/
inductive LevelOf where
  | overall
  | so2
  | no2
  | pm10
  | pm25
deriving Repr, DecidableEq

namespace LevelOf

/-- All of them, in the order of a measurement's fields. -/
def all : List LevelOf := [overall, so2, no2, pm10, pm25]

/-- The name of a level's field in records. -/
def fieldName : LevelOf → String
  | overall => "overall_index_level"
  | so2 => "so2_index_level"
  | no2 => "no2_index_level"
  | pm10 => "pm10_index_level"
  | pm25 => "pm25_index_level"

end LevelOf

/-- The levels of a measurement. -/
structure Levels where
  overall : Option Level
  so2 : Option Level
  no2 : Option Level
  pm10 : Option Level
  pm25 : Option Level
deriving Repr, DecidableEq

/-- One of the levels. -/
def Levels.get (ls : Levels) : LevelOf → Option Level
  | .overall => ls.overall
  | .so2 => ls.so2
  | .no2 => ls.no2
  | .pm10 => ls.pm10
  | .pm25 => ls.pm25

/-- The concentrations of a measurement. -/
structure Concentrations where
  pm10 : Option Float
  pm25 : Option Float
  so2 : Option Float
  no2 : Option Float
  co : Option Float
  o3 : Option Float

/-- The concentration of a pollutant. -/
def Concentrations.get (cs : Concentrations) : Pollutant → Option Float
  | .pm10 => cs.pm10
  | .pm25 => cs.pm25
  | .so2 => cs.so2
  | .no2 => cs.no2
  | .co => cs.co
  | .o3 => cs.o3

/-- Checks a level for each thing that has one. -/
def Levels.check (level : LevelOf → Checked (Option Level)) : Checked Levels :=
  Levels.mk <$> level .overall <*> level .so2 <*> level .no2 <*> level .pm10 <*> level .pm25

/-- Checks a concentration for each pollutant. -/
def Concentrations.check (value : Pollutant → Checked (Option Float)) : Checked Concentrations :=
  Concentrations.mk <$> value .pm10 <*> value .pm25 <*> value .so2 <*> value .no2 <*> value .co
    <*> value .o3

/-- The snapshot of a station at a date. The identifier is assigned by the store. -/
structure Measurement where
  id : Option Text
  stationId : Int
  stationName : Option Text
  date : Moment
  levels : Levels
  values : Concentrations
  createdAt : Moment

namespace Measurement

/-- Puts a measurement together from checked parts. -/
def build (id : Checked (Option Text)) (stationId : Checked Int)
    (stationName : Checked (Option Text)) (date : Checked Moment)
    (level : LevelOf → Checked (Option Level)) (value : Pollutant → Checked (Option Float))
    (createdAt : Checked Moment) : Checked Measurement :=
  Measurement.mk <$> id <*> stationId <*> stationName <*> date <*> Levels.check level
    <*> Concentrations.check value <*> createdAt

/-- Reads a measurement from the pairs of an object; it is created now unless it says otherwise. -/
def ofPairs (now : Moment) (pairs : List (Text × Json)) : Checked Measurement :=
  build (Check.nullableField "id" Check.text pairs)
    (Check.required "station_id" Check.integer pairs)
    (Check.nullableField "station_name" Check.text pairs)
    (Check.required "measurement_date" Check.moment pairs)
    (fun l => Check.nullableField l.fieldName Level.check pairs)
    (fun p => Check.nullableField p.fieldName Check.real pairs)
    (Check.optional "created_at" now Check.moment pairs)

/-- Reads a measurement. -/
def ofJson (now : Moment) : Json → Checked Measurement := Check.record (ofPairs now)

/-- Reads several measurements, up to the first one that is not valid. -/
def ofJsons (now : Moment) (vs : List Json) : Except Fault (List Measurement) :=
  vs.mapM fun v => (ofJson now v).orFault

/-- The level that a label stands for, if there is one. -/
def levelOfLabel? (label : Option Text) : Option Level :=
  (label.bind Text.string?).bind Level.ofLabel?

/-- The levels that the labels of a live index stand for. The fine dust PM2.5 has none. -/
def levelOfIndex (i : LiveIndex) : LevelOf → Option Level
  | .overall => levelOfLabel? i.overall
  | .so2 => levelOfLabel? i.so2
  | .no2 => levelOfLabel? i.no2
  | .pm10 => levelOfLabel? i.pm10
  | .pm25 => none

/-- The levels of a live index. -/
def levelsOfIndex (i : LiveIndex) : Levels :=
  ⟨levelOfIndex i .overall, levelOfIndex i .so2, levelOfIndex i .no2, levelOfIndex i .pm10,
    levelOfIndex i .pm25⟩

/-- The concentrations among some values by pollutant code. -/
def valuesOfCodes (values : List (Text × Float)) : Concentrations :=
  let get (p : Pollutant) := (values.find? fun e => e.1 == (p.code : Text)).map Prod.snd
  ⟨get .pm10, get .pm25, get .so2, get .no2, get .co, get .o3⟩

/-- The snapshot of a station with a live index and the latest values by pollutant code. -/
def ofLive (now : Moment) (stationId : Int) (stationName : Option Text) (index : LiveIndex)
    (values : List (Text × Float)) : Measurement :=
  { id := none
    stationId := stationId
    stationName := stationName
    date := index.calculationDate
    levels := levelsOfIndex index
    values := valuesOfCodes values
    createdAt := now }

/-- As `ofLive`, with parts that have yet to be checked. -/
def ofLoose (now : Moment) (stationId stationName : Json) (index : LiveIndex)
    (values : List (Text × Json)) : Checked Measurement :=
  build (.valid none) ((Check.integer stationId).within (.field "station_id"))
    ((Check.nullable Check.text stationName).within (.field "station_name"))
    (.valid index.calculationDate) (fun l => .valid (levelOfIndex index l))
    (fun p => (Check.nullable Check.real ((Json.lookup? p.code values).getD .null)).within
      (.field p.fieldName))
    (.valid now)

/-- Whether the overall level is known and good. -/
def hasGoodAirQuality (m : Measurement) : Bool := m.levels.overall.any Level.isGood

/-- The measurement as pairs of a record. -/
def toPairs (m : Measurement) : List (Text × Json) :=
  let head : List (Text × Json) :=
    [("id", .ofText? m.id), ("station_id", .ofInt m.stationId),
      ("station_name", .ofText? m.stationName), ("measurement_date", .ofMoment m.date)]
  let levels : List (Text × Json) :=
    LevelOf.all.map fun l => (l.fieldName, Level.toJson? (m.levels.get l))
  let values : List (Text × Json) :=
    Pollutant.all.map fun p => (p.fieldName, .ofFloat? (m.values.get p))
  let last : Text × Json := ("created_at", .ofMoment m.createdAt)
  head ++ levels ++ values ++ [last]

/-- The measurement as a record. -/
def toJson (m : Measurement) : Json := .obj m.toPairs

end Measurement

end AirQuality
