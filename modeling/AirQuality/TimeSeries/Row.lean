import AirQuality.Journal
import AirQuality.Json.Shown
import AirQuality.Measurement
import AirQuality.Time.Feed

/-!
# Rows of the database

The database answers with tables of rows: a time, and a value for each column that a point has. A
row is read back as a measurement; a level that is not known is warned about and left out.

* `Row.measurement`: the measurement of a row
-/

namespace AirQuality.TimeSeries

open Time (Moment)

/-- A row. -/
structure Row where
  time : Option Moment
  columns : List (Text × Json)

/-- The rows that come together. -/
abbrev Table := List Row

namespace Row

/-- The value of a column; null if there is none. -/
def value (r : Row) (column : String) : Json := (Json.lookup? column r.columns).getD .null

/-- The number of a station. A fraction is cut off. -/
def integer : Json → Except Fault Int
  | .str t => orFault (t.string?.bind Number.integer?) .badValue
  | .bool b => .ok (if b then 1 else 0)
  | .num (.int n) => .ok n
  | .num (.float x) =>
    match Number.truncate? (.float x) with
    | some n => .ok n
    | none => .error (if x.isNaN then .badValue else .outOfRange)
  | _ => .error .wrongKind

/-- The station of a row. -/
def stationId (r : Row) : Except Fault Int := do
  integer (← orFault (Json.lookup? "station_id" r.columns) .missingKey)

/-- The level that a value names. -/
def level (v : Json) : Ask (Option Level) :=
  match v with
  | .null => return none
  | .arr _ | .obj _ => Ask.ofExcept (.error .wrongKind)
  | v =>
    match (match v with | .str t => t.string?.bind Level.ofName? | _ => none) with
    | some l => return some l
    | none => do
      Ask.ofTraced (Traced.warning ("Unknown air quality level from database: " ++ v.asText.lossy))
      return none

/-- The levels of a row. -/
def levels (r : Row) : Ask Levels := do
  let level (l : LevelOf) := level (r.value l.fieldName)
  return ⟨← level .overall, ← level .so2, ← level .no2, ← level .pm10, ← level .pm25⟩

/-- Whether a value says nothing: null, false, zero, or something empty. -/
def saysNothing : Json → Bool
  | .null => true
  | .bool b => !b
  | .num (.int n) => n == 0
  | .num (.float x) => x == 0.0
  | .str t => t.isEmpty
  | .arr items => items.isEmpty
  | .obj pairs => pairs.isEmpty

/-- When a measurement was created: the time of its row unless the row says otherwise. -/
def createdAt (time : Moment) (v : Json) : Except Fault Moment :=
  if saysNothing v then .ok time
  else
    match v with
    | .str t => orFault (Time.Iso.moment? t) .badValue
    | _ => .error .wrongKind

/-- The measurement of a row. -/
def measurement (r : Row) : Ask Measurement := do
  let stationId ← Ask.ofExcept r.stationId
  let time ← Ask.ofExcept (orFault r.time .missingKey)
  let levels ← r.levels
  let createdAt ← Ask.ofExcept (createdAt time (r.value "created_at"))
  let text (name column : String) :=
    (Check.nullable Check.text (r.value column)).within (.field name)
  Ask.ofExcept (Measurement.build (text "id" "record_id") (.valid stationId)
    (text "station_name" "station_name") (.valid time) (fun l => .valid (levels.get l))
    (fun p => (Check.nullable Check.real (r.value p.fieldName)).within (.field p.fieldName))
    (.valid createdAt)).orFault

end Row

end AirQuality.TimeSeries
