import AirQuality.TimeSeries.Point
import AirQuality.TimeSeries.Row

/-!
# Points as rows

The database answers a selection with a row for each point: its time at UTC, the tag as a text, and a
column for each field.

* `Row.ofPoint`: the row of a point
-/

namespace AirQuality.TimeSeries

/-- The value of a field in a row. -/
def FieldValue.toJson : FieldValue → Json
  | .text t => .str t
  | .number x => .ofFloat x

/-- The row of a point. -/
def Row.ofPoint (p : Point) : Row :=
  ⟨p.time.toUtc?, ("station_id", .str (toString p.stationId)) ::
    p.fields.map fun (name, v) => (name, v.toJson)⟩

end AirQuality.TimeSeries
