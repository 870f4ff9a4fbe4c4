import AirQuality.Record.Check

/-!
# Stations

A monitoring station with its place.
-/

namespace AirQuality

/-- A monitoring station. -/
structure Station where
  id : Int
  name : Option Text
  city : Text
  address : Option Text
  latitude : Float
  longitude : Float
deriving DecidableEq

namespace Station

/-- Reads a station from the pairs of an object. -/
def ofPairs (pairs : List (Text × Json)) : Checked Station :=
  Station.mk <$> Check.required "id" Check.integer pairs
    <*> Check.nullableField "name" Check.text pairs
    <*> Check.optional "city" "" Check.text pairs
    <*> Check.nullableField "address" Check.text pairs
    <*> Check.optional "latitude" 0.0 Check.real pairs
    <*> Check.optional "longitude" 0.0 Check.real pairs

/-- Reads a station. -/
def ofJson : Json → Checked Station := Check.record ofPairs

/-- The station as a record. -/
def toJson (s : Station) : Json :=
  .obj [("id", .ofInt s.id), ("name", .ofText? s.name), ("city", .str s.city),
    ("address", .ofText? s.address), ("latitude", .ofFloat s.latitude),
    ("longitude", .ofFloat s.longitude)]

end Station

end AirQuality
