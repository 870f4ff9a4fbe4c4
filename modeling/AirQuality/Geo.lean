import AirQuality.Station

/-!
# Distances on the globe

The great-circle distance between two points given in degrees, by the haversine formula. The formula
uses four functions of a mathematical library.

* `distanceBy`: the distance in kilometres with some library; it fails for infinite coordinates, and
  for some that lie beyond the poles
* `distanceKm`: the distance with the library of the platform
* `StationDistance.of`: a station with its distance from a point, which must not be negative
-/

namespace AirQuality

/-- The radius of the earth in kilometres. -/
def earthRadiusKm : Float := 6371.0

/-- The ratio of a circle's circumference to its diameter. -/
def pi : Float := 3.141592653589793

/-- Degrees as radians. -/
def radians (degrees : Float) : Float := degrees * (pi / 180.0)

/-- The functions of a mathematical library that are used for distances. -/
structure Elementary where
  sin : Float → Float
  cos : Float → Float
  pow : Float → Float → Float
  atan2 : Float → Float → Float

namespace Elementary

/-- The library of the platform. -/
def platform : Elementary := ⟨Float.sin, Float.cos, Float.pow, Float.atan2⟩

/-- The sine of a finite angle. -/
def sine (f : Elementary) (x : Float) : Except Fault Float :=
  if x.isInf then .error .badValue else .ok (f.sin x)

/-- The cosine of a finite angle. -/
def cosine (f : Elementary) (x : Float) : Except Fault Float :=
  if x.isInf then .error .badValue else .ok (f.cos x)

/-- The square of a number. -/
def square (f : Elementary) (x : Float) : Float := f.pow x 2.0

end Elementary

/-- The square root of a number that is not negative. -/
def squareRoot (x : Float) : Except Fault Float :=
  if x < 0.0 then .error .badValue else .ok x.sqrt

/-- The difference of two coordinates in radians. -/
def angleBetween (a b : Number) : Except Fault Float := do
  let d ← orFault (Number.sub? b a) .outOfRange
  return radians (← orFault d.toFloat? .outOfRange)

/-- A coordinate in radians. -/
def angle (a : Number) : Except Fault Float := do
  return radians (← orFault a.toFloat? .outOfRange)

/-- The great-circle distance between two points in kilometres. -/
def distanceBy (f : Elementary) (lat₁ lon₁ lat₂ lon₂ : Number) : Except Fault Float := do
  let dLat ← angleBetween lat₁ lat₂
  let dLon ← angleBetween lon₁ lon₂
  let sinLat ← f.sine (dLat / 2.0)
  let cos₁ ← f.cosine (← angle lat₁)
  let cos₂ ← f.cosine (← angle lat₂)
  let sinLon ← f.sine (dLon / 2.0)
  let a := f.square sinLat + cos₁ * cos₂ * f.square sinLon
  let rest := 1.0 - a
  -- Beyond the poles rounding can push the sum below zero, where it has no root.
  let sinHalf ← squareRoot a
  let cosHalf ← squareRoot (if 0.0 < rest then rest else 0.0)
  return earthRadiusKm * (2.0 * f.atan2 sinHalf cosHalf)

/-- The great-circle distance with the library of the platform. -/
def distanceKm (lat₁ lon₁ lat₂ lon₂ : Number) : Except Fault Float :=
  distanceBy .platform lat₁ lon₁ lat₂ lon₂

/-- A station and its distance from a point. -/
structure StationDistance where
  station : Station
  km : Float
deriving DecidableEq

namespace StationDistance

/-- Whether a distance is possible: not negative, and a number at all. -/
def isPossible (km : Float) : Bool := 0.0 ≤ km

/-- A station with its distance, which has to be possible. -/
def of (station : Station) (km : Float) : Checked StationDistance :=
  if isPossible km then .valid ⟨station, km⟩
  else .invalid [⟨[.field "distance_km"], .tooSmall⟩]

/-- Reads a station with its distance from the pairs of an object. -/
def ofPairs (pairs : List (Text × Json)) : Checked StationDistance :=
  StationDistance.mk <$> Check.required "station" Station.ofJson pairs
    <*> Check.required "distance_km" (Check.atLeast isPossible Check.real) pairs

/-- Reads a station with its distance. -/
def ofJson : Json → Checked StationDistance := Check.record ofPairs

/-- The station with its distance as a record. -/
def toJson (d : StationDistance) : Json :=
  .obj [("station", d.station.toJson), ("distance_km", .ofFloat d.km)]

end StationDistance

end AirQuality
