import AirQuality.Geo
import AirQuality.Store.Basic
import AirQuality.Time.Range
import AirQuality.Feed.Client

/-!
# Enquiries

Questions about stations: live ones to the provider, and others to the history. Counts of days,
limits of rankings and radii are brought into their ranges and never refused.

* `Enquiry.window`: the days up to now
* `Enquiry.history`, `Enquiry.statistics`, `Enquiry.ranking`: questions about a window
* `Enquiry.nearestBy`, `Enquiry.nearest`: the stations around a point, nearest first
-/

namespace AirQuality

open Time (Moment Bound DateRange)

/-- What enquiries are answered from. -/
structure Enquiry (σ : Type) where
  provider : Feed.Provider
  store : Store σ
  clock : Moment

namespace Enquiry

variable {σ : Type}

/-- The days that a window may have. -/
def clampDays (days : Number) : Number := Number.clamp days (.int 1) (.int 90)

/-- The entries that a ranking may have. -/
def clampLimit (limit : Number) : Number := Number.clamp limit (.int 5) (.int 50)

/-- The kilometres that a search may reach. -/
def clampRadius (radius : Number) : Number := Number.clamp radius (.float 1.0) (.float 100.0)

/-- The integer part of a number that has one. -/
def whole (n : Number) : Except Fault Int := orFault n.truncate? .badValue

/-- The window of some days up to now. -/
def window (e : Enquiry σ) (days : Number) : Except Fault (Moment × Moment) := do
  let n ← whole (clampDays days)
  let start ← orFault (e.clock.shift? (-(n * Time.dayMicros))) .outOfRange
  return (start, e.clock)

/-- All stations. -/
def stations (e : Enquiry σ) : Act σ (List Station) := Act.ofAsk e.provider.stations

/-- The live index of a station. -/
def index (e : Enquiry σ) (id : Int) : Act σ (Option LiveIndex) := do
  Act.info ("Fetching current air quality for station " ++ toString id)
  Act.ofAsk (e.provider.index id)

/-- The sensors of a station with their readings, if there are any. -/
def sensors (e : Enquiry σ) (id : Int) : Act σ (Option (List SensorSeries)) := do
  let found ← Act.ofAsk (e.provider.measurements id)
  return if found.isEmpty then none else some found

/-- The latest measurement of a station in the history. -/
def latest (e : Enquiry σ) (id : Int) : Act σ (Option Measurement) := e.store.latest id

/-- The measurements of a station in the window of some days, oldest first. -/
def history (e : Enquiry σ) (id : Int) (days : Number) : Act σ (List Measurement) := do
  let (start, stop) ← Act.ofExcept (e.window days)
  Act.info ("Fetching history for station " ++ toString id ++ " from " ++ start.spacedText ++
    " to " ++ stop.spacedText)
  e.store.ofStation id start stop

/-- The measurements of all stations in a range, newest first. -/
def between (e : Enquiry σ) (start stop : Bound) : Act σ (List Measurement) := do
  let range ← Act.ofExcept (DateRange.read start stop)
  e.store.between range.start range.stop

/-- The statistics of a station in the window of some days. -/
def statistics (e : Enquiry σ) (id : Int) (days : Number) : Act σ (Option Statistics) := do
  let (start, stop) ← Act.ofExcept (e.window days)
  e.store.statistics id start stop

/-- The ranking of the stations in the window of some days. -/
def ranking (e : Enquiry σ) (days limit : Number) : Act σ (List RankEntry) := do
  let (start, stop) ← Act.ofExcept (e.window days)
  let limit ← Act.ofExcept (whole (clampLimit limit))
  e.store.ranking start stop limit

/-- A station with its distance from a point. Coordinates that are no numbers have no distance. -/
def measured (f : Elementary) (lat lon : Option Number) (s : Station) :
    Except Fault StationDistance := do
  let lat ← orFault lat .wrongKind
  let lon ← orFault lon .wrongKind
  let km ← distanceBy f lat lon (.float s.latitude) (.float s.longitude)
  (StationDistance.of s km).orFault

/-- Whether a station is not farther away than a radius. -/
def isWithin (radius : Number) (d : StationDistance) : Bool := (Number.float d.km).le radius

/-- Of some stations with their distances the ones within a radius, nearest first; stations at the
same distance keep their order. -/
def nearestOf (radius : Number) (ds : List StationDistance) : List StationDistance :=
  (ds.filter (isWithin radius)).mergeSort fun a b => a.km ≤ b.km

/-- The stations within a radius of a point, nearest first; distances come from a mathematical
library. -/
def nearestBy (f : Elementary) (e : Enquiry σ) (lat lon : Option Number) (radius : Number) :
    Act σ (List StationDistance) := do
  let stations ← Act.ofAsk e.provider.stations
  if stations.isEmpty then
    Act.fail (.feedUnavailable (some "Station list is not available"))
  else
    let ds ← Act.ofExcept (stations.mapM (measured f lat lon))
    return nearestOf (clampRadius radius) ds

/-- The stations within a radius of a point, with the library of the platform. -/
def nearest (e : Enquiry σ) (lat lon : Option Number) (radius : Number) :
    Act σ (List StationDistance) :=
  nearestBy .platform e lat lon radius

end Enquiry

end AirQuality
