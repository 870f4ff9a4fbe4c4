import AirQuality.Journal
import AirQuality.Json.Reader
import AirQuality.Json.Search
import AirQuality.Sensor
import AirQuality.Station
import AirQuality.Text.Blank
import AirQuality.Text.Utf8
import AirQuality.Time.Feed
import AirQuality.Feed.Payload

/-!
# The client of the feed

Questions to the feed: the list of stations, the live index of a station, and the sensors
of a station with their readings. What goes wrong on the way is a fault at first; faults are caught
in several places, each for the kinds that it knows of, and there they are logged and the answer is
empty instead.

An answer is followed level by level three times: when it is decoded, when it is traced, and when it
is searched for a key. How deep each of these goes depends on the runtime, and what is nested deeper
is a fault.

* `Stack`: how deep the runtime follows an answer
* `Client.json`: the JSON value at a path, or why there is none
* `Client.find`: the value under a key in an answer
* `Client.stations`, `Client.index`, `Client.measurements`: the questions
* `Client.provider`: the client as a provider
-/

namespace AirQuality.Feed

open Time (Moment)

/-- What comes back for a request. -/
inductive Response where
  | answer (status : Int) (body : List UInt8)
  /-- The connection broke or timed out, with a text. -/
  | broken (text : String)
  /-- The address cannot be requested at all. -/
  | badAddress
  /-- Something else failed. -/
  | failed (fault : Fault)

/-- How deep the runtime follows an answer level by level. -/
structure Stack where
  /-- The levels of nesting that are decoded. -/
  decoder : Nat
  /-- How many values inside one another are written to the trace; `none` if nothing is traced. -/
  trace : Option Nat
  /-- How many calls inside one another the search for a key has room for. -/
  search : Nat

/-- A client of the feed. -/
structure Client where
  baseUrl : String
  /-- The zone of the feed's clock, if its name is known. -/
  zone : Option Time.Zone
  keys : ContainerKeys
  clock : Moment
  stack : Stack
  /-- What comes back for a path. -/
  fetch : String → Response

/-- A code of a sensor that has none. -/
def unknownCode : Text := "N/A"

/-- A name of a sensor that has none. -/
def unknownName : Text := "Unknown parameter"

/-- Whether a byte is a blank of ASCII. -/
def isBlankByte (b : UInt8) : Bool := b == 0x20 || (0x09 ≤ b && b ≤ 0x0d)

/-- The JSON value of a body with at most so many levels of nesting; an empty one is null. -/
def decodeBody (levels : Nat) (bytes : List UInt8) : Except Fault Json :=
  let bytes := Text.stripBy isBlankByte bytes
  if bytes.isEmpty then .ok .null
  else
    match (Text.decode? bytes).map (Json.readWithin levels) with
    | some (.ok v) => .ok v
    | some (.error .tooDeep) => .error .tooDeep
    | _ => .error (.feedUnavailable none)

/-- The JSON value of a response to a request for a path, with at most so many levels of nesting. -/
def Response.json (levels : Nat) (path : String) : Response → Except Fault Json
  | .answer status body =>
    if status = 200 then decodeBody levels body
    else .error (.feedUnavailable (some ("GET " ++ path ++ ": HTTP " ++ toString status)))
  | .broken text => .error (.feedUnavailable (some ("GET " ++ path ++ ": " ++ text)))
  | .badAddress => .error (.feedUnavailable none)
  | .failed fault => .error fault

/-- Any fault, of whatever kind. -/
def anyFault (_ : Fault) : Bool := true

/-- The faults of a value that does not fit what it is to be turned into. -/
def isMisfit : Fault → Bool
  | .invalid _ => true
  | .wrongKind => true
  | _ => false

namespace Client

/-- The address of a path. -/
def url (c : Client) (path : String) : String := Text.trimSlashes c.baseUrl ++ path

/-- Requests a path and decodes what comes back. -/
def json (c : Client) (path : String) : Ask Json := do
  Ask.ofTraced (Traced.event (.requested (c.url path)))
  Ask.ofExcept ((c.fetch path).json c.stack.decoder path)

/-- Traces an answer, if answers are traced. -/
def trace (c : Client) (root : Json) : Except Fault Unit :=
  if c.stack.trace.all (root.height ≤ ·) then .ok () else .error .tooDeep

/-- The value under the first known key in an answer, which is traced first. -/
def find (c : Client) (keys : List Text) (root : Json) : Except Fault (Option Json) := do
  c.trace root
  Json.findFirstKeyWithin c.stack.search keys root

/-- The path of the list of stations. -/
def stationsPath : String := "/station/findAll"

/-- The path of a station's index. -/
def indexPath (stationId : Int) : String := "/aqindex/getIndex/" ++ toString stationId

/-- The path of a station's sensors. -/
def sensorsPath (stationId : Int) : String := "/station/sensors/" ++ toString stationId

/-- The path of a sensor's data. -/
def dataPath (sensorId : Int) : String := "/data/getData/" ++ toString sensorId

/-- The station that is listed. Without a usable identifier it is number 0. -/
def stationOf (l : ListedStation) : Station :=
  { id := l.id.getD 0
    name := l.name
    city := l.city.getD ""
    address := l.street
    latitude := coordinate l.latitude
    longitude := coordinate l.longitude }

/-- The items of the list of stations in an answer: the first known list in it, or the answer itself
if there is none and it is a list. -/
def stationItems? (c : Client) (root : Json) : Except Fault (Option (List Json)) := do
  match ← c.find c.keys.stations root, root with
  | some (.arr items), _ => return some items
  | some _, _ => return none
  | none, .arr items => return some items
  | none, _ => return none

/-- The station of an item of the list. -/
def stationIn (item : Json) : Except Fault Station := do
  return stationOf (← (ListedStation.ofJson item).orFault)

/-- The stations of an answer. One item that is no station spoils the list. -/
def stationsOf (c : Client) (root : Json) : Ask (List Station) := do
  -- The search for the list stands outside of all handlers.
  match ← Ask.ofExcept (c.stationItems? root) with
  | none => do
    Ask.ofTraced (Traced.warning "Stations list not found in GIOŚ response")
    return []
  | some items =>
    Ask.catching isMisfit (Ask.ofExcept (items.mapM stationIn))
      (Ask.reporting "Error mapping stations" [])

/-- All stations. What goes wrong after an answer has come is caught by `stationsOf` only, and there
only as far as it is a misfit of an item. -/
def stations (c : Client) : Ask (List Station) := do
  let answer ← Ask.catching anyFault (some <$> c.json stationsPath)
    (Ask.reporting "Error fetching stations" none)
  match answer with
  | some root => c.stationsOf root
  | none => return []

/-- The live index that is published; a missing date of calculation is that of the clock. -/
def indexOf (c : Client) (stationId : Int) (l : ListedIndex) : Except Fault LiveIndex := do
  let date ← match l.calculationDate with
    | some s => if s.isEmpty then pure c.clock else Time.readFeed s c.zone
    | none => pure c.clock
  return ⟨stationId, date, l.overall, l.so2, l.no2, l.pm10⟩

/-- The live index in an answer: the first known object in it, or the answer itself; of a list its
first item. An index without a usable identifier stands for none. -/
def indexIn (c : Client) (stationId : Int) (root : Json) : Except Fault (Option LiveIndex) := do
  let node := (← c.find c.keys.index root).getD root
  let some node := (match node with
    | .arr items => items.head?
    | v => some v) | return none
  let listed ← (ListedIndex.ofJson node).orFault
  -- An object full of nulls stands for an index that does not exist.
  if listed.id.isNone then return none
  return some (← c.indexOf stationId listed)

/-- The live index of a station, if there is one. -/
def index (c : Client) (stationId : Int) : Ask (Option LiveIndex) :=
  Ask.catching anyFault
    (do
      let root ← c.json (indexPath stationId)
      Ask.ofExcept (c.indexIn stationId root))
    (Ask.reporting ("Error parsing air quality index for station " ++ toString stationId) none)

/-- The sensors in an answer: the first known list in it, or the answer itself. -/
def sensorsIn (c : Client) (root : Json) : Except Fault (List ListedSensor) := do
  match (← c.find c.keys.sensors root).getD root with
  | .arr items => items.mapM fun item => (ListedSensor.ofJson item).orFault
  | _ => return []

/-- The sensors that are listed for a station. -/
def sensors (c : Client) (stationId : Int) : Ask (List ListedSensor) :=
  Ask.catching anyFault
    (do
      let root ← c.json (sensorsPath stationId)
      Ask.ofExcept (c.sensorsIn root))
    (Ask.reporting ("Error fetching sensors for station " ++ toString stationId) [])

/-- The reading of a listed value. A value that is absent, or that is not an object, or whose date
cannot be read, gives none; a date beyond the calendar or an unknown zone is a fault. -/
def readingOf? (c : Client) (entry : Json) : Except Fault (Option Reading) :=
  match ListedValue.ofJson entry with
  | .invalid _ => .ok none
  | .valid ⟨some date, some x⟩ =>
    match Time.readFeed date c.zone with
    | .ok m => .ok (some ⟨m, some x⟩)
    | .error .badValue => .ok none
    | .error fault => .error fault
  | .valid _ => .ok none

/-- The readings in an answer: those of the first known list in it. -/
def readingsIn (c : Client) (root : Json) : Except Fault (List Reading) := do
  match ← c.find c.keys.readings root with
  | some (.arr items) => return (← items.mapM c.readingOf?).filterMap id
  | _ => return []

/-- The readings of a sensor. -/
def readings (c : Client) (sensorId : Int) : Ask (List Reading) :=
  Ask.catching anyFault
    (do
      let root ← c.json (dataPath sensorId)
      Ask.ofExcept (c.readingsIn root))
    (Ask.reporting ("Error fetching data for sensor " ++ toString sensorId) [])

/-- A text that says something, or a placeholder. -/
def orPlaceholder (placeholder : Text) : Option Text → Text
  | some s => if s.isEmpty then placeholder else s
  | none => placeholder

/-- A listed sensor with its readings, if it has a usable identifier. -/
def seriesOf? (c : Client) (l : ListedSensor) : Ask (Option SensorSeries) :=
  match l.id with
  | none => return none
  | some id => do
    let readings ← c.readings id
    return some ⟨id, orPlaceholder unknownCode l.code, orPlaceholder unknownName l.name, readings⟩

/-- The sensors of a station with their readings. -/
def measurements (c : Client) (stationId : Int) : Ask (List SensorSeries) :=
  Ask.catching anyFault
    (do
      let listed ← c.sensors stationId
      return (← listed.mapM c.seriesOf?).filterMap id)
    (Ask.reporting ("Error fetching measurements for station " ++ toString stationId) [])

end Client

/-- Where stations, indexes and readings come from; any question may fail. -/
structure Provider where
  stations : Ask (List Station)
  index : Int → Ask (Option LiveIndex)
  measurements : Int → Ask (List SensorSeries)

/-- A question about a station. The number of the station is written in the path, and in the line
about what went wrong as well, so that without a numeral there is no answer. -/
def Client.about {α : Type} (stationId : Int) (ask : Ask α) : Ask α :=
  if Number.hasNumeral stationId then ask else Ask.ofExcept (.error .badValue)

/-- The client as a provider. -/
def Client.provider (c : Client) : Provider where
  stations := c.stations
  index id := Client.about id (c.index id)
  measurements id := Client.about id (c.measurements id)

end AirQuality.Feed
