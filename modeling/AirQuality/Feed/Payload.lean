import AirQuality.Json.Search
import AirQuality.Record.Check
import AirQuality.Feed.Lenient

/-!
# Payloads of the feed

The feed has changed the names of its fields and has them in Polish and English. For each field
the known spellings are listed in the order in which they are tried; the first one that is present
counts, whatever its value is. The lists and objects of an answer are found under any of several
keys, at any depth.

* `ContainerKeys`: the keys of the lists and objects
* `ListedStation`, `ListedIndex`, `ListedSensor`, `ListedValue`: what the feed lists
-/

namespace AirQuality.Feed

/-- The keys under which the lists and objects of answers are found, in the order of trial. -/
structure ContainerKeys where
  stations : List Text
  index : List Text
  sensors : List Text
  readings : List Text

/-- The keys that the feed is known to use. -/
def ContainerKeys.known : ContainerKeys :=
  { stations := ["Lista stacji pomiarowych", "lista", "list", "data"]
    index := ["AqIndex", "Indeks jakości powietrza"]
    sensors := ["Lista stanowisk pomiarowych dla podanej stacji", "Lista stanowisk pomiarowych",
      "Lista stanowisk"]
    readings := ["Lista danych pomiarowych", "values", "Dane pomiarowe", "lista", "data"] }

/-- A spelling of a field: a key, or a key inside the object under another key. -/
inductive Spelling where
  | key (name : String)
  | nested (outer inner : String)
deriving Repr, DecidableEq

/-- The value under a spelling. -/
def Spelling.find? (pairs : List (Text × Json)) : Spelling → Option Json
  | .key name => Json.lookup? name pairs
  | .nested outer inner => (Json.lookup? outer pairs).bind (Json.get? inner)

/-- What a reader makes of the value under the first of several spellings that is present. -/
def field? {α : Type} (pairs : List (Text × Json)) (spellings : List Spelling)
    (read : Json → Option α) : Option α :=
  (spellings.findSome? (Spelling.find? pairs)).bind read

/-- The label of a level, which may be the name inside an object. -/
def label? : Json → Option Text
  | .obj pairs => (Json.lookup? "indexLevelName" pairs).bind text?
  | v => text? v

/-- A station as the feed lists it. -/
structure ListedStation where
  id : Option Int
  name : Option Text
  latitude : Json
  longitude : Json
  city : Option Text
  street : Option Text

/-- Reads a listed station. -/
def ListedStation.ofJson : Json → Checked ListedStation := Check.record fun pairs => .valid
  { id := field? pairs [.key "id", .key "Identyfikator stacji"] integer?
    name := field? pairs [.key "stationName", .key "Nazwa stacji"] text?
    latitude := (field? pairs [.key "gegrLat", .key "WGS84 φ N"] some).getD .null
    longitude := (field? pairs [.key "gegrLon", .key "WGS84 λ E"] some).getD .null
    city := field? pairs [.key "cityName", .key "Nazwa miasta", .nested "city" "name"] text?
    street := field? pairs [.key "addressStreet", .key "Ulica"] text? }

/-- The index of a station as the feed publishes it. -/
structure ListedIndex where
  id : Option Int
  calculationDate : Option Text
  overall : Option Text
  so2 : Option Text
  no2 : Option Text
  pm10 : Option Text

/-- Reads a published index. -/
def ListedIndex.ofJson : Json → Checked ListedIndex := Check.record fun pairs => .valid
  { id := field? pairs [.key "id", .key "Identyfikator stacji pomiarowej"] integer?
    calculationDate := field? pairs
      [.key "stCalcDate", .key "Data obliczenia", .key "Data wykonania obliczeń indeksu"] text?
    overall := field? pairs
      [.key "stIndexLevel", .key "Indeks ogólny", .key "Nazwa kategorii indeksu"] label?
    so2 := field? pairs [.key "so2IndexLevel", .key "Indeks SO2",
      .key "Nazwa kategorii indeksu dla wskażnika SO2"] label?
    no2 := field? pairs [.key "no2IndexLevel", .key "Indeks NO2",
      .key "Nazwa kategorii indeksu dla wskażnika NO2"] label?
    pm10 := field? pairs [.key "pm10IndexLevel", .key "Indeks PM10",
      .key "Nazwa kategorii indeksu dla wskażnika PM10"] label? }

/-- A sensor as the feed lists it. -/
structure ListedSensor where
  id : Option Int
  code : Option Text
  name : Option Text

/-- Reads a listed sensor. -/
def ListedSensor.ofJson : Json → Checked ListedSensor := Check.record fun pairs => .valid
  { id := field? pairs [.key "Identyfikator stanowiska", .key "id", .key "Identyfikator"] integer?
    code := field? pairs [.key "Wskaźnik - kod", .key "paramCode", .key "Kod wskaźnika",
      .nested "param" "paramCode"] text?
    name := field? pairs [.key "Wskaźnik", .key "Nazwa parametru", .key "paramName",
      .key "Wskaźnik - nazwa", .nested "param" "paramName"] text? }

/-- A value of a sensor as the feed lists it. -/
structure ListedValue where
  date : Option Text
  value : Option Float

/-- Reads a listed value. -/
def ListedValue.ofJson : Json → Checked ListedValue := Check.record fun pairs => .valid
  { date := field? pairs [.key "data", .key "date", .key "Data"] text?
    value := field? pairs [.key "wartość", .key "value", .key "Wartość"] float? }

end AirQuality.Feed
