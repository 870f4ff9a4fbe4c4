import AirQuality.Order.Sort
import AirQuality.Station
import AirQuality.Statistics

/-!
# Ranking of stations

Stations are ranked from the cleanest to the dirtiest by their averages of PM10 and then of PM2.5 in
a window; a missing average comes after every present one, and a station with neither is left out.
Equal stations share a rank and keep the order in which they occur, and the next rank follows
without a gap.

* `Window.collect`: what is known of each station, in order of first occurrence
* `AverageKey.lt`: the order
* `rank`: the whole ranking; `rankUpTo`: its first entries
-/

namespace AirQuality

/-- What is known of a station in a window. -/
structure Window where
  stationId : Int
  stationName : Option Text
  pm10 : List Float
  pm25 : List Float
  /-- The first level that occurs, not the most common one. -/
  level : Option Level
  count : Nat

namespace Window

/-- Nothing but the station of a measurement. -/
def start (m : Measurement) : Window := ⟨m.stationId, m.stationName, [], [], none, 0⟩

/-- Takes a measurement into account. -/
def add (w : Window) (m : Measurement) : Window :=
  { w with
    pm10 := w.pm10 ++ m.values.pm10.toList
    pm25 := w.pm25 ++ m.values.pm25.toList
    level := w.level.or m.levels.overall
    count := w.count + 1 }

/-- Takes a measurement into account among the windows of all stations. -/
def addTo (m : Measurement) : List Window → List Window
  | [] => [(start m).add m]
  | w :: ws => if w.stationId = m.stationId then w.add m :: ws else w :: addTo m ws

/-- The windows of all stations, in order of first occurrence. -/
def collect (ms : List Measurement) : List Window :=
  ms.foldl (fun ws m => addTo m ws) []

/-- The mean of both averages, or the one that there is. -/
def score? (w : Window) : Option Float :=
  match mean? w.pm10, mean? w.pm25 with
  | some a, some b => some ((a + b) / 2.0)
  | some a, none => some a
  | none, b => b

end Window

/-- What stations are ordered by. -/
structure AverageKey where
  pm10 : Option Float
  pm25 : Option Float

namespace AverageKey

/-- The averages of a window. -/
def ofWindow (w : Window) : AverageKey := ⟨mean? w.pm10, mean? w.pm25⟩

/-- Whether two averages are equal: both missing, or equal as numbers. -/
def sameAverage : Option Float → Option Float → Bool
  | none, none => true
  | some a, some b => a == b
  | _, _ => false

/-- Whether an average comes before another one; a missing one comes last. -/
def averageBefore : Option Float → Option Float → Bool
  | some a, some b => a < b
  | some _, none => true
  | none, _ => false

/-- The order: by the average of PM10, and then by that of PM2.5. -/
def lt (a b : AverageKey) : Bool :=
  if sameAverage a.pm10 b.pm10 then averageBefore a.pm25 b.pm25 else averageBefore a.pm10 b.pm10

/-- Whether both averages are numbers or missing. -/
def compares (k : AverageKey) : Bool := !k.pm10.any Float.isNaN && !k.pm25.any Float.isNaN

/-- Whether two stations share a rank. -/
def same (a b : AverageKey) : Bool := sameAverage a.pm10 b.pm10 && sameAverage a.pm25 b.pm25

end AverageKey

/-- An entry of a ranking. -/
structure RankEntry where
  rank : Int
  station : Station
  averageScore : Option Float
  dominantLevel : Option Level
  count : Int

namespace RankEntry

/-- The entry of a window. Where the station lies is not known. -/
def ofWindow (rank : Nat) (w : Window) : RankEntry :=
  ⟨rank, ⟨w.stationId, w.stationName, "", some "", 0.0, 0.0⟩, w.score?, w.level, w.count⟩

/-- Reads an entry from the pairs of an object. -/
def ofPairs (pairs : List (Text × Json)) : Checked RankEntry :=
  let isRank (n : Int) : Bool := 1 ≤ n
  RankEntry.mk <$> Check.required "rank" (Check.atLeast isRank Check.integer) pairs
    <*> Check.required "station" Station.ofJson pairs
    <*> Check.nullableField "average_score" Check.real pairs
    <*> Check.nullableField "dominant_quality_level" Level.check pairs
    <*> Check.optional "measurement_count" 0 Check.integer pairs

/-- Reads an entry. -/
def ofJson : Json → Checked RankEntry := Check.record ofPairs

/-- Whether the level is known and good. -/
def hasGoodAirQuality (e : RankEntry) : Bool := e.dominantLevel.any Level.isGood

/-- The entry as a record. -/
def toJson (e : RankEntry) : Json :=
  .obj [("rank", .ofInt e.rank), ("station", e.station.toJson),
    ("average_score", .ofFloat? e.averageScore),
    ("dominant_quality_level", Level.toJson? e.dominantLevel),
    ("measurement_count", .ofInt e.count)]

end RankEntry

/-- Numbers the windows of an ordered list, after one with the rank `rank` and the key `last`. -/
def assignRanks (rank : Nat) (last : Option AverageKey) : List Window → List RankEntry
  | [] => []
  | w :: ws =>
    let key := AverageKey.ofWindow w
    let rank := if last.any (AverageKey.same key) then rank else rank + 1
    RankEntry.ofWindow rank w :: assignRanks rank (some key) ws

/-- The ranking of all stations with an average, for measurements with the oldest first. -/
def rank (ms : List Measurement) : List RankEntry :=
  let scored := (Window.collect ms).filter fun w => w.score?.isSome
  assignRanks 0 none
    (Order.sort (fun w => (AverageKey.ofWindow w).compares)
      (fun v w => (AverageKey.ofWindow v).lt (AverageKey.ofWindow w)) scored)

/-- The first entries of the ranking; none for a negative limit. -/
def rankUpTo (limit : Int) (ms : List Measurement) : List RankEntry :=
  (rank ms).take limit.toNat

end AirQuality
