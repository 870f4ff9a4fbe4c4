import AirQuality.Proofs.Enquiry.Distances
import AirQuality.Proofs.Enquiry.Nearest

/-!
# Coordinates of stations

Coordinates of the feed that cannot be used are zero, and do no harm. But words for infinity and for
NaN can be read as numbers, and so can numerals beyond the range of doubles: one station with such a
coordinate breaks every search.

## Key results

- `isFinite_coordinate_iff`: when a coordinate is finite
- `nearest_of_client`: when a search among a client's stations is answered
- `infinity_breaks_search`: a search that one station breaks
-/

namespace AirQuality

open Number (value reach)

/-- Whether a station has finite coordinates. -/
def Station.IsPlaced (s : Station) : Prop :=
  s.latitude.isFinite = true ∧ s.longitude.isFinite = true

instance (s : Station) : Decidable s.IsPlaced := inferInstanceAs (Decidable (_ ∧ _))

namespace Feed

/-- A value that is read as a number that is not finite. -/
def ReadsNonfinite (v : Json) : Prop :=
  v ≠ .null ∧ ∃ x, floatOfText? v = some x ∧ x.isFinite = false

/-- An item of the list of stations with a coordinate that is read as a number that is not
finite. -/
def ListsNonfinite (item : Json) : Prop :=
  ∃ l, ListedStation.ofJson item = .valid l ∧
    (ReadsNonfinite l.latitude ∨ ReadsNonfinite l.longitude)

/-- A coordinate is finite unless it is read as something else; what cannot be read is zero. -/
theorem isFinite_coordinate_iff {v : Json} :
    (coordinate v).isFinite = true ↔ ¬ReadsNonfinite v := by
  have zero : (0.0 : Float).isFinite = true := by rfl
  unfold ReadsNonfinite
  -- A null is zero, as what cannot be read is, and zero is finite.
  cases v with
  | null => simp [coordinate, zero]
  | _ =>
    simp only [coordinate, ne_eq, reduceCtorEq, not_false_eq_true, true_and]
    cases floatOfText? _ with
    | none => simp [zero]
    | some x => simp

/-- A station of a list has finite coordinates unless its item says otherwise. -/
private theorem isPlaced_iff_of_lists {item : Json} {s : Station} (lists : Lists item s) :
    s.IsPlaced ↔ ¬ListsNonfinite item := by
  -- The station has the coordinates of its item, and there is one item for it.
  obtain ⟨l, valid, rfl⟩ : ∃ l, ListedStation.ofJson item = .valid l ∧ s = Client.stationOf l := by
    have station := lists.station
    simp only [Client.stationIn, bind_eq_ok_iff, Checked.orFault_eq_ok_iff] at station
    obtain ⟨l, valid, ⟨⟩⟩ := station
    exact ⟨l, valid, rfl⟩
  have nonfinite : ListsNonfinite item ↔
      ReadsNonfinite l.latitude ∨ ReadsNonfinite l.longitude := by
    simp only [ListsNonfinite, valid, Checked.valid.injEq, exists_eq_left']
  show (coordinate l.latitude).isFinite = true ∧ (coordinate l.longitude).isFinite = true ↔ _
  rw [isFinite_coordinate_iff, isFinite_coordinate_iff, nonfinite, not_or]

/-- The stations of a list are placed if no item has a coordinate that is read as something else. -/
theorem forall_isPlaced_iff {items : List Json} {stations : List Station}
    (each : List.Forall₂ Lists items stations) :
    (∀ s ∈ stations, s.IsPlaced) ↔ ∀ item ∈ items, ¬ListsNonfinite item := by
  -- Stations and items are as many, and in the same order.
  constructor
  · intro placed item mem
    obtain ⟨s, hs, lists⟩ := exists_of_forall₂ each mem
    exact (isPlaced_iff_of_lists lists).mp (placed s hs)
  · intro finite s hs
    obtain ⟨item, mem, lists⟩ := exists_of_forall₂ each.flip hs
    exact (isPlaced_iff_of_lists lists).mpr (finite item mem)

/-- Stations that a client answers with are those of the list that has come. -/
private theorem exists_items {c : Client} {stations : List Station}
    (listed : c.stations.run.value = .ok stations) (some_listed : stations ≠ []) :
    ∃ root items, (c.json Client.stationsPath).run.value = .ok root ∧
      Resolved c c.keys.stations root items ∧ List.Forall₂ Lists items stations := by
  rw [value_stations] at listed
  -- If the list has not come there are no stations.
  cases came : (c.json Client.stationsPath).run.value with
  | error fault =>
    rw [came] at listed
    cases listed
    exact absurd rfl some_listed
  | ok root =>
    rw [came] at listed
    dsimp only at listed
    -- An answer that cannot be searched has no stations.
    have follows : c.stack.follows c.keys.stations root = true := by
      by_contra short
      rw [value_stationsOf_of_not_follows (Bool.eq_false_of_not_eq_true short)] at listed
      cases listed
    obtain ⟨found, value, origin, -⟩ := value_stationsOf follows
    obtain rfl := Except.ok.inj (value.symm.trans listed)
    obtain ⟨items, resolved, each⟩ := origin.resolve_left some_listed
    exact ⟨root, items, rfl, resolved, each⟩

end Feed

namespace Enquiry

section Searches

variable {σ : Type} {e : Enquiry σ} {f : Elementary} (laws : f.Laws) {stations : List Station}
  {lat lon : Number} (hlat : IsLatitude lat) (hlon : IsLongitude lon)

include laws hlat hlon

/-- Stations are measured if each of them has finite coordinates and a haversine that is not
negative. -/
private theorem exists_hasDistances (placed : ∀ s ∈ stations, s.IsPlaced)
    (above : ∀ s ∈ stations, ¬RoundsBelowZero f lat lon s.latitude s.longitude) :
    ∃ km, HasDistances f lat lon km stations := by
  -- A distance for each station of the list, and any for the others
  have each : ∀ s, ∃ km, s ∈ stations →
      distanceBy f lat lon (.float s.latitude) (.float s.longitude) = .ok km ∧ 0.0 ≤ km := by
    intro s
    by_cases hs : s ∈ stations
    · obtain ⟨km, distance⟩ :=
        (exists_distance_iff laws hlat hlon).mpr ⟨placed s hs, above s hs⟩
      exact ⟨km, fun _ => distance⟩
    · exact ⟨0.0, fun mem => absurd mem hs⟩
  choose km distances using each
  exact ⟨km, distances⟩

/-- One other station cannot be measured, and nor can a list with it. -/
private theorem mapM_measured_fails {s : Station} (hs : s ∈ stations)
    (spoilt : ¬s.IsPlaced ∨ RoundsBelowZero f lat lon s.latitude s.longitude) :
    ∃ fault, stations.mapM (measured f (some lat) (some lon)) = .error fault := by
  cases all : stations.mapM (measured f (some lat) (some lon)) with
  | error fault => exact ⟨fault, rfl⟩
  -- If all were measured, this one would have a distance.
  | ok ds =>
    obtain ⟨d, -, single⟩ := exists_of_mapM_eq_ok all hs
    obtain ⟨km, distance, possible, -⟩ := measured_eq_ok_iff.mp single
    obtain ⟨placed, above⟩ := (exists_distance_iff laws hlat hlon).mp ⟨km, distance, possible⟩
    exact (spoilt.elim (absurd placed) above).elim

end Searches

/-- Around a point on the globe, a search among a client's stations is answered if no item of their
list has a coordinate that is read as infinite or as NaN, whatever else stands for its coordinates,
and no haversine is rounded to less than zero; then every station has a distance, and those within
the reach are found. One station that is not so makes the search fail. Between the poles no
haversine is negative. -/
theorem nearest_of_client {σ : Type} {e : Enquiry σ} {f : Elementary} (laws : f.Laws)
    {c : Feed.Client} (fed : e.provider = c.provider) {stations : List Station}
    (listed : c.stations.run.value = .ok stations) (some_listed : stations ≠ [])
    {lat lon : Number} (hlat : IsLatitude lat) (hlon : IsLongitude lon)
    (radius : Number) (state : σ) :
    ∃ root items, (c.json Feed.Client.stationsPath).run.value = .ok root ∧
      Feed.Resolved c c.keys.stations root items ∧ List.Forall₂ Feed.Lists items stations ∧
      ((∀ item ∈ items, ¬Feed.ListsNonfinite item) →
        (∀ s ∈ stations, ¬RoundsBelowZero f lat lon s.latitude s.longitude) →
        ∃ found, ((e.nearestBy f (some lat) (some lon) radius).runOn state).value =
            (.ok found, state) ∧
          ∀ s ∈ stations, ∃ km,
            distanceBy f lat lon (.float s.latitude) (.float s.longitude) = .ok km ∧
              (value km ≤ reach radius → ⟨s, km⟩ ∈ found)) ∧
      ((∃ item ∈ items, Feed.ListsNonfinite item) ∨
          (∃ s ∈ stations, RoundsBelowZero f lat lon s.latitude s.longitude) →
        ∃ fault, ((e.nearestBy f (some lat) (some lon) radius).runOn state).value =
          (.error fault, state)) ∧
      ∀ s ∈ stations, IsLatitude (.float s.latitude) → s.longitude.isFinite = true →
        ¬RoundsBelowZero f lat lon s.latitude s.longitude := by
  obtain ⟨root, items, came, resolved, each⟩ := Feed.exists_items listed some_listed
  have answered : e.provider.stations.run.value = .ok stations := by
    rw [fed]
    exact listed
  refine ⟨root, items, came, resolved, each, ?_, ?_, ?_⟩
  -- With finite coordinates and no negative haversine there is a distance for every station.
  · intro finite above
    have placed := (Feed.forall_isPlaced_iff each).mpr finite
    obtain ⟨km, distances⟩ := exists_hasDistances laws hlat hlon placed above
    have nearest := isNearest_nearestOf distances.isNaN radius
    refine ⟨nearestOf (clampRadius radius) (stations.map fun s => ⟨s, km s⟩), ?_, ?_⟩
    · rw [value_nearestBy answered, if_neg some_listed, distances.mapM_measured]
      rfl
    · intro s hs
      refine ⟨km s, (distances s hs).1, fun reached => nearest.within.mem_iff.mpr ?_⟩
      exact List.mem_map.mpr ⟨s, List.mem_filter.mpr ⟨hs, decide_eq_true reached⟩, rfl⟩
  -- Either the item or the haversine of one station spoils the whole list.
  · intro spoilt
    obtain ⟨s, hs, spoilt⟩ : ∃ s ∈ stations,
        ¬s.IsPlaced ∨ RoundsBelowZero f lat lon s.latitude s.longitude := by
      obtain ⟨item, mem, nonfinite⟩ | ⟨s, hs, below⟩ := spoilt
      · obtain ⟨s, hs, lists⟩ := exists_of_forall₂ each mem
        exact ⟨s, hs, .inl fun placed => (Feed.isPlaced_iff_of_lists lists).mp placed nonfinite⟩
      · exact ⟨s, hs, .inr below⟩
    obtain ⟨fault, fails⟩ := mapM_measured_fails laws hlat hlon hs spoilt
    refine ⟨fault, ?_⟩
    rw [value_nearestBy answered, if_neg some_listed, fails]
    rfl
  -- Between the poles the haversine is not rounded below zero.
  · intro s _ between finite
    exact not_roundsBelowZero laws hlat hlon between finite

/-! The stations on the equator, listed with coordinates that cannot be used or are missing. -/

/-- What holds of zero and of the single value holds of any value, if that is a number. -/
private theorem single_of_number {P : Float → Prop} {x y : Float} (number : x.isNaN = false)
    (zero : P 0.0) (other : P y) : P (single y x) := by
  rw [single, number, if_neg Bool.false_ne_true]
  -- The single value is that for anything but zero.
  split
  · exact zero
  · exact other

/-- NaN is the value for NaN only. -/
private theorem number_of_single {x y : Float} (number : (single y x).isNaN = false) :
    x.isNaN = false := by
  by_contra nan
  rw [single, if_pos (Bool.eq_true_of_not_eq_false nan)] at number
  exact nan number

/-- The functions with single values are as a library's are. -/
private theorem laws_onEquator : onEquator.Laws where
  sin_between _ finite := single_of_number (P := fun y => -1.0 ≤ y ∧ y ≤ 1.0)
    (Number.upTo_of_isFinite finite).isNaN (by decide) (by decide)
  cos_between x finite := by
    show -1.0 ≤ (if x.isNaN then x else 1.0) ∧ (if x.isNaN then x else 1.0) ≤ 1.0
    rw [if_neg (ne_true_of_eq_false (Number.upTo_of_isFinite finite).isNaN)]
    decide
  cos_unsigned x low _ := by
    show Number.Unsigned (if x.isNaN then x else 1.0)
    rw [if_neg (ne_true_of_eq_false (Number.isNaN_of_le_float low).2)]
    exact Number.unsigned_iff.mpr rfl
  square_between _ low _ := single_of_number (P := fun y => Number.Unsigned y ∧ y ≤ 1.0)
    (Number.isNaN_of_le_float low).2
    ⟨Number.unsigned_iff.mpr rfl, by decide⟩ ⟨Number.unsigned_iff.mpr rfl, by decide⟩
  atan2_nonneg _ _ nonneg _ := single_of_number (P := fun y => 0.0 ≤ y)
    (Number.isNaN_of_le_float nonneg).2 (by decide) (by decide)
  sin_number _ := number_of_single
  square_number _ := number_of_single
  atan2_number _ _ := number_of_single

/-- A client of a feed that answers with a list of stations and knows nothing else. -/
def clientListing (list : String) : Feed.Client where
  baseUrl := "/"
  zone := none
  keys := .known
  clock := History.noonOfMay 0
  stack := .shared
  fetch path :=
    if path = Feed.Client.stationsPath then .answer 200 list.toUTF8.toList else .answer 404 []

/-- Enquiries with the answers of a client and an empty history. -/
def enquiryListing (list : String) : Enquiry History where
  provider := (clientListing list).provider
  store := History.store
  clock := History.noonOfMay 0

/-- The list of the two stations. -/
def listOnEquator : String :=
  "[\x7b\"id\":1,\"gegrLat\":\"brak\",\"gegrLon\":\"0,5\"\x7d,\x7b\"id\":2,\"gegrLat\":true\x7d]"

/-- The client reads the two stations, with zero for what cannot be used. -/
private theorem stations_listOnEquator :
    (clientListing listOnEquator).stations.run.value = .ok twoOnEquator := by
  decide +kernel

/-- Around the point on the equator both stations have a distance, and a reach of sixty kilometres
is enough. -/
theorem nearest_of_listOnEquator :
    onEquator.Laws ∧ (clientListing listOnEquator).stations.run.value = .ok twoOnEquator ∧
    IsLatitude (.int 0) ∧ IsLongitude (.int 0) ∧
    ∃ found, (((enquiryListing listOnEquator).nearestBy onEquator (some (.int 0)) (some (.int 0))
        (.int 60)).runOn History.empty).value = (.ok found, History.empty) ∧
      ∀ s ∈ twoOnEquator, ∃ km,
        distanceBy onEquator (.int 0) (.int 0) (.float s.latitude) (.float s.longitude) = .ok km ∧
          (value km ≤ reach (.int 60) → ⟨s, km⟩ ∈ found) := by
  have lat : IsLatitude (.int 0) := by decide
  have lon : IsLongitude (.int 0) := by decide
  have placed : ∀ s ∈ twoOnEquator, s.IsPlaced := by decide
  have between : ∀ s ∈ twoOnEquator, IsLatitude (.float s.latitude) := by decide
  -- The two stations lie on the equator, and so between the poles.
  obtain ⟨_, items, -, -, each, answered, -, above⟩ := nearest_of_client
    (e := enquiryListing listOnEquator) laws_onEquator rfl stations_listOnEquator
    (List.cons_ne_nil _ _) lat lon (.int 60) History.empty
  have finite := (Feed.forall_isPlaced_iff each).mp placed
  exact ⟨laws_onEquator, stations_listOnEquator, lat, lon,
    answered finite fun s hs => above s hs (between s hs) (placed s hs).2⟩

/-- A station with an infinite latitude, listed before another one. -/
def listWithInfinity : String :=
  "[\x7b\"id\":1,\"stationName\":\"A\",\"gegrLat\":\"inf\",\"gegrLon\":\"21.0\"\x7d," ++
    "\x7b\"id\":2,\"stationName\":\"B\",\"gegrLat\":\"52.0\",\"gegrLon\":\"21.0\"\x7d]"

/-- The infinite latitude of a station breaks a search at another one. -/
theorem infinity_breaks_search :
    IsLatitude (.float 52.0) ∧ IsLongitude (.float 21.0) ∧
    (clientListing listWithInfinity).stations.run.value = .ok
      [⟨1, some "A", "", none, 1.0 / 0.0, 21.0⟩, ⟨2, some "B", "", none, 52.0, 21.0⟩] ∧
    (((enquiryListing listWithInfinity).nearest (some (.float 52.0)) (some (.float 21.0))
      (.int 10)).runOn History.empty).value = (.error .badValue, History.empty) := by
  have listed : (clientListing listWithInfinity).stations.run.value = .ok
      [⟨1, some "A", "", none, 1.0 / 0.0, 21.0⟩, ⟨2, some "B", "", none, 52.0, 21.0⟩] := by
    decide +kernel
  refine ⟨by decide, by decide, listed, ?_⟩
  -- The first station cannot be measured, and so none of them is.
  rw [nearest, value_nearestBy (e := enquiryListing listWithInfinity) listed,
    if_neg (List.cons_ne_nil _ _)]
  rfl

end Enquiry

end AirQuality
