import AirQuality.Enquiry
import AirQuality.Proofs.Feed.Containment
import AirQuality.Proofs.Number.Exact
import AirQuality.Proofs.Store.Ranges

/-!
# The nearest stations

When every station has a possible distance from a point, a search around the point measures all of
them, keeps those within the reach of its radius and lists the nearest first. All searches around
one point cut the same list: what a smaller radius finds is what a greater one starts with.

## Key results

- `exact_clampRadius`: how far a radius reaches
- `nearestOf_eq_filter`: what is found is cut from all stations in the order of their distances
- `isNearest_nearestOf`: which stations are found, and in which order
- `nearest_stations`: the answers of searches around a point
-/

namespace AirQuality

open Number (Extended exact value le_iff_exact)

/-! ## Reach -/

namespace Number

/-- How far a radius reaches: at least one kilometre and at most a hundred. What is not a number
reaches as far as possible. -/
def reach (radius : Number) : Extended :=
  if radius.isNaN then exact (.float 100.0)
  else max (exact (.float 1.0)) (min (exact (.float 100.0)) radius.exact)

/-- A greater radius reaches as far or farther. -/
private theorem reach_mono {r₁ r₂ : Number} (le : r₁.le r₂ = true) : reach r₁ ≤ reach r₂ := by
  -- Numbers that are in order are no NaN.
  obtain ⟨number₁, number₂⟩ := isNaN_of_le le
  have below : r₁.exact ≤ r₂.exact := (le_iff_exact number₁ number₂).mp le
  simp only [reach, number₁, number₂, Bool.false_eq_true, if_false]
  exact max_le_max_left _ (min_le_min_left _ below)

end Number

open Number (reach reach_mono)

namespace Enquiry

/-- A radius is brought to its reach. -/
theorem exact_clampRadius (radius : Number) :
    (clampRadius radius).isNaN = false ∧ (clampRadius radius).exact = reach radius := by
  have lower : (Number.float 1.0).isNaN = false := by decide
  have upper : (Number.float 100.0).isNaN = false := by decide
  -- NaN is brought to the upper bound, which is the greater one of the two.
  by_cases nan : radius.isNaN = true
  · rw [clampRadius, Number.clamp_of_isNaN nan, reach, if_pos nan]
    refine ⟨Number.isNaN_greatest lower upper, ?_⟩
    rw [Number.exact_greatest lower upper]
    exact max_eq_right ((le_iff_exact lower upper).mp (by decide))
  · have number : radius.isNaN = false := Bool.eq_false_iff.mpr nan
    rw [reach, if_neg nan]
    exact Number.exact_clamp number lower upper

/-! ## Stations in the order of their distances -/

/-- Whether a station is not farther away than another one. -/
noncomputable def notFarther (a b : StationDistance) : Bool := decide (value a.km ≤ value b.km)

/-- Any two distances can be compared by their values. -/
private theorem isTotal_notFarther : Order.IsTotal notFarther where
  trans := fun a b c ab bc => decide_eq_true ((of_decide_eq_true ab).trans (of_decide_eq_true bc))
  total := fun a b => by simpa [notFarther] using le_total (value a.km) (value b.km)

/-- Whether a station is within a reach. -/
noncomputable def isReached (reach : Extended) (d : StationDistance) : Bool :=
  decide (value d.km ≤ reach)

/-- What is found is cut from all stations in the order of their distances. -/
theorem nearestOf_eq_filter {ds : List StationDistance} (numbers : ∀ d ∈ ds, d.km.isNaN = false)
    (radius : Number) :
    nearestOf (clampRadius radius) ds =
      (ds.mergeSort notFarther).filter (isReached (reach radius)) := by
  obtain ⟨number, reaches⟩ := exact_clampRadius radius
  -- Comparing with the radius is comparing with its reach.
  have within :
      ds.filter (isWithin (clampRadius radius)) = ds.filter (isReached (reach radius)) := by
    apply List.filter_congr
    intro d hd
    rw [Bool.eq_iff_iff, isReached, decide_eq_true_iff, ← reaches]
    exact le_iff_exact (numbers d hd) number
  -- Filtering first or sorting first makes no difference.
  rw [nearestOf, within, Order.filter_mergeSort isTotal_notFarther]
  -- The order that is sorted by is that of the values.
  have agree : ∀ a ∈ ds.filter (isReached (reach radius)),
      ∀ b ∈ ds.filter (isReached (reach radius)), decide (a.km ≤ b.km) = notFarther a b := by
    intro a ha b hb
    rw [Bool.eq_iff_iff, notFarther, decide_eq_true_iff, decide_eq_true_iff]
    have ordered := le_iff_exact (a := .float a.km) (b := .float b.km)
      (numbers a (List.mem_of_mem_filter ha)) (numbers b (List.mem_of_mem_filter hb))
    exact decide_eq_true_iff.symm.trans ordered
  simpa using List.map_mergeSort (f := id) agree

/-- The stations of a list within a reach, the nearest first. -/
structure IsNearest (km : Station → Float) (reach : Extended) (stations : List Station)
    (found : List StationDistance) : Prop where
  /-- Each occurrence of a station within the reach is found once, with its distance. -/
  within : found.Perm
    ((stations.filter fun s => decide (value (km s) ≤ reach)).map fun s => ⟨s, km s⟩)
  ordered : found.Pairwise fun a b => value a.km ≤ value b.km
  /-- Stations at one distance are in the order of the list. -/
  stable : ∀ v ≤ reach, (found.filter fun d => decide (value d.km = v)).map (·.station) =
    stations.filter fun s => decide (value (km s) = v)

/-- What is found are the stations within the reach, the nearest first. -/
theorem isNearest_nearestOf {km : Station → Float} {stations : List Station}
    (numbers : ∀ s ∈ stations, (km s).isNaN = false) (radius : Number) :
    IsNearest km (reach radius) stations
      (nearestOf (clampRadius radius) (stations.map fun s => ⟨s, km s⟩)) := by
  -- The distances of the pairs are those of the stations.
  have measured : ∀ d ∈ stations.map fun s => StationDistance.mk s (km s), d.km.isNaN = false := by
    intro d hd
    obtain ⟨s, hs, rfl⟩ := List.mem_map.mp hd
    exact numbers s hs
  rw [nearestOf_eq_filter measured]
  -- Content, order and ties, one after the other
  constructor
  · refine ((List.mergeSort_perm _ notFarther).filter _).trans ?_
    rw [List.filter_map]
    rfl
  · have sorted := List.pairwise_mergeSort isTotal_notFarther.trans isTotal_notFarther.total
      (stations.map fun s => StationDistance.mk s (km s))
    apply List.Pairwise.filter
    apply sorted.imp
    intro a b nearer
    rwa [notFarther, decide_eq_true_iff] at nearer
  · intro v reached
    -- The reach does not cut through the stations at one distance.
    rw [List.filter_filter, List.filter_congr (q := fun d => decide (value d.km = v)),
      Order.filter_mergeSort_of_tied isTotal_notFarther, List.filter_map, List.map_map]
    · exact List.map_id _
    · intro a b ha hb
      rw [decide_eq_true_iff] at ha hb
      rw [notFarther, decide_eq_true_iff, ha, hb]
    · intro d _
      rw [Bool.eq_iff_iff, Bool.and_eq_true, isReached]
      simp only [decide_eq_true_iff]
      constructor
      · exact And.left
      · intro at_v
        exact ⟨at_v, at_v ▸ reached⟩

/-- With a greater radius the same stations are found first. -/
private theorem nearestOf_isPrefix {ds : List StationDistance}
    (numbers : ∀ d ∈ ds, d.km.isNaN = false) {r₁ r₂ : Number} (le : r₁.le r₂ = true) :
    nearestOf (clampRadius r₁) ds <+: nearestOf (clampRadius r₂) ds := by
  have sorted := List.pairwise_mergeSort isTotal_notFarther.trans isTotal_notFarther.total ds
  rw [nearestOf_eq_filter numbers, nearestOf_eq_filter numbers]
  -- The smaller reach cuts what the greater one has left.
  have smaller : (ds.mergeSort notFarther).filter (isReached (reach r₁)) =
      ((ds.mergeSort notFarther).filter (isReached (reach r₂))).filter (isReached (reach r₁)) := by
    rw [List.filter_filter]
    apply List.filter_congr
    intro d _
    rw [Bool.eq_iff_iff, Bool.and_eq_true, isReached, isReached]
    simp only [decide_eq_true_iff]
    constructor
    · intro near
      exact ⟨near, near.trans (reach_mono le)⟩
    · exact And.left
  rw [smaller]
  -- In the order of distances, what is nearer than a bound comes first.
  apply Order.filter_isPrefix (sorted.filter _)
  intro a b ab reached
  exact decide_eq_true ((of_decide_eq_true ab).trans (of_decide_eq_true reached))

/-! ## Searches -/

section Searches

variable {σ : Type} {e : Enquiry σ} {f : Elementary} {stations : List Station}

/-- A search fails without stations; else it fails if one of the stations cannot be measured. -/
theorem value_nearestBy (listed : e.provider.stations.run.value = .ok stations)
    (lat lon : Option Number) (radius : Number) (state : σ) :
    ((e.nearestBy f lat lon radius).runOn state).value =
      (if stations = [] then .error (.feedUnavailable (some "Station list is not available"))
        else (stations.mapM (measured f lat lon)).map (nearestOf (clampRadius radius)), state) := by
  -- The list comes first, and then all stations are measured or none.
  rw [nearestBy, Act.value_runOn_bind, Act.runOn_ofAsk, Traced.value_map, listed]
  cases stations with
  | nil => rfl
  | cons s stations =>
    simp only [List.isEmpty_cons, Bool.false_eq_true, if_false, reduceCtorEq]
    rw [Act.value_runOn_bind, Act.runOn_ofExcept, Traced.value_pure]
    cases (s :: stations).mapM (measured f lat lon) <;> rfl

/-- Every station of a list has a distance from a point, and none of these is negative or NaN. -/
def HasDistances (f : Elementary) (lat lon : Number) (km : Station → Float)
    (stations : List Station) : Prop :=
  ∀ s ∈ stations,
    distanceBy f lat lon (.float s.latitude) (.float s.longitude) = .ok (km s) ∧ 0.0 ≤ km s

variable {lat lon : Number} {km : Station → Float}

/-- A distance that is not negative is a number. -/
theorem HasDistances.isNaN (distances : HasDistances f lat lon km stations) :
    ∀ s ∈ stations, (km s).isNaN = false := by
  intro s hs
  have possible : Number.le (.float 0.0) (.float (km s)) = true := decide_eq_true (distances s hs).2
  exact (Number.isNaN_of_le possible).2

/-- A station is measured if it has a distance that is not negative. -/
theorem measured_eq_ok_iff {s : Station} {d : StationDistance} :
    measured f (some lat) (some lon) s = .ok d ↔ ∃ km,
      distanceBy f lat lon (.float s.latitude) (.float s.longitude) = .ok km ∧ 0.0 ≤ km ∧
        d = ⟨s, km⟩ := by
  have of_eq_valid_iff (km : Float) :
      -- A distance is possible if it is not negative, and NaN is not.
      StationDistance.of s km = .valid d ↔ 0.0 ≤ km ∧ d = ⟨s, km⟩ := by
    unfold StationDistance.of StationDistance.isPossible
    by_cases possible : 0.0 ≤ km
    · simp [possible, eq_comm]
    · simp [possible]
  show (distanceBy f lat lon (.float s.latitude) (.float s.longitude) >>=
    fun km => (StationDistance.of s km).orFault) = _ ↔ _
  simp only [bind_eq_ok_iff, Checked.orFault_eq_ok_iff, of_eq_valid_iff]

/-- Stations with distances are all measured. -/
theorem HasDistances.mapM_measured (distances : HasDistances f lat lon km stations) :
    stations.mapM (measured f (some lat) (some lon)) = .ok (stations.map fun s => ⟨s, km s⟩) := by
  rw [mapM_eq_ok_iff, List.forall₂_map_right_iff, List.forall₂_same]
  intro s hs
  obtain ⟨distance, possible⟩ := distances s hs
  exact measured_eq_ok_iff.mpr ⟨km s, distance, possible, rfl⟩

/-- Around a point from which every listed station has a distance, a search fails if no station is
listed, and only then. Else it finds the stations within its reach, the nearest first, and with a
greater radius it finds further ones behind these. -/
theorem nearest_stations (listed : e.provider.stations.run.value = .ok stations)
    (distances : HasDistances f lat lon km stations) (state : σ) :
    (∀ radius, (∃ reason, ((e.nearestBy f (some lat) (some lon) radius).runOn state).value =
      (.error (.feedUnavailable reason), state)) ↔ stations = []) ∧
    (stations ≠ [] → ∃ found : Number → List StationDistance,
      (∀ radius, ((e.nearestBy f (some lat) (some lon) radius).runOn state).value =
          (.ok (found radius), state) ∧
        IsNearest km (reach radius) stations (found radius)) ∧
      ∀ r₁ r₂, r₁.le r₂ = true → found r₁ <+: found r₂) := by
  -- With stations in the list every search is answered.
  have answer (some_listed : stations ≠ []) (radius : Number) :
      ((e.nearestBy f (some lat) (some lon) radius).runOn state).value =
        (.ok (nearestOf (clampRadius radius) (stations.map fun s => ⟨s, km s⟩)), state) := by
    rw [value_nearestBy listed, if_neg some_listed, distances.mapM_measured]
    rfl
  constructor
  · intro radius
    constructor
    · rintro ⟨reason, fails⟩
      -- A search that is answered does not fail.
      by_contra some_listed
      rw [answer some_listed] at fails
      cases fails
    · intro none_listed
      rw [value_nearestBy listed, if_pos none_listed]
      exact ⟨_, rfl⟩
  · intro some_listed
    -- The function that gives what is found for each radius
    refine ⟨fun radius => nearestOf (clampRadius radius) (stations.map fun s => ⟨s, km s⟩), ?_, ?_⟩
    · intro radius
      exact ⟨answer some_listed radius, isNearest_nearestOf distances.isNaN radius⟩
    · intro r₁ r₂ le
      apply nearestOf_isPrefix _ le
      intro d hd
      obtain ⟨s, hs, rfl⟩ := List.mem_map.mp hd
      exact distances.isNaN s hs

end Searches

/-- Half a degree to the east, and the point itself. -/
def twoOnEquator : List Station :=
  [⟨1, none, "", none, 0.0, 0.5⟩, ⟨2, none, "", none, 0.0, 0.0⟩]

/-- A function with a single value, but for zero and for NaN. -/
def single (y x : Float) : Float := if x.isNaN then x else if x == 0.0 then 0.0 else y

/-- The values of the functions that are needed on half a degree of the equator. -/
def onEquator : Elementary where
  sin := single 0.004363309284746571
  cos x := if x.isNaN then x else 1.0
  pow x _ := single 1.9038467914355635e-05 x
  atan2 y _ := single 0.004363323129985824 y

/-- Their distances from the point. -/
def kmOnEquator (s : Station) : Float := if s.id = 1 then 55.59746332227937 else 0.0

/-- The two stations have these distances. -/
private theorem hasDistances_onEquator :
    HasDistances onEquator (.int 0) (.int 0) kmOnEquator twoOnEquator := by
  -- Each of the two distances is computed.
  intro s hs
  rcases List.mem_pair.mp hs with rfl | rfl
  · decide +kernel
  · decide +kernel

/-- Enquiries with the two stations and an empty history. -/
def enquiryOnEquator : Enquiry History where
  provider := ⟨pure twoOnEquator, fun _ => pure none, fun _ => pure []⟩
  store := History.store
  clock := History.noonOfMay 0

/-- What a radius of twenty kilometres finds, one of sixty finds first. -/
theorem nearest_stations_onEquator :
    enquiryOnEquator.provider.stations.run.value = .ok twoOnEquator ∧
    HasDistances onEquator (.int 0) (.int 0) kmOnEquator twoOnEquator ∧
    Number.le (.int 20) (.float 60.0) = true ∧
    ∃ found : Number → List StationDistance,
      (((enquiryOnEquator.nearestBy onEquator (some (.int 0)) (some (.int 0)) (.float 60.0)).runOn
        History.empty).value = (.ok (found (.float 60.0)), History.empty) ∧
        IsNearest kmOnEquator (reach (.float 60.0)) twoOnEquator (found (.float 60.0))) ∧
      found (.int 20) <+: found (.float 60.0) := by
  have shorter : Number.le (.int 20) (.float 60.0) = true := by decide
  -- The list is not empty, so the second part applies.
  obtain ⟨found, answers, longer⟩ := (nearest_stations (e := enquiryOnEquator) rfl
    hasDistances_onEquator History.empty).2 (List.cons_ne_nil _ _)
  exact ⟨rfl, hasDistances_onEquator, shorter, found, answers _, longer _ _ shorter⟩

end Enquiry

end AirQuality
