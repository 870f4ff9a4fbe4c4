import AirQuality.Ranking
import Mathlib.Data.List.Dedup
import Mathlib.Data.List.Induction
import Mathlib.Data.List.Nodup
import Mathlib.Data.List.Perm.Subperm

/-!
# Windows of stations

The windows are collected in one pass over the measurements of all stations. Looked up by station,
the result is what the measurements of that station alone add up to.

## Key results

- `mean?_eq`: the average of some values is their sum over their count
- `Window.ofStation?_collect`: the window of a station is that of its own measurements
- `Window.nodup_stations_collect`: each station has one window
- `Window.ofMeasurements?_of_mem_collect`: a window that was collected is that of its station
-/

namespace AirQuality

/-- The sum of some values, added up from left to right, over their count. -/
def sumOverCount (xs : List Float) : Float := xs.foldl (· + ·) 0.0 / Float.ofNat xs.length

/-- The average of some values, which is missing if there are none. -/
theorem mean?_eq (xs : List Float) :
    mean? xs = if xs.isEmpty then none else some (sumOverCount xs) := by
  cases xs <;> rfl

namespace Statistics

/-- The values of more measurements come behind the others. -/
private theorem present_append (ms more : List Measurement) (p : Pollutant) :
    present (ms ++ more) p = present ms p ++ present more p :=
  List.filterMap_append

/-- A single measurement has one value of a pollutant or none. -/
private theorem present_singleton (m : Measurement) (p : Pollutant) :
    present [m] p = (m.values.get p).toList := by
  cases h : m.values.get p <;> simp [present, h]

end Statistics

namespace Window

open Statistics (present present_append present_singleton)

/-- What some measurements of one station add up to, if there are any. -/
def ofMeasurements? : List Measurement → Option Window
  | [] => none
  | m :: ms =>
    some
      { stationId := m.stationId
        stationName := m.stationName
        pm10 := present (m :: ms) .pm10
        pm25 := present (m :: ms) .pm25
        level := (m :: ms).findSome? fun m => m.levels.overall
        count := (m :: ms).length }

/-- The window of a station among those of all stations. -/
def ofStation? (id : Int) (ws : List Window) : Option Window :=
  ws.find? fun w => w.stationId == id

/-- The stations of some windows. -/
def stations (ws : List Window) : List Int := ws.map Window.stationId

/-- A further measurement does not change the station. -/
@[simp] theorem stationId_add (w : Window) (m : Measurement) :
    (w.add m).stationId = w.stationId := rfl

/-- A window starts with the station of its first measurement. -/
@[simp] theorem stationId_start (m : Measurement) : (start m).stationId = m.stationId := rfl

/-- Only of no measurements there is no window. -/
theorem ofMeasurements?_eq_none_iff {ms : List Measurement} :
    ofMeasurements? ms = none ↔ ms = [] := by
  cases ms <;> simp [ofMeasurements?]

/-- A further measurement adds its values and its level, and counts. -/
private theorem ofMeasurements?_append (ms : List Measurement) (m : Measurement) :
    ofMeasurements? (ms ++ [m]) = some (((ofMeasurements? ms).getD (start m)).add m) := by
  have values (p : Pollutant) : present (ms ++ [m]) p = present ms p ++ (m.values.get p).toList := by
    rw [present_append, present_singleton]
  have levels : (ms ++ [m]).findSome? (fun m => m.levels.overall) =
      (ms.findSome? fun m => m.levels.overall).or m.levels.overall := by
    rw [List.findSome?_append]
    cases h : m.levels.overall <;> simp [h]
  -- The window is new, or it is the one of the measurements so far.
  cases ms with
  | nil =>
    have none (p : Pollutant) : present [] p = [] := rfl
    simp only [List.nil_append] at values levels
    simp [ofMeasurements?, start, add, none, values, levels, Concentrations.get]
  | cons first ms =>
    simp only [List.cons_append] at values levels
    simp [ofMeasurements?, add, values, levels, Concentrations.get]

/-! ## Collecting one more measurement -/

/-- Collecting a measurement changes the window of its station and no other. -/
private theorem ofStation?_addTo (m : Measurement) (id : Int) (ws : List Window) :
    ofStation? id (addTo m ws) =
      if m.stationId = id then some (((ofStation? id ws).getD (start m)).add m)
      else ofStation? id ws := by
  unfold ofStation?
  -- The first window of the station is the one that is changed, or a new one behind all others.
  induction ws with
  | nil => by_cases own : m.stationId = id <;> simp [addTo, own]
  | cons w ws ih =>
    by_cases first : w.stationId = m.stationId
    · by_cases own : m.stationId = id
      · simp [addTo, first, own]
      · simp [addTo, first, own]
    · rw [addTo, if_neg first]
      by_cases own : w.stationId = id
      -- Then it is another window that the measurement goes to.
      · have other : m.stationId ≠ id := fun h => first (own.trans h.symm)
        simp [own, other]
      · simp only [List.find?_cons, beq_eq_false_iff_ne.mpr own, ih]

/-- Collecting a measurement adds its station, unless there is a window of it already. -/
private theorem stations_addTo (m : Measurement) (ws : List Window) :
    stations (addTo m ws) =
      if m.stationId ∈ stations ws then stations ws else stations ws ++ [m.stationId] := by
  unfold stations
  -- The stations are looked through in the same order as the windows.
  induction ws with
  | nil => simp [addTo]
  | cons w ws ih =>
    by_cases first : w.stationId = m.stationId
    · simp [addTo, first]
    · have other : ¬m.stationId = w.stationId := fun h => first h.symm
      simp only [addTo, if_neg first, List.map_cons, ih, List.mem_cons, other, false_or]
      split <;> simp

/-! ## Collecting all measurements -/

/-- Measurements are collected one after the other. -/
private theorem collect_append (ms : List Measurement) (m : Measurement) :
    collect (ms ++ [m]) = addTo m (collect ms) := by
  rw [collect, List.foldl_append]
  rfl

/-- The window of a station is what its own measurements add up to, whatever the others are. -/
theorem ofStation?_collect (ms : List Measurement) (id : Int) :
    ofStation? id (collect ms) = ofMeasurements? (ms.filter fun m => m.stationId == id) := by
  -- Each measurement is collected after the ones in front of it.
  induction ms using List.reverseRecOn with
  | nil => rfl
  | append_singleton ms m ih =>
    rw [collect_append, ofStation?_addTo, ih, List.filter_append]
    by_cases own : m.stationId = id
    · have only : [m].filter (fun m => m.stationId == id) = [m] := by simp [own]
      rw [if_pos own, only, ofMeasurements?_append]
    · have none : [m].filter (fun m => m.stationId == id) = [] := by simp [own]
      rw [if_neg own, none, List.append_nil]

/-- No station has two windows. -/
theorem nodup_stations_collect (ms : List Measurement) : (stations (collect ms)).Nodup := by
  -- A station that is added was not there before.
  induction ms using List.reverseRecOn with
  | nil => exact List.nodup_nil
  | append_singleton ms m ih =>
    rw [collect_append, stations_addTo]
    split
    · exact ih
    · rename_i new
      exact List.nodup_append_comm.mp (List.nodup_cons.mpr ⟨new, ih⟩)

/-- The stations of the windows are those of the measurements. -/
theorem mem_stations_collect {ms : List Measurement} {id : Int} :
    id ∈ stations (collect ms) ↔ id ∈ ms.map (·.stationId) := by
  -- The stations known so far are those of the measurements so far.
  induction ms using List.reverseRecOn with
  | nil => rfl
  | append_singleton ms m ih =>
    rw [collect_append, stations_addTo, List.map_append, List.mem_append, ← ih]
    split
    · rename_i known
      simp only [List.map_cons, List.map_nil, List.mem_singleton]
      exact ⟨.inl, fun h => h.elim (fun old => old) fun own => own ▸ known⟩
    · simp

/-- The windows are in the order in which their stations first occur. -/
theorem pairwise_stations_collect (ms : List Measurement) :
    (stations (collect ms)).Pairwise fun a b =>
      (ms.map (·.stationId)).idxOf a < (ms.map (·.stationId)).idxOf b := by
  induction ms using List.reverseRecOn with
  | nil => exact .nil
  | append_singleton ms m ih =>
    -- A further measurement does not move the first occurrence of a station.
    have kept {id : Int} (known : id ∈ stations (collect ms)) :
        ((ms ++ [m]).map (·.stationId)).idxOf id = (ms.map (·.stationId)).idxOf id := by
      rw [List.map_append, List.idxOf_append_of_mem (mem_stations_collect.mp known)]
    have old : (stations (collect ms)).Pairwise fun a b =>
        ((ms ++ [m]).map (·.stationId)).idxOf a < ((ms ++ [m]).map (·.stationId)).idxOf b :=
      ih.imp_of_mem fun ha hb less => by rwa [kept ha, kept hb]
    rw [collect_append, stations_addTo]
    split
    · exact old
    · rename_i new
      -- A new station first occurs behind all others.
      refine List.pairwise_append.mpr ⟨old, List.pairwise_singleton _ _, fun a ha b hb => ?_⟩
      rw [List.mem_singleton.mp hb, kept ha, List.map_append,
        List.idxOf_append_of_notMem (mem_stations_collect.not.mp new)]
      exact Nat.lt_add_right _ (List.idxOf_lt_length_iff.mpr (mem_stations_collect.mp ha))

/-- A window is found by its station if no other one has the same station. -/
private theorem ofStation?_of_mem {ws : List Window} (unique : (stations ws).Nodup) {w : Window}
    (mem : w ∈ ws) : ofStation? w.stationId ws = some w := by
  unfold stations ofStation? at *
  -- The first window with the station is the window itself, as no other one has it.
  induction ws with
  | nil => cases mem
  | cons v ws ih =>
    rw [List.map_cons, List.nodup_cons] at unique
    rcases List.mem_cons.mp mem with rfl | later
    · simp
    · have other : v.stationId ≠ w.stationId := fun h =>
        unique.1 (h ▸ List.mem_map_of_mem later)
      rw [List.find?_cons_of_neg (by simpa using other)]
      exact ih unique.2 later

/-- A window that was collected is what the measurements of its station add up to. -/
theorem ofMeasurements?_of_mem_collect {ms : List Measurement} {w : Window}
    (mem : w ∈ collect ms) :
    ofMeasurements? (ms.filter fun m => m.stationId == w.stationId) = some w := by
  rw [← ofStation?_collect]
  exact ofStation?_of_mem (nodup_stations_collect ms) mem

/-- There are no more windows than stations. -/
theorem length_collect_le {ms : List Measurement} {ids : List Int}
    (known : ∀ m ∈ ms, m.stationId ∈ ids) : (collect ms).length ≤ ids.dedup.length := by
  -- Each window has a station of its own, and all of these are known.
  have subset : stations (collect ms) ⊆ ids.dedup := fun id mem => by
    obtain ⟨m, hm, rfl⟩ := List.mem_map.mp (mem_stations_collect.mp mem)
    exact List.mem_dedup.mpr (known m hm)
  have count := (List.subperm_of_subset (nodup_stations_collect ms) subset).length_le
  simpa [stations] using count

end Window

end AirQuality
