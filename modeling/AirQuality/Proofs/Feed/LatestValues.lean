import AirQuality.Proofs.Feed.Sensors
import AirQuality.Proofs.Order.Greatest
import AirQuality.Proofs.Time.Utc
import Mathlib.Data.List.Induction
import Mathlib.Data.List.Nodup

/-!
# The latest value of each pollutant

The readings of all sensors are gone through once, and for each pollutant code the latest value so
far is kept. Several sensors may measure one pollutant, their readings come in any order, and some of
them have no value; what is kept in the end is the value of the first reading with the latest date
among all readings of all sensors with the code.

## Key results

- `Latest.Tracks.add`: what one reading makes of the values that are kept
- `HasLatest`, `exists_latestValues`: the values that are kept in the end
- `HasLatest.mem_of_perm`: where dates are distinct, the order of the readings leaves no trace
- `latest_of_measurements`: the latest values of a station
-/

namespace AirQuality

open AirQuality.Order (DistinctKeys IsFirstGreatest)

/-! ## Values by code -/

namespace Latest

variable {latest : Latest} {code c : Text} {entry : Time.Moment × Float}

/-- The entry of one code is replaced, and no other one. -/
private theorem find?_put (latest : Latest) (code c : Text) (entry : Time.Moment × Float) :
    (latest.put code entry).find? c = if code = c then some entry else latest.find? c := by
  unfold find?
  -- On the entries: the one for the code comes first, or it is behind the first one.
  induction latest with
  | nil => by_cases own : code = c <;> simp [put, own]
  | cons e latest ih =>
    by_cases first : e.1 = code
    · by_cases own : code = c <;> simp [put, first, own]
    · rw [put, if_neg first]
      -- The entry in front stays, and it may be the one that is looked for.
      by_cases own : e.1 = c
      · have other : code ≠ c := fun same => first (own.trans same.symm)
        simp [own, other]
      · simp only [List.find?_cons, beq_eq_false_iff_ne.mpr own, ih]

/-- A code comes in at the end, unless it is there already. -/
private theorem codes_put (latest : Latest) (code : Text) (entry : Time.Moment × Float) :
    (latest.put code entry).map Prod.fst =
      if code ∈ latest.map Prod.fst then latest.map Prod.fst
      else latest.map Prod.fst ++ [code] := by
  -- On the entries, in the same two cases.
  induction latest with
  | nil => simp [put]
  | cons e latest ih =>
    by_cases first : e.1 = code
    · simp [put, first]
    · have other : code ≠ e.1 := fun same => first same.symm
      simp only [put, if_neg first, List.map_cons, ih, List.mem_cons, other, false_or]
      split <;> simp

/-- Codes stay distinct. -/
private theorem nodup_codes_put (nodup : (latest.map Prod.fst).Nodup) (code : Text)
    (entry : Time.Moment × Float) : ((latest.put code entry).map Prod.fst).Nodup := by
  rw [codes_put]
  split
  · exact nodup
  · rename_i new
    exact List.nodup_append_comm.mp (List.nodup_cons.mpr ⟨new, nodup⟩)

/-- No entry is found for a code that is not there. -/
theorem find?_eq_none_iff : latest.find? code = none ↔ code ∉ latest.map Prod.fst := by
  rw [find?, Option.map_eq_none_iff, List.find?_eq_none, List.mem_map, not_exists]
  simp

/-- An entry is found by its code if no other one has the same code. -/
private theorem find?_of_mem (nodup : (latest.map Prod.fst).Nodup) (mem : (code, entry) ∈ latest) :
    latest.find? code = some entry := by
  unfold find?
  induction latest with
  | nil => cases mem
  | cons e latest ih =>
    obtain ⟨alone, rest⟩ := List.nodup_cons.mp nodup
    -- The entry is the first one, or no entry before it has its code.
    rcases List.mem_cons.mp mem with rfl | later
    · simp
    · have other : e.1 ≠ code := by
        rintro rfl
        exact alone (List.mem_map.mpr ⟨_, later, rfl⟩)
      rw [List.find?_cons_of_neg (by simpa using other)]
      exact ih rest later

end Latest

/-! ## One reading after the other -/

/-- The readings of some sensors in order, each with the code of its sensor. -/
def codedReadings (sensors : List SensorSeries) : List (Text × Reading) :=
  sensors.flatMap fun s => s.readings.map fun r => (s.code, r)

/-- Of readings with codes, those with one code that have a value. -/
def valuedOf (code : Text) (seen : List (Text × Reading)) : List Reading :=
  (seen.filter fun e => e.1 == code && e.2.value.isSome).map Prod.snd

section ValuedOf

variable {seen : List (Text × Reading)} {code c : Text} {r : Reading}

/-- What the readings of a code with a value are. -/
private theorem mem_valuedOf :
    r ∈ valuedOf code seen ↔ (code, r) ∈ seen ∧ r.value.isSome = true := by
  simp only [valuedOf, List.mem_map, List.mem_filter, Bool.and_eq_true, beq_iff_eq]
  constructor
  · rintro ⟨e, ⟨mem, rfl, valued⟩, rfl⟩
    exact ⟨mem, valued⟩
  · rintro ⟨mem, valued⟩
    exact ⟨(code, r), ⟨mem, rfl, valued⟩, rfl⟩

/-- A reading of another code or without a value is not among them. -/
private theorem valuedOf_append_of_not (h : ¬(c = code ∧ r.value.isSome = true)) :
    valuedOf code (seen ++ [(c, r)]) = valuedOf code seen := by
  simp [valuedOf, List.filter_append, h]

/-- A reading of the code with a value is put behind them. -/
private theorem valuedOf_append_self (valued : r.value.isSome = true) :
    valuedOf code (seen ++ [(code, r)]) = valuedOf code seen ++ [r] := by
  simp [valuedOf, List.filter_append, valued]

end ValuedOf

namespace Latest

/-- The entries are the latest values of the readings that have been seen. -/
structure Tracks (seen : List (Text × Reading)) (latest : Latest) : Prop where
  nodup : (latest.map Prod.fst).Nodup
  absent : ∀ code, latest.find? code = none → valuedOf code seen = []
  present : ∀ code date x, latest.find? code = some (date, x) →
    IsFirstGreatest (fun r => r.date.key) (valuedOf code seen) ⟨date, some x⟩

/-- Before any reading there is no entry. -/
private theorem tracks_nil : Tracks [] [] where
  nodup := List.nodup_nil
  absent := fun _ _ => rfl
  present := fun _ _ _ found => by cases found

variable {seen : List (Text × Reading)} {latest next : Latest} {code : Text} {r : Reading}

/-- A reading without a value changes nothing. -/
private theorem Tracks.append_of_none (tracks : Tracks seen latest) (missing : r.value = none) :
    Tracks (seen ++ [(code, r)]) latest := by
  have same (c : Text) : valuedOf c (seen ++ [(code, r)]) = valuedOf c seen :=
    valuedOf_append_of_not (by simp [missing])
  exact { nodup := tracks.nodup
          absent := fun c none => by rw [same, tracks.absent c none]
          present := fun c date x found => by rw [same]; exact tracks.present c date x found }

/-- With the right entry for the code of a reading, and the others as they were, the entries keep up
with the reading. -/
theorem Tracks.append (tracks : Tracks seen latest) (nodup : (next.map Prod.fst).Nodup)
    (others : ∀ c, code ≠ c → next.find? c = latest.find? c) {date : Time.Moment} {x : Float}
    (own : next.find? code = some (date, x))
    (best : IsFirstGreatest (fun r => r.date.key) (valuedOf code (seen ++ [(code, r)]))
      ⟨date, some x⟩) :
    Tracks (seen ++ [(code, r)]) next where
  nodup := nodup
  absent := by
    intro c none
    -- The code of the reading has an entry now, and for others nothing has changed.
    by_cases isOwn : code = c
    · rw [← isOwn, own] at none
      cases none
    · rw [others c isOwn] at none
      rw [valuedOf_append_of_not fun h => isOwn h.1, tracks.absent c none]
  present := by
    intro c date' x' found
    by_cases isOwn : code = c
    · subst isOwn
      rw [own] at found
      obtain ⟨rfl, rfl⟩ := Prod.mk.inj (Option.some.inj found)
      exact best
    · rw [others c isOwn] at found
      rw [valuedOf_append_of_not fun h => isOwn h.1]
      exact tracks.present c date' x' found

/-- A reading whose value is put under its code as the latest one. -/
theorem Tracks.put (tracks : Tracks seen latest) {x : Float} (value : r.value = some x)
    (best : IsFirstGreatest (fun r => r.date.key) (valuedOf code seen ++ [r]) r) :
    Tracks (seen ++ [(code, r)]) (latest.put code (r.date, x)) := by
  -- The entry that is put is the one that is found.
  have own : (latest.put code (r.date, x)).find? code = some (r.date, x) := by
    rw [find?_put, if_pos rfl]
  refine tracks.append (nodup_codes_put tracks.nodup code _) (fun c other => ?_) own ?_
  · rw [find?_put, if_neg other]
  · rw [valuedOf_append_self (by rw [value]; rfl), ← value]
    exact best

/-- Where there is a value already, a reading replaces it if it is later. -/
private theorem add_of_find? {date : Time.Moment} {x x' : Float} (value : r.value = some x)
    (found : latest.find? code = some (date, x')) (kept : date.isAware = true)
    (own : r.date.isAware = true) :
    latest.add code r =
      .ok (if date.key < r.date.key then latest.put code (r.date, x) else latest) := by
  -- The dates can be compared, so that the comparison has a result.
  have compared := Time.Moment.lt?_of_aware kept own
  simp only [add, value, found, compared, orFault, bind, Except.bind, decide_eq_true_eq]
  split <;> rfl

/-- Readings whose dates have offsets can be compared, and the entries keep up with each of them. -/
theorem Tracks.add (tracks : Tracks seen latest)
    (aware : ∀ e ∈ seen ++ [(code, r)], e.2.date.isAware = true) :
    ∃ next, latest.add code r = .ok next ∧ Tracks (seen ++ [(code, r)]) next := by
  have own : r.date.isAware = true := aware (code, r) (by simp)
  -- Three cases: no value, the first value of its code, or another value of it.
  cases value : r.value with
  | none => exact ⟨latest, by rw [Latest.add, value], tracks.append_of_none value⟩
  | some x =>
    cases found : latest.find? code with
    | none =>
      refine ⟨latest.put code (r.date, x), by simp only [Latest.add, value, found], ?_⟩
      refine tracks.put value ?_
      rw [tracks.absent code found]
      exact IsFirstGreatest.singleton r
    | some kept =>
      obtain ⟨date, x'⟩ := kept
      have best := tracks.present code date x' found
      have keptAware : date.isAware = true :=
        aware (code, ⟨date, some x'⟩) (List.mem_append_left _ (mem_valuedOf.mp best.mem).1)
      refine ⟨_, add_of_find? value found keptAware own, ?_⟩
      -- The search among the readings of this code goes on with this one.
      have step := best.snoc r
      by_cases later : date.key < r.date.key
      · rw [if_pos later] at step ⊢
        exact tracks.put value step
      · rw [if_neg later] at step ⊢
        apply tracks.append tracks.nodup (fun _ _ => rfl) found
        rwa [valuedOf_append_self (by rw [value]; rfl)]

/-- There is an entry for each code that has been seen with a value. -/
theorem Tracks.mem_codes_iff (tracks : Tracks seen latest) (code : Text) :
    code ∈ latest.map Prod.fst ↔ valuedOf code seen ≠ [] := by
  -- Entries are found by their codes, so that a code is there if one is found.
  cases found : latest.find? code with
  | none =>
    have missing := find?_eq_none_iff.mp found
    exact iff_of_false missing fun some => some (tracks.absent code found)
  | some entry =>
    have there : code ∈ latest.map Prod.fst := by
      by_contra missing
      rw [find?_eq_none_iff.mpr missing] at found
      cases found
    have best := tracks.present code entry.1 entry.2 found
    exact iff_of_true there (List.ne_nil_of_mem best.mem)

/-- Readings whose dates have offsets can all be gone through. -/
private theorem exists_tracks (aware : ∀ e ∈ seen, e.2.date.isAware = true) :
    ∃ latest : Latest, seen.foldlM (fun latest e => Latest.add e.1 latest e.2) [] = .ok latest ∧
      Tracks seen latest := by
  -- Each reading is taken into account after the ones in front of it.
  induction seen using List.reverseRecOn with
  | nil => exact ⟨[], rfl, tracks_nil⟩
  | append_singleton seen e ih =>
    obtain ⟨latest, before, tracks⟩ := ih fun e' mem => aware e' (List.mem_append_left _ mem)
    obtain ⟨code, r⟩ := e
    obtain ⟨next, after, tracks'⟩ := tracks.add aware
    refine ⟨next, ?_, tracks'⟩
    rw [List.foldlM_append, before]
    simp [bind, Except.bind, pure, Except.pure, after]

end Latest

/-! ## All readings -/

/-- The readings of all sensors with a code, in order. -/
def readingsOf (code : Text) (sensors : List SensorSeries) : List Reading :=
  (sensors.filter fun s => s.code == code).flatMap SensorSeries.readings

/-- The readings of all sensors with a code that have a value, in order. -/
def valuedReadings (code : Text) (sensors : List SensorSeries) : List Reading :=
  (readingsOf code sensors).filter fun r => r.value.isSome

/-- The values are the latest ones of all codes for which there is a value: each is the value of the
first reading with the latest date, among the readings of all sensors with its code. -/
structure HasLatest (sensors : List SensorSeries) (values : List (Text × Float)) : Prop where
  nodup : (values.map Prod.fst).Nodup
  mem_codes : ∀ code, code ∈ values.map Prod.fst ↔
    ∃ s ∈ sensors, s.code = code ∧ ∃ r ∈ s.readings, r.value.isSome = true
  latest : ∀ code x, (code, x) ∈ values → ∃ date,
    IsFirstGreatest (fun r => r.date.key) (valuedReadings code sensors) ⟨date, some x⟩

section AllReadings

variable {sensors sensors' : List SensorSeries} {code : Text}

/-- The sensors are gone through as one list of readings. -/
private theorem latestValues_eq (sensors : List SensorSeries) :
    latestValues sensors =
      ((codedReadings sensors).foldlM (fun latest e => Latest.add e.1 latest e.2) []).map
        (List.map fun e => (e.1, e.2.2)) := by
  have flat (latest : Latest) :
      sensors.foldlM (fun acc s => s.readings.foldlM (Latest.add s.code) acc) latest =
        (codedReadings sensors).foldlM (fun latest e => Latest.add e.1 latest e.2) latest := by
    -- On the sensors, each of which goes on with what the ones before it have left.
    induction sensors generalizing latest with
    | nil => rfl
    | cons s sensors ih =>
      rw [codedReadings, List.flatMap_cons, List.foldlM_append, List.foldlM_cons, List.foldlM_map]
      exact congrArg _ (funext ih)
  rw [latestValues, flat]
  rfl

/-- Readings with the code of their sensor are those of the sensors with the code. -/
private theorem valuedOf_codedReadings (code : Text) (sensors : List SensorSeries) :
    valuedOf code (codedReadings sensors) = valuedReadings code sensors := by
  unfold valuedOf codedReadings valuedReadings readingsOf
  -- On the sensors: one with the code brings all of its readings, and another one brings none.
  induction sensors with
  | nil => rfl
  | cons s sensors ih =>
    rw [List.flatMap_cons, List.filter_append, List.map_append, ih]
    by_cases own : s.code = code
    · simp [own, List.filter_map, Function.comp_def]
    · simp [own]

/-- A code has a reading with a value if one of its sensors has one. -/
theorem exists_valued_iff : valuedReadings code sensors ≠ [] ↔
    ∃ s ∈ sensors, s.code = code ∧ ∃ r ∈ s.readings, r.value.isSome = true := by
  rw [ne_eq, List.eq_nil_iff_forall_not_mem, not_forall_not]
  simp only [valuedReadings, readingsOf, List.mem_filter, List.mem_flatMap, beq_iff_eq]
  constructor
  · rintro ⟨r, ⟨s, ⟨mem, own⟩, listed⟩, valued⟩
    exact ⟨s, mem, own, r, listed, valued⟩
  · rintro ⟨s, mem, own, r, listed, valued⟩
    exact ⟨r, ⟨s, ⟨mem, own⟩, listed⟩, valued⟩

/-- Where all dates have offsets, the latest values are found. -/
theorem exists_latestValues (aware : ∀ s ∈ sensors, ∀ r ∈ s.readings, r.date.isAware = true) :
    ∃ values, latestValues sensors = .ok values ∧ HasLatest sensors values := by
  -- Each reading in the one list is that of a sensor.
  have awareEach : ∀ e ∈ codedReadings sensors, e.2.date.isAware = true := by
    intro e mem
    obtain ⟨s, listed, mem⟩ := List.mem_flatMap.mp mem
    obtain ⟨r, there, rfl⟩ := List.mem_map.mp mem
    exact aware s listed r there
  obtain ⟨latest, folded, tracks⟩ := Latest.exists_tracks awareEach
  have codes : (latest.map fun e => (e.1, e.2.2)).map Prod.fst = latest.map Prod.fst := by
    rw [List.map_map]
    rfl
  -- The values are the entries without their dates.
  refine ⟨latest.map fun e => (e.1, e.2.2), by rw [latestValues_eq, folded]; rfl, ?_, ?_, ?_⟩
  · rw [codes]
    exact tracks.nodup
  · intro code
    rw [codes, ← exists_valued_iff, ← valuedOf_codedReadings]
    exact tracks.mem_codes_iff code
  · intro code x mem
    obtain ⟨⟨_, date, _⟩, there, same⟩ := List.mem_map.mp mem
    obtain ⟨rfl, rfl⟩ := Prod.mk.inj same
    rw [← valuedOf_codedReadings]
    exact ⟨date, tracks.present _ date _ (Latest.find?_of_mem tracks.nodup there)⟩

/-- Where the dates of a code are distinct, its value does not depend on the order of the
readings. -/
theorem HasLatest.mem_of_perm {values values' : List (Text × Float)} {x : Float}
    (h : HasLatest sensors values) (h' : HasLatest sensors' values')
    (perm : (valuedReadings code sensors).Perm (valuedReadings code sensors'))
    (distinct : DistinctKeys (fun r => r.date.key) (valuedReadings code sensors))
    (mem : (code, x) ∈ values) : (code, x) ∈ values' := by
  obtain ⟨date, best⟩ := h.latest code x mem
  have best' := best.perm distinct perm
  -- There is a reading in the other order as well, and so there is a value.
  have listed : code ∈ values'.map Prod.fst :=
    (h'.mem_codes code).mpr (exists_valued_iff.mp (List.ne_nil_of_mem best'.mem))
  obtain ⟨⟨_, x'⟩, mem', rfl⟩ := List.mem_map.mp listed
  obtain ⟨date', own⟩ := h'.latest _ x' mem'
  obtain ⟨rfl, same⟩ := Reading.mk.inj (best'.unique own)
  rwa [Option.some.inj same]

/-- The same sensors with the same readings, in any order. -/
def Reordered (sensors sensors' : List SensorSeries) : Prop :=
  ∃ listed, sensors.Perm listed ∧
    List.Forall₂ (fun s s' => s.code = s'.code ∧ s.readings.Perm s'.readings) listed sensors'

/-- The readings of a code are the same ones in another order. -/
private theorem Reordered.perm_readings (h : Reordered sensors sensors') (code : Text) :
    (readingsOf code sensors).Perm (readingsOf code sensors') := by
  obtain ⟨listed, perm, each⟩ := h
  -- First the sensors change places, and then each one's readings do.
  have moved : (readingsOf code sensors).Perm (readingsOf code listed) :=
    (perm.filter _).flatMap_right _
  refine moved.trans ?_
  clear moved perm
  unfold readingsOf
  -- On the sensors, which correspond in order and have the same codes.
  induction each with
  | nil => exact .nil
  | @cons s s' listed sensors' same _ ih =>
    by_cases own : s.code = code
    · have own' : s'.code = code := same.1 ▸ own
      simpa [own, own'] using same.2.append ih
    · have other : s'.code ≠ code := same.1 ▸ own
      simpa [own, other] using ih

/-- Each reading of the reordered sensors was there before. -/
theorem Reordered.mem (h : Reordered sensors sensors') {r : Reading} :
    (∃ s ∈ sensors', r ∈ s.readings) → ∃ s ∈ sensors, r ∈ s.readings := by
  rintro ⟨s', mem', there⟩
  have own : r ∈ readingsOf s'.code sensors' :=
    List.mem_flatMap.mpr ⟨s', List.mem_filter.mpr ⟨mem', by simp⟩, there⟩
  obtain ⟨s, mem, there⟩ := List.mem_flatMap.mp ((h.perm_readings s'.code).mem_iff.mpr own)
  exact ⟨s, (List.mem_filter.mp mem).1, there⟩

end AllReadings

namespace Feed

variable {c : Client}

/-! ## Readings of the feed -/

/-- What is made of a listed value has a date at UTC, and a value. -/
private theorem usable_of_readingOf? {v : Json} {r : Reading} (made : c.readingOf? v = .ok (some r)) :
    r.date.isAware = true ∧ r.value.isSome = true := by
  -- A reading is made in one case only, that of a number and a date that is read.
  unfold Client.readingOf? at made
  split at made
  · cases made
  · split at made
    · rename_i read
      obtain rfl := Option.some.inj (Except.ok.inj made)
      exact ⟨by rw [Time.Moment.isAware, Time.offset_of_readFeed read]; rfl, rfl⟩
    · cases made
    · cases made
  · cases made

/-- The readings of a sensor have dates at UTC, and values. -/
private theorem usable_of_series {sensorId : Int} {readings : List Reading}
    (come : c.series sensorId = .ok readings) :
    ∀ r ∈ readings, r.date.isAware = true ∧ r.value.isSome = true := by
  intro r mem
  obtain ⟨root, _, found⟩ := bind_eq_ok_iff.mp come
  obtain ⟨container, _, found⟩ := bind_eq_ok_iff.mp found
  -- Only a list has readings, whatever the container is.
  split at found
  · obtain ⟨each, made, same⟩ := bind_eq_ok_iff.mp found
    obtain rfl := Except.ok.inj same
    obtain ⟨_, there, rfl⟩ := List.mem_filterMap.mp mem
    obtain ⟨v, _, made⟩ := exists_of_mem_mapM made there
    exact usable_of_readingOf? made
  · obtain rfl := Except.ok.inj found
    cases mem

/-- The readings of a station all have dates at UTC, and values. -/
private theorem usable_of_measurements {stationId : Int} {sensors : List SensorSeries}
    (come : (c.measurements stationId).run.value = .ok sensors) :
    ∀ s ∈ sensors, ∀ r ∈ s.readings, r.date.isAware = true ∧ r.value.isSome = true := by
  intro s mem r there
  rw [value_measurements] at come
  obtain rfl := Except.ok.inj come
  obtain ⟨l, _, entry⟩ := List.mem_filterMap.mp mem
  obtain ⟨id, _, rfl⟩ := Option.map_eq_some_iff.mp entry
  cases series : c.series id with
  | error fault => simp [series, Except.toOption] at there
  | ok readings =>
    simp only [series, Except.toOption, Option.getD_some] at there
    exact usable_of_series series r there

/-- Whatever comes back for a station, the latest values of its pollutants are found. Every reading
has a value and a date with an offset; there is a value for each code that has a reading, and it is
that of the first reading with the latest date among all readings of all sensors with the code. If
the dates of a code are distinct, then its value is the same for any order of the sensors and of
their readings. -/
theorem latest_of_measurements (c : Client) (stationId : Int) :
    ∃ sensors values, (c.measurements stationId).run.value = .ok sensors ∧
      (∀ s ∈ sensors, ∀ r ∈ s.readings, r.date.isAware = true ∧ r.value.isSome = true) ∧
      latestValues sensors = .ok values ∧ HasLatest sensors values ∧
      (∀ code, valuedReadings code sensors = readingsOf code sensors) ∧
      ∀ sensors', Reordered sensors sensors' →
        ∃ values', latestValues sensors' = .ok values' ∧ HasLatest sensors' values' ∧
          ∀ code, DistinctKeys (fun r => r.date.key) (readingsOf code sensors) →
            ∀ x, (code, x) ∈ values' ↔ (code, x) ∈ values := by
  have usable := usable_of_measurements (value_measurements (c := c) stationId)
  obtain ⟨values, found, latest⟩ := exists_latestValues fun s mem r there => (usable s mem r there).1
  -- No reading is without a value, so that leaving those out changes nothing.
  have valued (code : Text) : valuedReadings code ((c.listed stationId).filterMap c.entryOf?) =
      readingsOf code ((c.listed stationId).filterMap c.entryOf?) := by
    refine List.filter_eq_self.mpr fun r mem => ?_
    obtain ⟨s, own, there⟩ := List.mem_flatMap.mp mem
    exact (usable s (List.mem_filter.mp own).1 r there).2
  refine ⟨_, values, value_measurements stationId, usable, found, latest, valued, ?_⟩
  intro sensors' reordered
  have aware' : ∀ s ∈ sensors', ∀ r ∈ s.readings, r.date.isAware = true := by
    intro s' mem' r there'
    obtain ⟨s, mem, there⟩ := reordered.mem ⟨s', mem', there'⟩
    exact (usable s mem r there).1
  obtain ⟨values', found', latest'⟩ := exists_latestValues aware'
  refine ⟨values', found', latest', fun code distinct x => ?_⟩
  -- In the other order the readings of a code are a permutation.
  have perm := (reordered.perm_readings code).filter fun r => r.value.isSome
  rw [← valued code] at distinct
  exact ⟨latest'.mem_of_perm latest perm.symm (distinct.perm perm),
    latest.mem_of_perm latest' perm distinct⟩

/-- A feed with two sensors of one pollutant, the first of which has the later reading. -/
def twoOfOneKind (path : String) : Response :=
  let reading (time : String) : Response := .answer 200 (("\x7b\"values\": [\x7b\"date\": " ++
    "\"2026-07-15 " ++ time ++ "\", \"value\": 1\x7d]\x7d").toUTF8.toList)
  if path = Client.sensorsPath 1 then
    .answer 200 ("[\x7b\"id\": 9, \"paramCode\": \"PM10\"\x7d, " ++
      "\x7b\"id\": 10, \"paramCode\": \"PM10\"\x7d]").toUTF8.toList
  else if path = Client.dataPath 9 then reading "12:00:00"
  else reading "11:00:00"

/-- Two sensors of one pollutant have one latest value, whichever of them comes first. -/
theorem latest_of_twoOfOneKind :
    ∃ sensors values values',
      (((ofSensorData "").withFetch twoOfOneKind).measurements 1).run.value = .ok sensors ∧
      sensors.map SensorSeries.sensorId = [9, 10] ∧ Reordered sensors sensors.reverse ∧
      DistinctKeys (fun r => r.date.key) (readingsOf "PM10" sensors) ∧
      latestValues sensors = .ok values ∧ latestValues sensors.reverse = .ok values' ∧
      (∃ x, (Text.ofString "PM10", x) ∈ values) ∧
      ∀ x, (Text.ofString "PM10", x) ∈ values' ↔ (Text.ofString "PM10", x) ∈ values := by
  obtain ⟨sensors, values, run, _, found, latest, _, anyOrder⟩ :=
    latest_of_measurements ((ofSensorData "").withFetch twoOfOneKind) 1
  -- Reversing is one of the orders.
  have reversed : Reordered sensors sensors.reverse :=
    ⟨sensors.reverse, (List.reverse_perm sensors).symm,
      List.forall₂_same.mpr fun _ _ => ⟨rfl, List.Perm.refl _⟩⟩
  obtain ⟨values', found', _, same⟩ := anyOrder sensors.reverse reversed
  obtain ⟨ids, distinct, listed⟩ : sensors.map SensorSeries.sensorId = [9, 10] ∧
      DistinctKeys (fun r => r.date.key) (readingsOf "PM10" sensors) ∧
      ∃ s ∈ sensors, s.code = "PM10" ∧ ∃ r ∈ s.readings, r.value.isSome = true := by
    rw [Except.ok.inj (run.symm.trans (value_measurements 1))]
    decide +kernel
  obtain ⟨⟨_, x⟩, mem, rfl⟩ := List.mem_map.mp ((latest.mem_codes "PM10").mpr listed)
  exact ⟨sensors, values, values', run, ids, reversed, distinct, found, found', ⟨x, mem⟩,
    same _ distinct⟩

end Feed

end AirQuality
