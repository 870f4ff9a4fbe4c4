import AirQuality.Proofs.Ranking.Dense

/-!
# Content of a ranking

The windows of all stations are filled in one pass over their measurements, however these are mixed,
and then they are sorted, numbered and cut off. An entry of the ranking still says what the
measurements of its own station say, and nothing is lost or listed twice on the way.

## Key results

- `isSome_averageOf_iff`: a station has an average if it has a value
- `describes_ofWindow`: what an entry says of the measurements of its station
- `ranking_content`: which stations are ranked, what their entries say, and how a limit cuts them off
-/

namespace AirQuality

/-- The score for some values of PM10 and some of PM2.5: the mean of both averages, or the one that
there is. An average is the sum of the values over their count. -/
inductive IsScore : List Float → List Float → Option Float → Prop where
  | both {xs ys : List Float} (somePm10 : xs ≠ []) (somePm25 : ys ≠ []) :
      IsScore xs ys (some ((sumOverCount xs + sumOverCount ys) / 2.0))
  | onlyPm10 {xs : List Float} (somePm10 : xs ≠ []) : IsScore xs [] (some (sumOverCount xs))
  | onlyPm25 {ys : List Float} (somePm25 : ys ≠ []) : IsScore [] ys (some (sumOverCount ys))

/-- What an entry says of the measurements of its station: how many there are, the name in the first
of them, the first level, and the score of the values that are there. -/
structure RankEntry.Describes (e : RankEntry) (own : List Measurement) : Prop where
  count_eq : e.count = own.length
  name_eq : own.head?.map (·.stationName) = some e.station.name
  level_eq : e.dominantLevel = own.findSome? fun m => m.levels.overall
  score : IsScore (own.filterMap (·.values.pm10)) (own.filterMap (·.values.pm25)) e.averageScore

/-- A window with a score has the one of its values. -/
private theorem isScore_of_isSome {w : Window} (scored : w.score?.isSome = true) :
    IsScore w.pm10 w.pm25 w.score? := by
  rw [Window.score?, mean?_eq, mean?_eq] at scored ⊢
  -- An average is missing exactly if there are no values.
  cases first : w.pm10 with
  | nil =>
    cases second : w.pm25 with
    | nil =>
      rw [first, second] at scored
      cases scored
    | cons y ys => exact .onlyPm25 (List.cons_ne_nil y ys)
  | cons x xs =>
    cases second : w.pm25 with
    | nil => exact .onlyPm10 (List.cons_ne_nil x xs)
    | cons y ys => exact .both (List.cons_ne_nil x xs) (List.cons_ne_nil y ys)

/-- The entry of a window describes the measurements that add up to the window. -/
theorem describes_ofWindow {own : List Measurement} {w : Window}
    (window : Window.ofMeasurements? own = some w) (scored : w.score?.isSome = true) (rank : Nat) :
    (RankEntry.ofWindow rank w).Describes own := by
  -- The score is looked at before the window is opened.
  have score := isScore_of_isSome scored
  cases own with
  | nil => cases window
  | cons m own =>
    obtain rfl := Option.some.inj window
    exact { count_eq := rfl, name_eq := rfl, level_eq := rfl, score := score }

/-- A station has an average of a pollutant if one of its measurements has a value of it. -/
theorem isSome_averageOf_iff {ms : List Measurement} {id : Int} {p : Pollutant} :
    (averageOf ms id p).isSome = true ↔
      ∃ m ∈ ms, m.stationId = id ∧ (m.values.get p).isSome = true := by
  -- There is an average exactly if there are values.
  have isSome_average : (averageOf ms id p).isSome = true ↔ valuesOf ms id p ≠ [] := by
    rw [averageOf]
    cases valuesOf ms id p with
    | nil => simp
    | cons x xs => simp
  rw [isSome_average, valuesOf, ne_eq, List.filterMap_eq_nil_iff]
  simp [List.mem_filter, Option.isSome_iff_ne_none]

/-- There is one entry for each station that has a value of PM10 or of PM2.5, and none for any
other. -/
private theorem countP_rank (ms : List Measurement) (id : Int) :
    (rank ms).countP (fun e => e.station.id == id) =
      if ∃ m ∈ ms, m.stationId = id ∧ (m.values.pm10.isSome ∨ m.values.pm25.isSome) then 1
      else 0 := by
  -- Listed is what has an average, and that is what has a value.
  have listed : id ∈ (rank ms).map (·.station.id) ↔
      ∃ m ∈ ms, m.stationId = id ∧ (m.values.pm10.isSome ∨ m.values.pm25.isSome) := by
    rw [mem_map_id_rank, isSome_averageOf_iff, isSome_averageOf_iff]
    simp only [Concentrations.get, and_or_left, exists_or]
  have counted : (rank ms).countP (fun e => e.station.id == id) =
      ((rank ms).map (·.station.id)).count id := by
    rw [List.count, List.countP_map]
    rfl
  rw [counted]
  -- No station is listed twice, so it is enough to know which ones are listed.
  by_cases measured : ∃ m ∈ ms, m.stationId = id ∧ (m.values.pm10.isSome ∨ m.values.pm25.isSome)
  · rw [if_pos measured]
    exact List.count_eq_one_of_mem (nodup_map_id_rank ms) (listed.mpr measured)
  · rw [if_neg measured]
    exact List.count_eq_zero.mpr (listed.not.mpr measured)

/-- An entry of the ranking describes the measurements of its station, whatever lies between
them. -/
private theorem describes_of_mem_rank {ms : List Measurement} {e : RankEntry} (mem : e ∈ rank ms) :
    e.Describes (ms.filter fun m => m.stationId == e.station.id) := by
  obtain ⟨w, collected, scored, r, rfl⟩ := exists_window_of_mem_rank mem
  exact describes_ofWindow (Window.ofMeasurements?_of_mem_collect collected) scored r

/-- A limit keeps as many of the first entries of the whole ranking as it says, none if it is
negative and all of them if there are no more, and it leaves the entries as they are. The whole
ranking has one entry for each station with a value of PM10 or of PM2.5 and none for any other, and
each entry says what the measurements of its station say. -/
theorem ranking_content (ms : List Measurement) (limit : Int) :
    rankUpTo limit ms <+: rank ms ∧
      ((rankUpTo limit ms).length : Int) = min (max limit 0) (rank ms).length ∧
      (∀ id, (rank ms).countP (fun e => e.station.id == id) =
        if ∃ m ∈ ms, m.stationId = id ∧ (m.values.pm10.isSome ∨ m.values.pm25.isSome) then 1
        else 0) ∧
      ∀ e ∈ rank ms, e.Describes (ms.filter fun m => m.stationId == e.station.id) := by
  refine ⟨List.take_prefix _ _, ?_, countP_rank ms, fun _ => describes_of_mem_rank⟩
  -- As many as there are, but no more than the limit, and none below zero
  rw [rankUpTo, List.length_take]
  omega

/-- A station that is measured twice, with others in between, is ranked with the average of both
values of PM10 and the only one of PM2.5. A station without values is not ranked. A limit of one
leaves the first entry, and a negative one none. -/
theorem ranking_content_mixedDust :
    (rankUpTo 1 mixedDust).length = 1 ∧ rankUpTo (-1) mixedDust = [] ∧
    (∃ e ∈ rank mixedDust, e.station.id = 4 ∧ e.count = 2 ∧ e.averageScore = some 4.5) ∧
    ∀ e ∈ rank mixedDust, e.station.id ≠ 3 := by
  -- The ranking is cut off at one entry and at none.
  obtain ⟨-, one, listed, describes⟩ := ranking_content mixedDust 1
  obtain ⟨-, nothing, -, -⟩ := ranking_content mixedDust (-1)
  have values : ∃ m ∈ mixedDust, m.stationId = 4 ∧
      (m.values.pm10.isSome ∨ m.values.pm25.isSome) := by decide
  have four := listed 4
  rw [if_pos values] at four
  -- There is exactly one entry for the station with two measurements.
  obtain ⟨e, mem, own⟩ := List.countP_pos_iff.mp (Nat.lt_of_lt_of_eq Nat.zero_lt_one four.symm)
  have own : e.station.id = 4 := by simpa using own
  have pos := List.length_pos_of_mem mem
  refine ⟨by omega, List.length_eq_zero_iff.mp (by omega), ⟨e, mem, own, ?_⟩, fun e' mem' other => ?_⟩
  -- The averages are two and seven.
  · have entry := describes e mem
    rw [own, show (mixedDust.filter fun m => m.stationId == 4) =
      [dustOf 4 (some 1) (some 7), dustOf 4 (some 3) none] from rfl] at entry
    have averages : (sumOverCount [1, 3] + sumOverCount [7]) / 2.0 = 4.5 := by decide +kernel
    have score : IsScore [1, 3] [7] e.averageScore := entry.score
    refine ⟨entry.count_eq, ?_⟩
    rw [← averages]
    generalize e.averageScore = answer at score
    cases score with
    | both => rfl
  · have three := listed 3
    rw [if_neg (by decide), List.countP_eq_zero] at three
    exact three e' mem' (by simpa using other)

end AirQuality
