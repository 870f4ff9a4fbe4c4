import AirQuality.Proofs.Ranking.Windows
import AirQuality.Proofs.Store.Ranges

/-!
# Ranking, statistics and history

The ranking of a range sorts the measurements of all stations newest first, then oldest first, and
groups them; the statistics of a station look at its own measurements, sorted once. Both come to the
same: each entry of the ranking is what the statistics and the history of its station say.

## Key results

- `Statistics.of?_eq_some_of_window`: statistics and window of the same measurements
- `ranking?_eq_ok_iff`: the ranking is that of the measurements in the range, oldest first
- `ranking_agrees`: the entries of the ranking, and which stations have one
-/

namespace AirQuality

open Time (Moment)

/-! ## Statistics and windows -/

/-- The average of a summary is the mean of its values. -/
private theorem Summary.map_avg_of? (xs : List Float) :
    (Summary.of? xs).map Summary.avg = mean? xs := by
  cases xs <;> rfl

/-- The mean of the averages of PM10 and PM2.5, or the one that there is. -/
def Statistics.meanAverage? (s : Statistics) : Option Float :=
  match s.pm10, s.pm25 with
  | some a, some b => some ((a.avg + b.avg) / 2.0)
  | some a, none => some a.avg
  | none, some b => some b.avg
  | none, none => none

/-- There is a mean if one of the averages is there. -/
theorem Statistics.isSome_meanAverage?_iff {s : Statistics} :
    s.meanAverage?.isSome = true ↔ s.pm10.isSome = true ∨ s.pm25.isSome = true := by
  unfold meanAverage?
  cases s.pm10 <;> cases s.pm25 <;> simp

/-- The statistics of some measurements say the same as their window. -/
theorem Statistics.of?_eq_some_of_window {ms : List Measurement} {w : Window}
    (h : Window.ofMeasurements? ms = some w) (id : Int) (start stop : Moment) :
    ∃ s, Statistics.of? id start stop ms = some s ∧ s.count = w.count ∧ s.count = ms.length ∧
      s.stationName = w.stationName ∧ s.meanAverage? = w.score? ∧
      w.level = ms.findSome? fun m => m.levels.overall := by
  -- There is a window, so there is a first measurement.
  cases ms with
  | nil => cases h
  | cons m ms =>
    obtain rfl := Option.some.inj h
    refine ⟨_, rfl, rfl, rfl, rfl, ?_, rfl⟩
    simp only [meanAverage?, Window.score?, ← Summary.map_avg_of?]
    cases Summary.of? (present (m :: ms) .pm10) <;> cases Summary.of? (present (m :: ms) .pm25) <;>
      rfl

/-! ## Entries of a ranking -/

/-- Whether an entry of a ranking says what the statistics and the history of its station say. -/
structure RankEntry.Agrees (e : RankEntry) (s : Statistics) (history : List Measurement) : Prop where
  count_eq : e.count = s.count
  length_eq : e.count = history.length
  name_eq : e.station.name = s.stationName
  scored : e.averageScore.isSome = true
  score_eq : e.averageScore = s.meanAverage?
  level_eq : e.dominantLevel = history.findSome? fun m => m.levels.overall

/-- Numbering windows makes an entry of each. -/
private theorem forall₂_assignRanks (rank : Nat) (last : Option AverageKey) (ws : List Window) :
    List.Forall₂ (fun e w => ∃ r, e = RankEntry.ofWindow r w) (assignRanks rank last ws) ws := by
  -- Each window is numbered on its own, whatever the rank is.
  induction ws generalizing rank last with
  | nil => exact .nil
  | cons w ws ih => exact .cons ⟨_, rfl⟩ (ih _ _)

/-- The windows that are ranked, in the order of the ranking. -/
def rankedWindows (ms : List Measurement) : List Window :=
  Order.sort (fun w => (AverageKey.ofWindow w).compares)
    (fun v w => (AverageKey.ofWindow v).lt (AverageKey.ofWindow w))
    ((Window.collect ms).filter fun w => w.score?.isSome)

/-- Sorting does not change which windows are ranked. -/
theorem rankedWindows_perm (ms : List Measurement) :
    (rankedWindows ms).Perm ((Window.collect ms).filter fun w => w.score?.isSome) :=
  Order.sort_perm _ _ _

/-- There is an entry for each ranked window, in the same order. -/
private theorem forall₂_rank (ms : List Measurement) :
    List.Forall₂ (fun e w => ∃ r, e = RankEntry.ofWindow r w) (rank ms) (rankedWindows ms) :=
  forall₂_assignRanks 0 none (rankedWindows ms)

/-- The stations of the ranking are those of the ranked windows. -/
theorem map_id_rank (ms : List Measurement) :
    (rank ms).map (fun e => e.station.id) = Window.stations (rankedWindows ms) := by
  -- Entry by entry, each has the station of its window.
  have entries := forall₂_rank ms
  generalize rank ms = es at entries
  generalize rankedWindows ms = ws at entries ⊢
  induction entries with
  | nil => rfl
  | cons head _ ih =>
    obtain ⟨r, rfl⟩ := head
    rw [List.map_cons, ih]
    rfl

/-- An entry of the ranking is made of a window with an average. -/
theorem exists_window_of_mem_rank {ms : List Measurement} {e : RankEntry} (mem : e ∈ rank ms) :
    ∃ w ∈ Window.collect ms, w.score?.isSome = true ∧ ∃ r, e = RankEntry.ofWindow r w := by
  -- The entry and its window stand at the same position.
  obtain ⟨i, hi, rfl⟩ := List.mem_iff_getElem.mp mem
  have entries := forall₂_rank ms
  have hi' : i < (rankedWindows ms).length := entries.length_eq ▸ hi
  obtain ⟨r, eq⟩ := entries.get hi hi'
  have ranked : (rankedWindows ms)[i] ∈ rankedWindows ms := List.getElem_mem hi'
  obtain ⟨collected, scored⟩ := List.mem_filter.mp ((rankedWindows_perm ms).mem_iff.mp ranked)
  exact ⟨_, collected, scored, r, eq⟩

/-- No station is ranked twice. -/
theorem nodup_map_id_rank (ms : List Measurement) :
    ((rank ms).map fun e => e.station.id).Nodup := by
  -- The stations of the entries are those of the windows in another order.
  rw [map_id_rank]
  have unique : (Window.stations ((Window.collect ms).filter fun w => w.score?.isSome)).Nodup :=
    (List.filter_sublist.map Window.stationId).nodup (Window.nodup_stations_collect ms)
  exact ((rankedWindows_perm ms).map Window.stationId).nodup_iff.mpr unique

/-- The ranking has one entry for a station with an average. -/
private theorem count_rank {ms : List Measurement} {w : Window} (mem : w ∈ Window.collect ms)
    (scored : w.score?.isSome = true) :
    (rank ms).countP (fun e => e.station.id == w.stationId) = 1 := by
  -- Its station is listed, and none is listed twice.
  have listed : w.stationId ∈ (rank ms).map fun e => e.station.id := by
    rw [map_id_rank, Window.stations, ((rankedWindows_perm ms).map Window.stationId).mem_iff]
    exact List.mem_map_of_mem (List.mem_filter.mpr ⟨mem, scored⟩)
  have once := List.count_eq_one_of_mem (nodup_map_id_rank ms) listed
  rwa [List.count, List.countP_map] at once

/-- There are no more entries than windows. -/
theorem length_rank_le (ms : List Measurement) : (rank ms).length ≤ (Window.collect ms).length := by
  calc (rank ms).length = (rankedWindows ms).length := (forall₂_rank ms).length_eq
    _ = ((Window.collect ms).filter fun w => w.score?.isSome).length :=
      (rankedWindows_perm ms).length_eq
    _ ≤ (Window.collect ms).length := List.length_filter_le _ _

namespace History

/-! ## Questions about one range -/

/-- The measurements of a station that are dated in a range, oldest first. -/
def historyOf (h : History) (id : Int) (start stop : Moment) : List Measurement :=
  sortByDate ((h.recordsOf id).filter (·.isWithin start stop))

/-- The measurements of all stations that are dated in a range, oldest first. -/
def historyOfAll (h : History) (start stop : Moment) : List Measurement :=
  sortByDate (h.records.filter (·.isWithin start stop))

/-- Sorting all stations together sorts each of them. -/
private theorem filter_historyOfAll (h : History) (id : Int) (start stop : Moment) :
    (h.historyOfAll start stop).filter (fun m => m.stationId == id) =
      h.historyOf id start stop := by
  rw [historyOfAll, filter_sortByDate, List.filter_comm]
  rfl

/-- The ranking is that of the measurements in the range, oldest first: that they were sorted newest
first before does not show. -/
theorem ranking?_eq_ok_iff {h : History} {start stop : Moment} {limit : Int}
    {entries : List RankEntry} :
    h.ranking? start stop limit = .ok entries ↔
      (∀ m ∈ h.records, inRange start stop m.date = .ok (m.isWithin start stop)) ∧
        entries = rankUpTo limit (h.historyOfAll start stop) := by
  simp only [ranking?, map_eq_ok_iff, between?_eq_ok_iff]
  -- Sorted twice, oldest first in the end
  constructor
  · rintro ⟨_, ⟨answered, rfl⟩, rfl⟩
    rw [sortByDate_sortByDateDescending]
    exact ⟨answered, rfl⟩
  · rintro ⟨answered, rfl⟩
    refine ⟨_, ⟨answered, rfl⟩, ?_⟩
    rw [sortByDate_sortByDateDescending]
    rfl

/-- If all dates can be placed, those of one station can. -/
private theorem ofStation?_of_answered {h : History} {start stop : Moment}
    (answered : ∀ m ∈ h.records, inRange start stop m.date = .ok (m.isWithin start stop))
    (id : Int) : h.ofStation? id start stop = .ok (h.historyOf id start stop) :=
  ofStation?_eq_ok_iff.mpr ⟨fun m hm => answered m (List.mem_filter.mp hm).1, rfl⟩

/-- Statistics are made of what the query for a station answers. -/
theorem statistics?_eq_ok_iff {h : History} {id : Int} {start stop : Moment}
    {answer : Option Statistics} :
    h.statistics? id start stop = .ok answer ↔
      ∃ history, h.ofStation? id start stop = .ok history ∧
        Statistics.of? id start stop history = answer :=
  map_eq_ok_iff

/-- A range that is known to hold a date with an offset has offsets itself. -/
private theorem aware_of_isWithin {m : Measurement} (aware : m.date.isAware = true)
    {start stop : Moment} (within : m.isWithin start stop = true) :
    start.isAware = true ∧ stop.isAware = true := by
  -- Both comparisons gave an answer, so the bounds and the date are of one kind.
  simp only [Measurement.isWithin, Measurement.isSince, Bool.and_eq_true, beq_iff_eq] at within
  have first : start.comparable m.date = true := by
    rw [← Moment.le?_isSome_iff, within.1]
    rfl
  have last : m.date.comparable stop = true := by
    rw [← Moment.le?_isSome_iff, within.2]
    rfl
  simp only [Moment.comparable, aware, beq_iff_eq] at first last
  exact ⟨first, last.symm⟩

/-- Statistics over dates with offsets exist only for a range with offsets. -/
private theorem aware_of_statistics {h : History} (aware : ∀ m ∈ h.records, m.date.isAware = true)
    {id : Int} {start stop : Moment} {s : Statistics}
    (exist : h.statistics? id start stop = .ok (some s)) :
    start.isAware = true ∧ stop.isAware = true := by
  obtain ⟨history, found, some⟩ := statistics?_eq_ok_iff.mp exist
  obtain ⟨_, rfl⟩ := ofStation?_eq_ok_iff.mp found
  -- There are statistics, and so there is a measurement in the range.
  cases listed : sortByDate ((h.recordsOf id).filter (·.isWithin start stop)) with
  | nil =>
    rw [listed] at some
    cases some
  | cons m ms =>
    have mem : m ∈ (h.recordsOf id).filter (·.isWithin start stop) := by
      rw [← (sortByDate_perm _).mem_iff, listed]
      exact List.mem_cons_self
    obtain ⟨own, within⟩ := List.mem_filter.mp mem
    exact aware_of_isWithin (aware m (List.mem_filter.mp own).1) within

/-- An entry of the ranking agrees with the statistics and the history of its station. -/
private theorem exists_agreement {h : History} {start stop : Moment} {limit : Int}
    {entries : List RankEntry} (ranked : h.ranking? start stop limit = .ok entries) {e : RankEntry}
    (mem : e ∈ entries) :
    ∃ s history, h.statistics? e.station.id start stop = .ok (some s) ∧
      h.ofStation? e.station.id start stop = .ok history ∧ e.Agrees s history := by
  obtain ⟨answered, rfl⟩ := ranking?_eq_ok_iff.mp ranked
  obtain ⟨w, collected, scored, r, rfl⟩ := exists_window_of_mem_rank (List.mem_of_mem_take mem)
  -- The window adds up the history of the station, which is what the statistics look at.
  have window := Window.ofMeasurements?_of_mem_collect collected
  rw [filter_historyOfAll] at window
  obtain ⟨s, exist, count, length, name, score, level⟩ :=
    Statistics.of?_eq_some_of_window window w.stationId start stop
  have found := ofStation?_of_answered answered w.stationId
  refine ⟨s, h.historyOf w.stationId start stop, ?_, found, ?_⟩
  · exact statistics?_eq_ok_iff.mpr ⟨_, found, exist⟩
  · exact ⟨count.symm, count.symm.trans length, name.symm, scored, score.symm, level⟩

/-- A station with an average has one entry in a ranking that is long enough. -/
private theorem countP_ranking {h : History} (aware : ∀ m ∈ h.records, m.date.isAware = true)
    {start stop : Moment} {limit : Int}
    (long : ((h.records.map (·.stationId)).dedup.length : Int) ≤ limit) {id : Int} {s : Statistics}
    (exist : h.statistics? id start stop = .ok (some s))
    (average : s.pm10.isSome = true ∨ s.pm25.isSome = true) :
    ∃ entries, h.ranking? start stop limit = .ok entries ∧
      entries.countP (fun e => e.station.id == id) = 1 := by
  obtain ⟨first, last⟩ := aware_of_statistics aware exist
  have answered : ∀ m ∈ h.records, inRange start stop m.date = .ok (m.isWithin start stop) :=
    fun m hm => inRange_of_aware first last (aware m hm)
  refine ⟨_, ranking?_eq_ok_iff.mpr ⟨answered, rfl⟩, ?_⟩
  -- All entries are within the limit.
  have all : (rank (h.historyOfAll start stop)).length ≤ limit.toNat := by
    have windows : (Window.collect (h.historyOfAll start stop)).length ≤
        (h.records.map (·.stationId)).dedup.length := by
      refine Window.length_collect_le fun m hm => List.mem_map_of_mem ?_
      exact (List.mem_filter.mp ((sortByDate_perm _).mem_iff.mp hm)).1
    have entries := length_rank_le (h.historyOfAll start stop)
    omega
  rw [rankUpTo, List.take_of_length_le all]
  -- The statistics are made of the same measurements as the window of the station.
  obtain ⟨history, found, some⟩ := statistics?_eq_ok_iff.mp exist
  obtain ⟨_, rfl⟩ := ofStation?_eq_ok_iff.mp found
  change Statistics.of? id start stop (h.historyOf id start stop) = _ at some
  cases window : Window.ofMeasurements? (h.historyOf id start stop) with
  | none =>
    rw [Window.ofMeasurements?_eq_none_iff.mp window] at some
    cases some
  | some w =>
    obtain ⟨s', exist', _, _, _, score, _⟩ :=
      Statistics.of?_eq_some_of_window window id start stop
    obtain rfl : s' = s := Option.some.inj (exist'.symm.trans some)
    have scored : w.score?.isSome = true := by
      rw [← score]
      exact Statistics.isSome_meanAverage?_iff.mpr average
    -- The window of the station is the one that the statistics agree with.
    have ofStation : Window.ofStation? id (Window.collect (h.historyOfAll start stop)) = w := by
      rw [Window.ofStation?_collect, filter_historyOfAll, window]
    have collected := List.mem_of_find?_eq_some ofStation
    have own : w.stationId = id := by simpa using List.find?_some ofStation
    rw [← own]
    exact count_rank collected scored

/-- Ranking, statistics and history of a range agree. The ranking of a range with offsets exists.
Each of its entries says what the statistics and the history of its station say. If the limit leaves
room for all stations of the history, each station with an average of PM10 or of PM2.5 has one
entry. -/
theorem ranking_agrees {h : History} (aware : ∀ m ∈ h.records, m.date.isAware = true)
    (start stop : Moment) (limit : Int) :
    (start.isAware = true → stop.isAware = true →
      ∃ entries, h.ranking? start stop limit = .ok entries) ∧
    (∀ entries, h.ranking? start stop limit = .ok entries → ∀ e ∈ entries, ∃ s history,
      h.statistics? e.station.id start stop = .ok (some s) ∧
      h.ofStation? e.station.id start stop = .ok history ∧ e.Agrees s history) ∧
    (((h.records.map (·.stationId)).dedup.length : Int) ≤ limit → ∀ id s,
      h.statistics? id start stop = .ok (some s) → s.pm10.isSome = true ∨ s.pm25.isSome = true →
      ∃ entries, h.ranking? start stop limit = .ok entries ∧
        entries.countP (fun e => e.station.id == id) = 1) := by
  refine ⟨fun first last => ?_, fun entries ranked e mem => ?_, fun long id s exist average => ?_⟩
  -- With offsets all around, every date can be placed.
  · have answered : ∀ m ∈ h.records, inRange start stop m.date = .ok (m.isWithin start stop) :=
      fun m hm => inRange_of_aware first last (aware m hm)
    exact ⟨_, ranking?_eq_ok_iff.mpr ⟨answered, rfl⟩⟩
  · exact exists_agreement ranked mem
  · exact countP_ranking aware long exist average

/-- A measurement of PM10 alone. -/
def dust (id : Int) (date : Moment) (x : Float) : Measurement :=
  .ofLive date id none ⟨id, date, none, none, none, none⟩ [("PM10", x)]

/-- Measurements of two stations, one of which was measured twice. -/
def dusty : History := ⟨[dust 1 (noonOfMay 0) 8, dust 2 (noonOfMay 1) 30, dust 1 (noonOfMay 2) 12], 0⟩

/-- Of two stations with averages, each has an entry in a ranking of two. -/
theorem ranking_agrees_dusty :
    (∀ m ∈ dusty.records, m.date.isAware = true) ∧
    (noonOfMay 0).isAware = true ∧ (noonOfMay 8).isAware = true ∧
    ((dusty.records.map (·.stationId)).dedup.length : Int) ≤ 2 ∧
    ∃ entries s, dusty.ranking? (noonOfMay 0) (noonOfMay 8) 2 = .ok entries ∧
      dusty.statistics? 1 (noonOfMay 0) (noonOfMay 8) = .ok (some s) ∧ s.pm10.isSome = true ∧
      s.count = 2 ∧ entries.countP (fun e => e.station.id == 1) = 1 ∧
      ∀ e ∈ entries, ∃ s history,
        dusty.statistics? e.station.id (noonOfMay 0) (noonOfMay 8) = .ok (some s) ∧
        dusty.ofStation? e.station.id (noonOfMay 0) (noonOfMay 8) = .ok history ∧
        e.Agrees s history := by
  have aware : ∀ m ∈ dusty.records, m.date.isAware = true := by
    simp [dusty, dust, Measurement.ofLive, noonOfMay, Moment.isAware]
  have room : ((dusty.records.map (·.stationId)).dedup.length : Int) ≤ 2 := by decide
  -- The two measurements of the station are in order as they are.
  have sorted : sortByDate [dust 1 (noonOfMay 0) 8, dust 1 (noonOfMay 2) 12] =
      [dust 1 (noonOfMay 0) 8, dust 1 (noonOfMay 2) 12] :=
    List.mergeSort_of_pairwise (by decide)
  have exist : dusty.statistics? 1 (noonOfMay 0) (noonOfMay 8) =
      .ok (Statistics.of? 1 (noonOfMay 0) (noonOfMay 8)
        [dust 1 (noonOfMay 0) 8, dust 1 (noonOfMay 2) 12]) := by
    rw [statistics?, ofStation?_of_aware aware rfl rfl, ← sorted]
    rfl
  obtain ⟨_, agree, one⟩ := ranking_agrees aware (noonOfMay 0) (noonOfMay 8) 2
  obtain ⟨entries, ranked, once⟩ := one room 1 _ exist (.inl rfl)
  exact ⟨aware, rfl, rfl, room, entries, _, ranked, exist, rfl, rfl, once, agree entries ranked⟩

end History

end AirQuality
