import AirQuality.Proofs.Order.Greatest
import AirQuality.Proofs.Store.Ranges

/-!
# Measurements of one date

The history looks at its measurements in the order in which they were saved, and yet most of this
order leaves no trace in its answers: only the order of measurements of one date does. Histories that
hold the same measurements of each date in the same order answer alike, whatever else is different.

## Key results

- `SameTies.sortByDate_eq`: sorted by date, such measurements are the same
- `latest?_eq_some_iff`: the latest measurement is the first one with the latest date
- `agreeOn_of_sameTies`, `ranking?_of_sameTies`: such histories answer alike
- `reverse_sortByDateDescending`: what is sorted newest first and then reversed
-/

namespace AirQuality.History

open Time (Moment)

/-! ## The same measurements of each date -/

/-- Whether two lists hold the same measurements of each date in the same order. -/
def SameTies (ms ms' : List Measurement) : Prop :=
  ∀ n, (ms.filter fun m => m.date.key == n) = ms'.filter fun m => m.date.key == n

/-- Sorting by date keeps the measurements of each date in their order. -/
theorem sameTies_sortByDate (ms : List Measurement) : SameTies (sortByDate ms) ms :=
  fun n => filter_key_sortByDate n ms

namespace SameTies

variable {ms ms' : List Measurement}

/-- What has the same measurements as a list has those of every list that is alike. -/
theorem trans {ms'' : List Measurement} (first : SameTies ms ms') (second : SameTies ms' ms'') :
    SameTies ms ms'' := fun n => (first n).trans (second n)

/-- A filter keeps the same of each date on both sides. -/
theorem filter (same : SameTies ms ms') (p : Measurement → Bool) :
    SameTies (ms.filter p) (ms'.filter p) := by
  -- The two filters ask for different things, so either may be asked first.
  intro n
  rw [List.filter_comm, same n, List.filter_comm]

/-- Only one list in order of the dates has given measurements of each date. -/
private theorem eq_of_pairwise (same : SameTies ms ms')
    (sorted : ms.Pairwise fun a b => a.date.key ≤ b.date.key)
    (sorted' : ms'.Pairwise fun a b => a.date.key ≤ b.date.key) : ms = ms' := by
  -- Lists in order are equal if their ties are, and tied is what has one date.
  refine Order.eq_of_ties isTotal_isNotAfter ?_ ?_ fun a => ?_
  · exact sorted.imp fun ordered => by simpa [isNotAfter] using ordered
  · exact sorted'.imp fun ordered => by simpa [isNotAfter] using ordered
  · rw [show Order.ties isNotAfter a = fun m => m.date.key == a.date.key from
      funext (ties_isNotAfter a)]
    exact same a.date.key

/-- Sorted by date, such lists are equal. -/
theorem sortByDate_eq (same : SameTies ms ms') : sortByDate ms = sortByDate ms' := by
  have sorted : SameTies (sortByDate ms) (sortByDate ms') := fun n => by
    rw [filter_key_sortByDate, filter_key_sortByDate, same n]
  exact sorted.eq_of_pairwise (pairwise_sortByDate ms) (pairwise_sortByDate ms')

/-- Such lists hold the same measurements altogether. -/
theorem perm (same : SameTies ms ms') : ms.Perm ms' := by
  have sorted := sortByDate_perm ms
  rw [same.sortByDate_eq] at sorted
  exact sorted.symm.trans (sortByDate_perm ms')

end SameTies

/-- What is sorted newest first and then reversed is what is reversed and then sorted: measurements of
one date change places. -/
theorem reverse_sortByDateDescending (ms : List Measurement) :
    (sortByDateDescending ms).reverse = sortByDate ms.reverse := by
  have same : SameTies (sortByDateDescending ms).reverse (sortByDate ms.reverse) := fun n => by
    rw [List.filter_reverse, filter_key_sortByDateDescending, filter_key_sortByDate,
      List.filter_reverse]
  refine same.eq_of_pairwise ?_ (pairwise_sortByDate _)
  exact List.pairwise_reverse.mpr (pairwise_sortByDateDescending ms)

/-- Whether some measurements have distinct dates. -/
def DistinctDates (ms : List Measurement) : Prop := ms.Pairwise fun a b => a.date.key ≠ b.date.key

/-- The dates are the keys. -/
private theorem DistinctDates.distinctKeys {ms : List Measurement} (distinct : DistinctDates ms) :
    Order.DistinctKeys (fun m => m.date.key) ms := distinct

/-- Of distinct dates each one is that of a single measurement. -/
theorem filter_key_of_mem {ms : List Measurement} (distinct : DistinctDates ms) {m : Measurement}
    (mem : m ∈ ms) : (ms.filter fun m' => m'.date.key == m.date.key) = [m] :=
  Order.filter_key_of_mem distinct.distinctKeys mem

/-- Where dates are distinct, nothing depends on the order. -/
theorem sameTies_reverse {ms : List Measurement} (distinct : DistinctDates ms) :
    SameTies ms.reverse ms := by
  intro n
  rw [List.filter_reverse]
  -- A date is that of one measurement, or of none.
  by_cases dated : ∃ m ∈ ms, m.date.key = n
  · obtain ⟨m, mem, rfl⟩ := dated
    rw [filter_key_of_mem distinct mem]
    rfl
  · have none : ms.filter (fun m => m.date.key == n) = [] := by simpa using dated
    rw [none]
    rfl

/-! ## The latest measurement -/

/-- Whether a measurement is the first one with the latest date. -/
structure IsLatest (ms : List Measurement) (m : Measurement) : Prop where
  greatest : ∀ m' ∈ ms, m'.date.key ≤ m.date.key
  first : (ms.filter fun m' => m'.date.key == m.date.key).head? = some m

/-- The latest measurement is the first one with the greatest date. -/
theorem isLatest_iff {ms : List Measurement} {m : Measurement} :
    IsLatest ms m ↔ Order.IsFirstGreatest (fun m => m.date.key) ms m :=
  ⟨fun h => ⟨h.greatest, h.first⟩, fun h => ⟨h.greatest, h.first⟩⟩

namespace IsLatest

variable {ms : List Measurement} {best m m' : Measurement}

/-- The latest measurement is one of them. -/
theorem mem (isLatest : IsLatest ms m) : m ∈ ms := (isLatest_iff.mp isLatest).mem

/-- There is one latest measurement. -/
theorem unique (isLatest : IsLatest ms m) (isLatest' : IsLatest ms m') : m = m' :=
  (isLatest_iff.mp isLatest).unique (isLatest_iff.mp isLatest')

/-- A later measurement takes the place of the latest one only if its date is strictly later. -/
theorem snoc (isLatest : IsLatest ms best) (m : Measurement) :
    IsLatest (ms ++ [m]) (if best.date.key < m.date.key then m else best) :=
  isLatest_iff.mpr ((isLatest_iff.mp isLatest).snoc m)

end IsLatest

/-- A single measurement is the latest one. -/
private theorem isLatest_singleton (m : Measurement) : IsLatest [m] m :=
  isLatest_iff.mpr (.singleton m)

/-- Of distinct dates the latest one is that of the latest measurement, in any order. -/
theorem isLatest_of_distinct {ms : List Measurement} (distinct : DistinctDates ms) {m : Measurement}
    (mem : m ∈ ms) (greatest : ∀ m' ∈ ms, m'.date.key ≤ m.date.key) : IsLatest ms m :=
  isLatest_iff.mpr (.of_distinct distinct.distinctKeys mem greatest)

/-- Where all dates have offsets, the search for the latest measurement ends at it. -/
private theorem latestOf_of_aware {seen ms : List Measurement} {best : Measurement}
    (isLatest : IsLatest seen best) (aware : best.date.isAware = true)
    (others : ∀ m ∈ ms, m.date.isAware = true) :
    ∃ m, latestOf best ms = .ok m ∧ IsLatest (seen ++ ms) m := by
  -- What has been seen grows at its end, by what the search comes upon next.
  induction ms generalizing seen best with
  | nil => exact ⟨best, rfl, by rwa [List.append_nil]⟩
  | cons m ms ih =>
    have aware' := others m List.mem_cons_self
    have compared := Moment.lt?_of_aware aware aware'
    -- The better one of the two is one of the two.
    have next : (if best.date.key < m.date.key then m else best).date.isAware = true := by
      split <;> assumption
    obtain ⟨found, value, latest⟩ :=
      ih (isLatest.snoc m) next fun m' mem => others m' (List.mem_cons_of_mem m mem)
    refine ⟨found, ?_, by rwa [List.append_assoc] at latest⟩
    simpa [latestOf, compared, orFault, bind, Except.bind] using value

section Latest

variable {h : History} {id : Int}

/-- A station without measurements has no latest one. -/
theorem latest?_of_nil (nothing : h.recordsOf id = []) : h.latest? id = .ok none := by
  rw [latest?, nothing]

/-- A station with measurements has a latest one, if their dates have offsets. -/
private theorem exists_latest (aware : ∀ m ∈ h.recordsOf id, m.date.isAware = true)
    (something : h.recordsOf id ≠ []) :
    ∃ m, h.latest? id = .ok (some m) ∧ IsLatest (h.recordsOf id) m := by
  cases records : h.recordsOf id with
  | nil => exact absurd records something
  | cons m ms =>
    rw [records] at aware
    obtain ⟨latest, found, isLatest⟩ := latestOf_of_aware (isLatest_singleton m)
      (aware m List.mem_cons_self) fun m' mem => aware m' (List.mem_cons_of_mem m mem)
    exact ⟨latest, by simp [latest?, records, found, Except.map], isLatest⟩

/-- The latest measurement is the first one with the latest date. -/
theorem latest?_eq_some_iff (aware : ∀ m ∈ h.recordsOf id, m.date.isAware = true)
    {m : Measurement} : h.latest? id = .ok (some m) ↔ IsLatest (h.recordsOf id) m := by
  -- Without measurements there is no latest one, whichever is asked for.
  by_cases nothing : h.recordsOf id = []
  · rw [latest?_of_nil nothing, nothing]
    exact ⟨nofun, fun isLatest => absurd isLatest.mem List.not_mem_nil⟩
  · obtain ⟨found, answer, isLatest⟩ := exists_latest aware nothing
    rw [answer]
    constructor
    · rintro ⟨⟩
      exact isLatest
    · intro isLatest'
      rw [isLatest.unique isLatest']

/-- Where the dates of a station have offsets, it is known what its latest measurement is. -/
theorem exists_latest?_eq_ok (aware : ∀ m ∈ h.recordsOf id, m.date.isAware = true) :
    ∃ latest, h.latest? id = .ok latest := by
  by_cases nothing : h.recordsOf id = []
  · exact ⟨none, latest?_of_nil nothing⟩
  · obtain ⟨m, found, -⟩ := exists_latest aware nothing
    exact ⟨some m, found⟩

/-- A station has no latest measurement only if it has none at all. -/
theorem latest?_eq_none_iff (aware : ∀ m ∈ h.recordsOf id, m.date.isAware = true) :
    h.latest? id = .ok none ↔ h.recordsOf id = [] := by
  refine ⟨fun answer => ?_, latest?_of_nil⟩
  -- A measurement that is there would make some measurement the latest one.
  by_contra something
  obtain ⟨m, found, -⟩ := exists_latest aware something
  rw [answer] at found
  cases found

end Latest

/-! ## Answers -/

/-- Whether two histories answer alike about a station. -/
structure AgreeOn (g h : History) (id : Int) : Prop where
  latest : g.latest? id = h.latest? id
  ofStation : ∀ start stop, g.ofStation? id start stop = h.ofStation? id start stop
  statistics : ∀ start stop, g.statistics? id start stop = h.statistics? id start stop

variable {g h : History}

/-- The latest measurement is the first of its date, and so the same one for both. -/
private theorem latest?_of_sameTies {id : Int} (same : SameTies (g.recordsOf id) (h.recordsOf id))
    (aware : ∀ m ∈ h.recordsOf id, m.date.isAware = true) : g.latest? id = h.latest? id := by
  -- Both histories have the same measurements of the station.
  have aware' : ∀ m ∈ g.recordsOf id, m.date.isAware = true := fun m mem =>
    aware m (same.perm.mem_iff.mp mem)
  by_cases nothing : h.recordsOf id = []
  · have nothing' : g.recordsOf id = [] := List.perm_nil.mp (nothing ▸ same.perm)
    rw [latest?_of_nil nothing, latest?_of_nil nothing']
  · obtain ⟨m, answer, isLatest⟩ := exists_latest aware nothing
    rw [answer, latest?_eq_some_iff aware']
    exact ⟨fun m' mem => isLatest.greatest m' (same.perm.mem_iff.mp mem),
      (same m.date.key).symm ▸ isLatest.first⟩

/-- What is dated in a range is the same for both, and sorted by date it is equal. -/
private theorem ofStation?_of_sameTies {id : Int}
    (same : SameTies (g.recordsOf id) (h.recordsOf id)) (start stop : Moment) :
    g.ofStation? id start stop = h.ofStation? id start stop := by
  -- Whether an answer can be given does not depend on the order.
  rw [ofStation?, ofStation?, select_inRange_eq, select_inRange_eq, same.perm.all_eq]
  split
  · simp only [Except.map, (same.filter _).sortByDate_eq]
  · rfl

/-- Histories with the same measurements of a station answer alike about it, if those of one date are
in the same order. -/
theorem agreeOn_of_sameTies {id : Int} (same : SameTies (g.recordsOf id) (h.recordsOf id))
    (aware : ∀ m ∈ h.recordsOf id, m.date.isAware = true) : AgreeOn g h id where
  latest := latest?_of_sameTies same aware
  ofStation := ofStation?_of_sameTies same
  statistics start stop := by rw [statistics?, statistics?, ofStation?_of_sameTies same]

/-- Histories with the same measurements rank the stations alike, if those of one date are in the
same order. -/
theorem ranking?_of_sameTies (same : SameTies g.records h.records) (start stop : Moment)
    (limit : Int) : g.ranking? start stop limit = h.ranking? start stop limit := by
  rw [ranking?, ranking?, between?, between?, select_inRange_eq, select_inRange_eq,
    same.perm.all_eq]
  split
  · simp only [Except.map, sortByDate_sortByDateDescending, (same.filter _).sortByDate_eq]
  · rfl

end AirQuality.History
