import AirQuality.Enquiry
import AirQuality.Proofs.Store.Ranges
import AirQuality.Proofs.Time.DayText

/-!
# Measurements of a day

An enquiry for the range from a day to the same day is one for the measurements of that day at UTC.
It finds all of them if the second bound is a date or a text of ten characters. For the other texts
of a day the range ends where it starts, and only the measurements of the first moment are found.

## Key results

- `Enquiry.value_between`: what an enquiry for a range finds
- `isWithin_iff_utcDay?`: the measurements of a day are those between its first moment and its last
- `measurements_of_day`: the range of a day, and what is found in it
- `noon_not_found`: a measurement of the day that is not found
-/

namespace AirQuality

open Time (Moment Bound DateRange Civil DayTime)

/-- A text as a bound. -/
def Time.Bound.ofString (s : String) : Bound := .value (.str (Text.ofString s))

/-- A history whose dates have offsets answers for every range that is accepted. -/
theorem Enquiry.value_between {e : Enquiry History} (stored : e.store = History.store) {h : History}
    (aware : ∀ m ∈ h.records, m.date.isAware = true) (a b : Bound) :
    ((e.between a b).runOn h).value =
      ((DateRange.read a b).map fun range => History.sortByDateDescending
        (h.records.filter (·.isWithin range.start range.stop)), h) := by
  rw [Enquiry.between, Act.value_runOn_bind, Act.runOn_ofExcept]
  -- Reading the bounds either fails or gives a range at UTC.
  cases read : DateRange.read a b with
  | error fault => rfl
  | ok range =>
    obtain ⟨first, last, _⟩ := Time.DateRange.of_read read
    have found := History.between?_of_aware aware (by rw [Moment.isAware, first]; rfl)
      (by rw [Moment.isAware, last]; rfl)
    simp only [Traced.value_pure, stored, History.store, History.value_runOn_asking, found]
    rfl

section Days

variable {m : Measurement} {d : Civil} {start stop : Moment}

/-- Between two bounds at UTC the order of keys decides. -/
private theorem isWithin_iff_of_utc (aware : m.date.isAware = true)
    (first : start.offset = some .zero) (last : stop.offset = some .zero) :
    m.isWithin start stop = true ↔ start.key ≤ m.date.key ∧ m.date.key ≤ stop.key := by
  -- Dates with offsets can be compared with both bounds.
  refine History.isWithin_iff ?_ ?_
  · rw [Moment.comparable, aware, Moment.isAware, first]
    rfl
  · rw [Moment.comparable, aware, Moment.isAware, last]
    rfl

/-- The measurements of a day are those from its first moment to its last. -/
theorem isWithin_iff_utcDay? (aware : m.date.isAware = true) (real : d.exists = true)
    (first : start.IsAt d .first) (last : stop.IsAt d .last) :
    m.isWithin start stop = true ↔ m.date.utcDay? = some d := by
  rw [isWithin_iff_of_utc aware first.utc last.utc]
  exact (Moment.utcDay?_eq_some_iff real first last).symm

/-- A range that ends where it starts has the measurements of that moment. -/
private theorem isWithin_iff_key_eq (aware : m.date.isAware = true) (first : start.IsAt d .first)
    (last : stop.IsAt d .first) :
    m.isWithin start stop = true ↔ m.date.key = start.key := by
  have same : stop.key = start.key := last.key.trans first.key.symm
  rw [isWithin_iff_of_utc aware first.utc last.utc, same]
  omega

/-- Sorting loses nothing of what is found. -/
private theorem sorted_filter_perm {ms : List Measurement} {p q : Measurement → Bool}
    (same : ∀ m ∈ ms, p m = true ↔ q m = true) :
    (History.sortByDateDescending (ms.filter p)).Perm (ms.filter q) := by
  have congr : ms.filter p = ms.filter q :=
    List.filter_congr fun m mem => Bool.eq_iff_iff.mpr (same m mem)
  rw [← congr]
  exact History.sortByDateDescending_perm _

/-- Either way nothing of another day is in the range. -/
private theorem utcDay?_of_isWithin {known : Bool} (aware : m.date.isAware = true)
    (real : d.exists = true) (first : start.IsAt d .first)
    (last : stop.IsAt d (if known then .last else .first)) (within : m.isWithin start stop = true) :
    m.date.utcDay? = some d := by
  cases known with
  | true => exact (isWithin_iff_utcDay? aware real first last).mp within
  | false =>
    -- The first moment of the day is not after its last one.
    have same := (isWithin_iff_key_eq aware first last).mp within
    obtain ⟨_, _, _, isLast⟩ := Time.exists_isAt real (show DayTime.last.exists = true by decide)
    rw [Moment.utcDay?_eq_some_iff real first isLast, same, first.key, isLast.key,
      show DayTime.first.micros = 0 from rfl]
    omega

end Days

/-- The range from a day to the same day is accepted, however the day is given: it starts with the
first moment of the day at UTC, and ends with the last one if the second bound is a date or a text of
ten characters, and with the first one otherwise. In a history whose dates have offsets an enquiry
finds all measurements of the day in the one case, and those of its first moment in the other, and
none of another day. -/
theorem measurements_of_day {d : Civil} (real : d.exists = true) {a b : Bound}
    (start : a.Names d) (stop : b.Names d) {e : Enquiry History} (stored : e.store = History.store)
    {h : History} (aware : ∀ m ∈ h.records, m.date.isAware = true) :
    ∃ range ms, DateRange.read a b = .ok range ∧ range.start.IsAt d .first ∧
      range.stop.IsAt d (if b.isKnownDay then .last else .first) ∧
      ((e.between a b).runOn h).value = (.ok ms, h) ∧
      (b.isKnownDay = true → ms.Perm (h.records.filter fun m => m.date.utcDay? == some d)) ∧
      (b.isKnownDay = false →
        ms.Perm (h.records.filter fun m => m.date.key == range.start.key)) ∧
      ∀ m ∈ ms, m.date.utcDay? = some d := by
  -- However the day is given, the range is known up to the end of its last day.
  obtain ⟨range, read, first, last⟩ := DateRange.exists_read_of_names real start stop
  have found : ((e.between a b).runOn h).value =
      (.ok (History.sortByDateDescending
        (h.records.filter (·.isWithin range.start range.stop))), h) := by
    rw [Enquiry.value_between stored aware, read]
    rfl
  refine ⟨range, _, read, first, last, found, ?_, ?_, ?_⟩
  -- The last moment of the day: the whole day is found.
  · intro known
    rw [known] at last
    apply sorted_filter_perm
    intro m mem
    rw [isWithin_iff_utcDay? (aware m mem) real first last, beq_iff_eq]
  -- The first moment of the day: nothing but that is found.
  · intro unknown
    rw [unknown] at last
    apply sorted_filter_perm
    intro m mem
    rw [isWithin_iff_key_eq (aware m mem) first last, beq_iff_eq]
  · intro m mem
    rw [(History.sortByDateDescending_perm _).mem_iff, List.mem_filter] at mem
    obtain ⟨mem, within⟩ := mem
    exact utcDay?_of_isWithin (aware m mem) real first last within

/-! ## A day -/

/-- A history with one measurement, of noon on the first of May. -/
def noonHistory : History :=
  ⟨[.ofLive (History.noonOfMay 0) 7 none ⟨7, History.noonOfMay 0, none, none, none, none⟩ []], 0⟩

/-- Enquiries without a feed. -/
def quietEnquiry : Enquiry History where
  provider := ⟨pure [], fun _ => pure none, fun _ => pure []⟩
  store := History.store
  clock := History.noonOfMay 0

/-- The one date has an offset. -/
theorem aware_noonHistory : ∀ m ∈ noonHistory.records, m.date.isAware = true := by decide

/-- With its ten characters the day is found as a whole. -/
theorem measurements_of_firstOfMay :
    (Civil.mk 2026 5 1).exists = true ∧ (Bound.ofString "2026-05-01").Names ⟨2026, 5, 1⟩ ∧
    quietEnquiry.store = History.store ∧ (∀ m ∈ noonHistory.records, m.date.isAware = true) ∧
    ∃ range, DateRange.read (.ofString "2026-05-01") (.ofString "2026-05-01") = .ok range ∧
      range.start.IsAt ⟨2026, 5, 1⟩ .first ∧ range.stop.IsAt ⟨2026, 5, 1⟩ .last ∧
      ((quietEnquiry.between (.ofString "2026-05-01") (.ofString "2026-05-01")).runOn
        noonHistory).value = (.ok noonHistory.records, noonHistory) := by
  have real : (Civil.mk 2026 5 1).exists = true := by decide
  -- Ten characters, of the stamp of a day
  have names : (Bound.ofString "2026-05-01").Names ⟨2026, 5, 1⟩ :=
    .stamp (by decide +kernel) (by decide +kernel)
  obtain ⟨range, ms, read, first, last, found, whole, _, _⟩ :=
    measurements_of_day real names names (e := quietEnquiry) rfl aware_noonHistory
  -- The one measurement is of this day, so what is found has the same single element.
  have known : (Bound.ofString "2026-05-01").isKnownDay = true := by decide +kernel
  have all : (noonHistory.records.filter fun m => m.date.utcDay? == some ⟨2026, 5, 1⟩) =
      noonHistory.records := List.filter_eq_self.mpr (by decide +kernel)
  rw [known] at last
  have same := whole known
  rw [all] at same
  rw [List.perm_singleton.mp same] at found
  exact ⟨real, names, rfl, aware_noonHistory, range, read, first, last, found⟩

/-- Without hyphens the same day ends with its first moment, and its noon is not found. -/
theorem noon_not_found :
    (Bound.ofString "20260501").Names ⟨2026, 5, 1⟩ ∧
    ((quietEnquiry.between (.ofString "20260501") (.ofString "20260501")).runOn noonHistory).value =
      (.ok [], noonHistory) ∧
    noonHistory.records ≠ [] ∧
    ∀ m ∈ noonHistory.records, m.date.utcDay? = some ⟨2026, 5, 1⟩ := by
  have real : (Civil.mk 2026 5 1).exists = true := by decide
  have names : (Bound.ofString "20260501").Names ⟨2026, 5, 1⟩ :=
    .spelling (by decide +kernel : _ = Text.ofChars "20260501".toList) .number
  have unknown : (Bound.ofString "20260501").isKnownDay = false := by decide +kernel
  obtain ⟨range, read, first, last⟩ := DateRange.exists_read_of_names real names names
  rw [unknown] at last
  -- The range holds the first moment of the day only, and this is not noon.
  have none : noonHistory.records.filter (·.isWithin range.start range.stop) = [] := by
    refine List.filter_eq_nil_iff.mpr fun m mem => ?_
    rw [isWithin_iff_key_eq (aware_noonHistory m mem) first last, first.key]
    revert m
    decide
  refine ⟨names, ?_, by decide, by decide +kernel⟩
  rw [Enquiry.value_between rfl aware_noonHistory, read, Except.map, none,
    List.perm_nil.mp (History.sortByDateDescending_perm [])]

end AirQuality
