import AirQuality.Proofs.Order.Stable
import AirQuality.Proofs.Store.History
import Mathlib.Algebra.GroupWithZero.Nat

/-!
# Ranges of the history

A query for a range is a filter and then a stable sort by date, if every date that it looks at can be
compared with the ends of the range; else it fails. Filtering by station and sorting may change
places, and an order that was there before the sort shows in nothing but the ties.

## Key results

- `between?_eq_ok_iff`, `ofStation?_eq_ok_iff`: the queries as filters
- `between?_of_aware`, `ofStation?_of_aware`: where all dates have offsets, they have answers
- `isWithin_of_shift`: the range that ends at a moment and begins some days before it
- `sortByDate_sortByDateDescending`: sorting newest first is undone by sorting oldest first
-/

namespace AirQuality

open Time (Moment Civil dayMicros hourMicros)

/-- Whether a measurement is dated in a range. -/
def Measurement.isWithin (start stop : Moment) (m : Measurement) : Bool :=
  m.isSince start && m.date.le? stop == some true

/-- Whether a measurement is dated in the days up to a moment. -/
def Measurement.isOfLast (days : Int) (now : Moment) (m : Measurement) : Bool :=
  now.key - days * dayMicros ≤ m.date.key && m.date.key ≤ now.key

namespace History

/-! ## Sorting by date -/

/-- Whether a measurement is not dated after another one. -/
def isNotAfter (a b : Measurement) : Bool := a.date.key ≤ b.date.key

/-- Whether a measurement is not dated before another one. -/
def isNotBefore (a b : Measurement) : Bool := b.date.key ≤ a.date.key

/-- Any two dates can be compared by their keys. -/
theorem isTotal_isNotAfter : Order.IsTotal isNotAfter where
  trans a b c := by simpa [isNotAfter] using Int.le_trans
  total a b := by simpa [isNotAfter] using Int.le_total a.date.key b.date.key

/-- So they can be the other way round. -/
private theorem isTotal_isNotBefore : Order.IsTotal isNotBefore where
  trans a b c := by simpa [isNotBefore] using fun ab bc => Int.le_trans bc ab
  total a b := by simpa [isNotBefore] using Int.le_total b.date.key a.date.key

/-- Measurements are tied if they have one date. -/
theorem ties_isNotAfter (a b : Measurement) :
    Order.ties isNotAfter a b = (b.date.key == a.date.key) := by
  rw [Bool.eq_iff_iff, Order.ties_iff]
  simp only [isNotAfter, decide_eq_true_eq, beq_iff_eq]
  omega

/-- They are tied by the same dates the other way round. -/
private theorem ties_isNotBefore (a b : Measurement) :
    Order.ties isNotBefore a b = (b.date.key == a.date.key) := by
  rw [Bool.eq_iff_iff, Order.ties_iff]
  simp only [isNotBefore, decide_eq_true_eq, beq_iff_eq]
  omega

/-- Sorting loses nothing. -/
theorem sortByDate_perm (ms : List Measurement) : (sortByDate ms).Perm ms :=
  List.mergeSort_perm ms isNotAfter

/-- Sorting newest first loses nothing. -/
theorem sortByDateDescending_perm (ms : List Measurement) : (sortByDateDescending ms).Perm ms :=
  List.mergeSort_perm ms isNotBefore

/-- The oldest come first. -/
theorem pairwise_sortByDate (ms : List Measurement) :
    (sortByDate ms).Pairwise fun a b => a.date.key ≤ b.date.key := by
  have sorted := List.pairwise_mergeSort isTotal_isNotAfter.trans isTotal_isNotAfter.total ms
  exact sorted.imp fun h => by simpa [isNotAfter] using h

/-- The newest come first. -/
theorem pairwise_sortByDateDescending (ms : List Measurement) :
    (sortByDateDescending ms).Pairwise fun a b => b.date.key ≤ a.date.key := by
  have sorted := List.pairwise_mergeSort isTotal_isNotBefore.trans isTotal_isNotBefore.total ms
  exact sorted.imp fun h => by simpa [isNotBefore] using h

/-- Sorting by date keeps the order of measurements of one date. -/
theorem filter_key_sortByDate (n : Int) (ms : List Measurement) :
    (sortByDate ms).filter (fun m => m.date.key == n) = ms.filter fun m => m.date.key == n := by
  -- Measurements of one date are not after each other.
  refine Order.filter_mergeSort_of_tied isTotal_isNotAfter (fun a b ha hb => ?_) ms
  simp only [beq_iff_eq] at ha hb
  simp [isNotAfter, ha, hb]

/-- Sorting newest first keeps the order of measurements of one date, and does not reverse it. -/
theorem filter_key_sortByDateDescending (n : Int) (ms : List Measurement) :
    (sortByDateDescending ms).filter (fun m => m.date.key == n) =
      ms.filter fun m => m.date.key == n := by
  refine Order.filter_mergeSort_of_tied isTotal_isNotBefore (fun a b ha hb => ?_) ms
  simp only [beq_iff_eq] at ha hb
  simp [isNotBefore, ha, hb]

/-- A condition may be asked before sorting or after it. -/
theorem filter_sortByDate (p : Measurement → Bool) (ms : List Measurement) :
    (sortByDate ms).filter p = sortByDate (ms.filter p) :=
  Order.filter_mergeSort isTotal_isNotAfter p ms

/-- Sorting newest first leaves no trace when the oldest come first afterwards. -/
theorem sortByDate_sortByDateDescending (ms : List Measurement) :
    sortByDate (sortByDateDescending ms) = sortByDate ms := by
  -- Both orders have the same ties.
  have same (a b : Measurement) : Order.ties isNotAfter a b = Order.ties isNotBefore a b := by
    rw [ties_isNotAfter, ties_isNotBefore]
  exact Order.mergeSort_mergeSort isTotal_isNotAfter isTotal_isNotBefore same ms

/-! ## Ends of a range -/

/-- A date that can be compared with both ends lies between them. -/
theorem isWithin_iff {start stop : Moment} {m : Measurement}
    (first : start.comparable m.date = true) (last : m.date.comparable stop = true) :
    m.isWithin start stop = true ↔ start.key ≤ m.date.key ∧ m.date.key ≤ stop.key := by
  simp [Measurement.isWithin, Measurement.isSince, Moment.le?, first, last]

/-- Where a date can be placed, the answer is whether it lies in the range. -/
private theorem isWithin_of_inRange {start stop : Moment} {m : Measurement} {answer : Bool}
    (h : inRange start stop m.date = .ok answer) : m.isWithin start stop = answer := by
  simp only [inRange, bind, Except.bind] at h
  split at h
  · cases h
  · rename_i since head
    obtain ⟨_, isSince⟩ := notAfter_eq_ok_iff.mp head
    cases since with
    | false => simpa [Measurement.isWithin, isSince, pure, Except.pure] using h
    | true =>
      -- The end is looked at only now.
      cases last : m.date.comparable stop with
      | false => simp [notAfter_of_not_comparable last] at h
      | true =>
        simpa [Measurement.isWithin, isSince, Moment.le?, last, notAfter_of_comparable last] using h

/-- A date with an offset can be placed if both ends of the range have one. -/
theorem inRange_of_aware {start stop : Moment} (first : start.isAware = true)
    (last : stop.isAware = true) {m : Measurement} (aware : m.date.isAware = true) :
    inRange start stop m.date = .ok (m.isWithin start stop) := by
  have before : start.comparable m.date = true := Moment.comparable_of_aware first aware
  have after : m.date.comparable stop = true := Moment.comparable_of_aware aware last
  have within_start : notAfter start m.date = .ok (m.isSince start) :=
    notAfter_eq_ok_iff.mpr ⟨before, rfl⟩
  -- If the date is before the start, the end does not matter.
  simp only [inRange, within_start, bind, Except.bind, Measurement.isWithin]
  cases m.isSince start with
  | false => rfl
  | true => simp [notAfter_of_comparable after, Moment.le?, after]

/-- The days up to a moment are the range that begins these days before it. -/
theorem isWithin_of_shift {days : Int} {start now : Moment} (now_aware : now.isAware = true)
    (first : now.shift? (-(days * dayMicros)) = some start) {m : Measurement}
    (aware : m.date.isAware = true) : m.isWithin start now = m.isOfLast days now := by
  have start_aware : start.isAware = true := (Moment.isAware_of_shift? first).trans now_aware
  have within := isWithin_iff (Moment.comparable_of_aware start_aware aware)
    (Moment.comparable_of_aware aware now_aware)
  rw [Bool.eq_iff_iff, within, Moment.key_of_shift? first]
  simp [Measurement.isOfLast, Int.sub_eq_add_neg]

/-- A question for a range can fail in one way only. -/
theorem fault_of_inRange {start stop date : Moment} {fault : Fault}
    (fails : inRange start stop date = .error fault) : fault = .wrongKind := by
  -- Either of the two comparisons has failed.
  simp only [inRange, bind, Except.bind] at fails
  split at fails
  · rename_i head
    cases fails
    exact fault_of_notAfter head
  · split at fails
    · exact fault_of_notAfter fails
    · cases fails

/-! ## Queries -/

/-- A selection has an answer if and only if its condition has one for each measurement; it is a
filter then. -/
theorem select_eq_ok_iff {keep : Measurement → Except Fault Bool} (kept : Measurement → Bool)
    (sound : ∀ m answer, keep m = .ok answer → kept m = answer) {ms out : List Measurement} :
    select keep ms = .ok out ↔ (∀ m ∈ ms, keep m = .ok (kept m)) ∧ out = ms.filter kept := by
  -- Only the way there needs an induction; on the way back the selection is known to be a filter.
  constructor
  · intro h
    -- Induction on the measurements: each of them has been given an answer.
    have all : ∀ m ∈ ms, keep m = .ok (kept m) := by
      induction ms generalizing out with
      | nil => simp
      | cons m ms ih =>
        simp only [select, bind, Except.bind] at h
        split at h
        · cases h
        · rename_i answer head
          split at h
          · cases h
          · rename_i rest tail
            intro m' mem
            rcases List.mem_cons.mp mem with rfl | later
            · rw [head, sound _ _ head]
            · exact ih tail m' later
    rw [select_eq_filter all] at h
    exact ⟨all, (Except.ok.inj h).symm⟩
  · rintro ⟨all, rfl⟩
    exact select_eq_filter all

/-- A selection by a range is a filter, if each date can be placed; what is made of it afterwards
does not matter. -/
theorem map_select_inRange_eq_ok_iff {start stop : Moment} {f : List Measurement → List Measurement}
    {ms out : List Measurement} :
    (select (fun m => inRange start stop m.date) ms).map f = .ok out ↔
      (∀ m ∈ ms, inRange start stop m.date = .ok (m.isWithin start stop)) ∧
        out = f (ms.filter (·.isWithin start stop)) := by
  simp only [map_eq_ok_iff,
    select_eq_ok_iff (fun m => m.isWithin start stop) fun _ _ => isWithin_of_inRange]
  constructor
  · rintro ⟨_, ⟨all, rfl⟩, rfl⟩
    exact ⟨all, rfl⟩
  · rintro ⟨all, rfl⟩
    exact ⟨_, ⟨all, rfl⟩, rfl⟩

/-- A selection by a range is a filter if every date can be placed, and fails else. -/
theorem select_inRange_eq (start stop : Moment) (ms : List Measurement) :
    select (fun m => inRange start stop m.date) ms =
      if ms.all fun m => (inRange start stop m.date).isOk then
        .ok (ms.filter (·.isWithin start stop))
      else .error .wrongKind := by
  split
  · rename_i all
    refine select_eq_filter fun m mem => ?_
    -- All dates are placed, and an answer is a right one.
    cases placed : inRange start stop m.date with
    | ok answer => rw [isWithin_of_inRange placed]
    | error fault =>
      have isOk := List.all_eq_true.mp all m mem
      rw [placed] at isOk
      cases isOk
  · rename_i notAll
    obtain ⟨m, mem, isOk⟩ : ∃ m ∈ ms, (inRange start stop m.date).isOk = false := by
      simpa using notAll
    cases placed : inRange start stop m.date with
    | ok answer =>
      rw [placed] at isOk
      cases isOk
    | error fault =>
      -- All failures are alike, so the first one is that of any measurement.
      obtain rfl := fault_of_inRange placed
      exact select_eq_error mem placed fun _ _ _ fails => fault_of_inRange fails

/-- The query for a range of all stations. -/
theorem between?_eq_ok_iff {h : History} {start stop : Moment} {out : List Measurement} :
    h.between? start stop = .ok out ↔
      (∀ m ∈ h.records, inRange start stop m.date = .ok (m.isWithin start stop)) ∧
        out = sortByDateDescending (h.records.filter (·.isWithin start stop)) :=
  map_select_inRange_eq_ok_iff

/-- The query for a range of one station. -/
theorem ofStation?_eq_ok_iff {h : History} {id : Int} {start stop : Moment}
    {out : List Measurement} :
    h.ofStation? id start stop = .ok out ↔
      (∀ m ∈ h.recordsOf id, inRange start stop m.date = .ok (m.isWithin start stop)) ∧
        out = sortByDate ((h.recordsOf id).filter (·.isWithin start stop)) :=
  map_select_inRange_eq_ok_iff

/-- With offsets all around, the query for a range of all stations has an answer. -/
theorem between?_of_aware {h : History} (aware : ∀ m ∈ h.records, m.date.isAware = true)
    {start stop : Moment} (first : start.isAware = true) (last : stop.isAware = true) :
    h.between? start stop =
      .ok (sortByDateDescending (h.records.filter (·.isWithin start stop))) :=
  between?_eq_ok_iff.mpr ⟨fun m hm => inRange_of_aware first last (aware m hm), rfl⟩

/-- With offsets all around, the query for a range of one station has an answer. -/
theorem ofStation?_of_aware {h : History} (aware : ∀ m ∈ h.records, m.date.isAware = true)
    {start stop : Moment} (first : start.isAware = true) (last : stop.isAware = true) (id : Int) :
    h.ofStation? id start stop =
      .ok (sortByDate ((h.recordsOf id).filter (·.isWithin start stop))) := by
  refine ofStation?_eq_ok_iff.mpr ⟨fun m hm => ?_, rfl⟩
  exact inRange_of_aware first last (aware m (List.mem_filter.mp hm).1)

/-- The first days of a month are written as numerals. -/
instance (priority := 2000) neZero_nine : NeZero 9 := ⟨by decide⟩

/-- Noon of one of the first days of May 2026, at UTC. -/
def noonOfMay (day : Fin 9) : Moment :=
  ⟨⟨((Civil.mk 2026 5 1).dayNumber + day) * dayMicros + 12 * hourMicros, by revert day; decide⟩,
    some .zero⟩

example : sortByDate [.ofLive (noonOfMay 1) 7 none ⟨7, noonOfMay 1, none, none, none, none⟩ [],
    .ofLive (noonOfMay 0) 7 none ⟨7, noonOfMay 0, none, none, none, none⟩ []] =
    [.ofLive (noonOfMay 0) 7 none ⟨7, noonOfMay 0, none, none, none, none⟩ [],
      .ofLive (noonOfMay 1) 7 none ⟨7, noonOfMay 1, none, none, none, none⟩ []] := by cbv

end History

end AirQuality
