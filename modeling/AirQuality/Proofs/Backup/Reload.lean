import AirQuality.Proofs.Backup.RoundTrip
import AirQuality.Proofs.Store.Ties

/-!
# Answers after a reload

A backup lists the measurements of one date in the reverse of the order in which they were saved. A
history that is loaded from it answers as one does that was saved back to front, and so as the
original one wherever no two dates are equal.

## Key results

- `Backup.written_eq`: what is written of a whole history
- `Backup.reload_answers`: what a reloaded history answers
- `Backup.reload_swaps_twins`: two measurements of one station and date that change places
-/

namespace AirQuality

open Time (Moment dayMicros)

/-- The history with its measurements in the reverse order. -/
def History.reversed (h : History) : History := ⟨h.records.reverse, h.issued⟩

namespace Backup

open History (AgreeOn DistinctDates noonOfMay sortByDate)

/-- Of a history of the last days everything is written, the last of one date first. -/
theorem written_eq {h : History} (isExact : h.IsExact) {days : Int} {start stop : Moment}
    (stop_aware : stop.isAware = true) (first : stop.shift? (-(days * dayMicros)) = some start)
    (whole : ofLastDays h days stop = h.records) :
    written h start stop = sortByDate h.reversed.records := by
  -- Newest first and then reversed is oldest first of the reversed history.
  rw [written, History.reverse_sortByDateDescending,
    filter_isWithin_eq isExact.aware stop_aware first, whole]
  rfl

section Answers

variable {h : History} {issued : Nat}

/-- A reloaded history answers as one does that was saved back to front. -/
private theorem agreeOn_reversed (aware : ∀ m ∈ h.records, m.date.isAware = true) (id : Int) :
    AgreeOn ⟨sortByDate h.reversed.records, issued⟩ h.reversed id :=
  History.agreeOn_of_sameTies ((History.sameTies_sortByDate _).filter _) fun m mem =>
    aware m (List.mem_reverse.mp (List.mem_filter.mp mem).1)

/-- A reloaded history answers as the original one about a station with distinct dates. -/
private theorem agreeOn_of_distinct (aware : ∀ m ∈ h.records, m.date.isAware = true) {id : Int}
    (distinct : DistinctDates (h.recordsOf id)) :
    AgreeOn ⟨sortByDate h.reversed.records, issued⟩ h id := by
  apply History.agreeOn_of_sameTies
  · -- Of one station as of all, the sort does not matter, and here the reversal does not either.
    have sorted := (History.sameTies_sortByDate h.records.reverse).filter (·.stationId == id)
    rw [List.filter_reverse] at sorted
    exact sorted.trans (History.sameTies_reverse distinct)
  · exact fun m mem => aware m (List.mem_filter.mp mem).1

/-- A reloaded history ranks the stations as the original one if all dates are distinct. -/
private theorem ranking?_of_distinct (distinct : DistinctDates h.records) (start stop : Moment)
    (limit : Int) :
    History.ranking? ⟨sortByDate h.reversed.records, issued⟩ start stop limit =
      h.ranking? start stop limit := by
  apply History.ranking?_of_sameTies
  exact (History.sameTies_sortByDate _).trans (History.sameTies_reverse distinct)

end Answers

/-- A history whose measurements are all of the last days answers, after a backup and a reload, as if
they had been saved back to front: the latest measurement, the ranges and the statistics of each
station, and the ranking. About a station with distinct dates the answers are those of the original
history, and so is the ranking if all dates are distinct. -/
theorem reload_answers {h : History} (isExact : h.IsExact) {days : Int} {stop : Moment}
    (stop_aware : stop.isAware = true)
    (inCalendar : (stop.shift? (-(days * dayMicros))).isSome = true)
    (whole : ofLastDays h days stop = h.records)
    (wellFormed : (h.records.all fun m => m.toJson.isWellFormed) = true) (now : Moment)
    (issued : Nat) :
    ∃ text reloaded,
      ((write History.store (fun _ => .ok ()) days stop).runOn h).value =
        (.ok ⟨h.records.length, text⟩, h) ∧
      ((restore History.store now (.ok text)).runOn ⟨[], issued⟩).value =
        (.ok h.records.length, reloaded) ∧
      (∀ id, AgreeOn reloaded h.reversed id) ∧
      (∀ start stop limit,
        reloaded.ranking? start stop limit = h.reversed.ranking? start stop limit) ∧
      (∀ id, DistinctDates (h.recordsOf id) → AgreeOn reloaded h id) ∧
      (DistinctDates h.records →
        ∀ start stop limit, reloaded.ranking? start stop limit = h.ranking? start stop limit) := by
  -- The document is read back as what was written, which is sorted.
  obtain ⟨start, first⟩ := Option.isSome_iff_exists.mp inCalendar
  have count : (written h start stop).length = h.records.length := by
    rw [(written_perm isExact stop_aware first).length_eq, whole]
  have wrote := value_write_of_isExact isExact stop_aware first
  rw [whole, if_pos wellFormed] at wrote
  have restored := value_restore_written isExact stop_aware first (whole ▸ wellFormed) now issued
  have records := written_eq isExact stop_aware first whole
  refine ⟨(document (written h start stop)).text, ⟨sortByDate h.reversed.records, issued⟩, ?_, ?_,
    agreeOn_reversed isExact.aware, ?_, fun id => agreeOn_of_distinct isExact.aware,
    ranking?_of_distinct⟩
  · rw [wrote, ← count]
    rfl
  · rw [restored, count, records]
  · exact History.ranking?_of_sameTies (History.sameTies_sortByDate _)

/-- Two measurements of different days are found as before. -/
theorem reload_answers_twoDays :
    (twoDays none).IsExact ∧ (noonOfMay 2).isAware = true ∧
    ((noonOfMay 2).shift? (-((5 : Int) * dayMicros))).isSome = true ∧
    ofLastDays (twoDays none) 5 (noonOfMay 2) = (twoDays none).records ∧
    ((twoDays none).records.all fun m => m.toJson.isWellFormed) = true ∧
    DistinctDates ((twoDays none).recordsOf 7) ∧
    ∃ text reloaded,
      ((write History.store (fun _ => .ok ()) 5 (noonOfMay 2)).runOn (twoDays none)).value =
        (.ok ⟨2, text⟩, twoDays none) ∧
      ((restore History.store (noonOfMay 3) (.ok text)).runOn .empty).value = (.ok 2, reloaded) ∧
      AgreeOn reloaded (twoDays none) 7 := by
  have inCalendar : ((noonOfMay 2).shift? (-((5 : Int) * dayMicros))).isSome = true := by decide
  have wellFormed : ((twoDays none).records.all fun m => m.toJson.isWellFormed) = true :=
    all_isWellFormed_twoDays none
  -- There are two dates, and these differ.
  have distinct : DistinctDates ((twoDays none).recordsOf 7) := by
    apply List.pairwise_pair.mpr
    change (noonOfMay 1).key ≠ (noonOfMay 0).key
    decide
  obtain ⟨text, reloaded, wrote, restored, -, -, same, -⟩ :=
    reload_answers (isExact_twoDays none) rfl inCalendar (ofLastDays_twoDays none) wellFormed
      (noonOfMay 3) 0
  exact ⟨isExact_twoDays none, rfl, inCalendar, ofLastDays_twoDays none, wellFormed, distinct, text,
    reloaded, wrote, restored, same 7 distinct⟩

/-- Two measurements of one station and date. -/
def twins : History := ⟨[measured "a" none (noonOfMay 0), measured "b" none (noonOfMay 0)], 0⟩

/-- The two measurements have identifiers, and dates with offsets in whole minutes. -/
private theorem isExact_twins : twins.IsExact := isExact_pair ⟨rfl, rfl⟩ ⟨rfl, rfl⟩ ⟨rfl, rfl⟩ 0

/-- Both are of the last five days. -/
private theorem ofLastDays_twins : ofLastDays twins 5 (noonOfMay 2) = twins.records := by
  apply List.filter_eq_self.mpr
  intro m mem
  have dated : m.date = noonOfMay 0 := by
    rcases List.mem_pair.mp mem with rfl | rfl <;> rfl
  rw [dated]
  decide

/-- Of two measurements of one station and date the first one is the latest. After a reload the
second one is. -/
theorem reload_swaps_twins :
    twins.IsExact ∧ ofLastDays twins 5 (noonOfMay 2) = twins.records ∧
    ∃ a b text reloaded, twins.records = [a, b] ∧ a.id ≠ b.id ∧
      ((write History.store (fun _ => .ok ()) 5 (noonOfMay 2)).runOn twins).value =
        (.ok ⟨2, text⟩, twins) ∧
      ((restore History.store (noonOfMay 3) (.ok text)).runOn .empty).value = (.ok 2, reloaded) ∧
      twins.latest? 7 = .ok (some a) ∧ reloaded.latest? 7 = .ok (some b) := by
  obtain ⟨start, first⟩ : ∃ start, (noonOfMay 2).shift? (-((5 : Int) * dayMicros)) = some start :=
    Option.isSome_iff_exists.mp (by decide)
  have wellFormed : (twins.records.all fun m => m.toJson.isWellFormed) = true := by
    simp [twins, Measurement.isWellFormed_toJson, measured, Text.isWellFormed_ofString]
  have wrote := value_write_of_isExact isExact_twins rfl first
  have restored := value_restore_written isExact_twins rfl first
    (ofLastDays_twins ▸ wellFormed) (noonOfMay 3) 0
  -- A stable sort leaves the reversed list as it is, since both dates are the same.
  have records : written twins start (noonOfMay 2) =
      [measured "b" none (noonOfMay 0), measured "a" none (noonOfMay 0)] := by
    rw [written_eq isExact_twins rfl first ofLastDays_twins]
    exact List.mergeSort_of_pairwise (by simp [measured, twins, History.reversed])
  rw [ofLastDays_twins, if_pos wellFormed] at wrote
  rw [records] at wrote restored
  -- The latest of the two is the first one that is found, before and after.
  refine ⟨isExact_twins, ofLastDays_twins, _, _, _, _, rfl, ?_, wrote, restored, ?_, ?_⟩
  · simp [measured, Text.ofString_inj]
  · rfl
  · rfl

end Backup

end AirQuality
