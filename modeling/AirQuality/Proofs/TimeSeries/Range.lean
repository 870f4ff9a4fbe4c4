import AirQuality.Proofs.Store.Ranges
import AirQuality.Proofs.Time.Utc
import AirQuality.Proofs.Time.ZuluText
import AirQuality.TimeSeries.Store

/-!
# Ranges of the database

A selection of points ends before its second time, a range of measurements with it; so the end of a
range is put off by the least step of time. The history in memory and the one in the database give
the measurements of the same range then. The last moment of the calendar cannot be put off, and no
selection is made of a range that ends with it; and a time before the year 1000 is written with too
few digits for the database.

## Key results

- `Selection.exists_selection`, `Selection.records_of_isLast`: the selection of a range at UTC
- `isFrom_iff`: the texts of a selection stand for the range
- `between_selects_range`: both histories give the same range
- `between_at_calendar_ends`: where they do not
-/

namespace AirQuality

open Time (Moment DateRange Bound zulu?)

/-- Whether no moment of the same clock is later. -/
def Time.Moment.isLast (m : Moment) : Bool := m.wall.micros + 1 == Time.calendarMicros

namespace TimeSeries

/-! ## Selections of ranges -/

namespace Selection

/-- A moment at UTC is placed where it is. -/
private theorem atUtc_of_utc {m : Moment} (utc : m.offset = some .zero) : atUtc m = .ok m := by
  simp [atUtc, utc, Moment.toUtc?_of_utc utc, orFault]

/-- A range at UTC that does not end with the calendar is selected up to the least step behind its
end. -/
theorem exists_selection {start stop : Moment} (first : start.offset = some .zero)
    (last : stop.offset = some .zero) (inside : stop.isLast = false) (station : Option Int)
    (newestFirst : Bool) (limit : Option Nat) :
    ∃ next, next.offset = some .zero ∧ next.key = stop.key + step ∧
      records start stop station newestFirst limit =
        .ok ⟨start, some next, station, .records newestFirst limit⟩ := by
  have fits := stop.wall.inCalendar
  -- The moment is not the last one, so that the step behind it is in the calendar.
  have there : (stop.shift? step).isSome = true := by
    rw [Moment.isSome_shift?_iff]
    simp only [Moment.isLast, beq_eq_false_iff_ne] at inside
    simp only [step]
    omega
  obtain ⟨next, shifted⟩ := Option.isSome_iff_exists.mp there
  have utc : next.offset = some .zero := by rw [(Moment.shift?_eq_some shifted).1, last]
  refine ⟨next, utc, Moment.key_of_shift? shifted, ?_⟩
  simp only [records, atUtc_of_utc first, shifted, orFault, atUtc_of_utc utc, bind, Except.bind,
    pure, Except.pure]

/-- No selection is made of a range that ends with the calendar. -/
theorem records_of_isLast {start stop : Moment} (first : start.offset = some .zero)
    (ended : stop.isLast = true) (station : Option Int) (newestFirst : Bool) (limit : Option Nat) :
    records start stop station newestFirst limit = .error .outOfRange := by
  -- One step behind the last moment the calendar has ended.
  have gone : stop.shift? step = none := by
    rw [← Option.not_isSome_iff_eq_none, Moment.isSome_shift?_iff]
    simp only [Moment.isLast, beq_iff_eq] at ended
    simp only [step]
    omega
  simp only [records, atUtc_of_utc first, gone, orFault, bind, Except.bind]

end Selection

/-! ## Texts of ranges -/

/-- Whether a moment lies in the range that two texts stand for. The range ends before the moment of
the second text. -/
def IsFrom (first last : String) (t : Moment) : Prop :=
  ∃ start ∈ zulu? first.toList, ∃ stop ∈ zulu? last.toList, start.key ≤ t.key ∧ t.key < stop.key

/-- A moment at UTC is not in an earlier year than the ones before it. -/
theorem year_mono {a b : Moment} (first : a.offset = some .zero) (last : b.offset = some .zero)
    (order : a.key ≤ b.key) : a.year ≤ b.year := by
  -- The instants are wall times here, and these are ordered as their days are.
  rw [Moment.key_of_utc first, Moment.key_of_utc last] at order
  exact Time.yearOfDayNumber_mono (Nat.div_le_div_right (by omega))

/-- The texts of a range from the year 1000 on stand for the moments of the range. -/
theorem isFrom_iff {start stop next : Moment} (first : start.offset = some .zero)
    (last : next.offset = some .zero) (behind : next.key = stop.key + step)
    (order : start.key ≤ stop.key) (late : 1000 ≤ start.year) (t : Moment) :
    IsFrom start.zuluText next.zuluText t ↔ start.key ≤ t.key ∧ t.key ≤ stop.key := by
  -- The end is not in an earlier year than the beginning.
  have later : 1000 ≤ next.year := by
    have years := year_mono first last (by rw [behind, step]; omega)
    omega
  have read : zulu? start.zuluText.toList = some start := by
    rw [Time.zulu?_zuluText first, if_pos late]
  have read_next : zulu? next.zuluText.toList = some next := by
    rw [Time.zulu?_zuluText last, if_pos later]
  -- A moment before the step behind the end is not after the end.
  simp only [IsFrom, read, read_next, Option.mem_some_iff, exists_eq_left', behind, step]
  omega

/-- The first lines of the text of a selection with an end. -/
private theorem text_of_stop (bucket : String) (start stop : Moment) (station : Option Int)
    (wanted : Wanted) :
    ∃ rest, Selection.text bucket ⟨start, some stop, station, wanted⟩ =
      "\n".intercalate (("from(bucket: \"" ++ bucket ++ "\")") ::
        ("|> range(start: " ++ start.zuluText ++ (", stop: " ++ stop.zuluText) ++ ")") :: rest) :=
  ⟨("|> filter(fn: (r) => r._measurement == \"" ++ seriesName ++ "\")") ::
    (station.toList.map Selection.stationLine ++ Selection.wantedLines wanted), rfl⟩

/-! ## Both histories -/

/-- The history in memory gives the measurements of any range with offsets. -/
theorem value_between {h : History} (aware : ∀ m ∈ h.records, m.date.isAware = true)
    {start stop : Moment} (first : start.isAware = true) (last : stop.isAware = true) :
    ∃ out, ((History.store.between start stop).runOn h).value = (.ok out, h) ∧
      ∀ m, m ∈ out ↔ m ∈ h.records ∧ start.key ≤ m.date.key ∧ m.date.key ≤ stop.key := by
  -- The range is a filter that is sorted, and sorting loses nothing.
  refine ⟨History.sortByDateDescending (h.records.filter (·.isWithin start stop)), ?_, ?_⟩
  · rw [History.store, History.value_runOn_asking, History.between?_of_aware aware first last]
  · intro m
    rw [(History.sortByDateDescending_perm _).mem_iff, List.mem_filter]
    refine and_congr_right fun mem => ?_
    have dated := aware m mem
    exact History.isWithin_iff (Moment.comparable_of_aware first dated)
      (Moment.comparable_of_aware dated last)

/-- Both histories give the measurements of an accepted range. The database is asked with two texts
that stand for the range if it begins in the year 1000 or later; before, the first text is none of
RFC 3339. Only a range that ends with the calendar is refused by the database, which is not asked
then. -/
theorem between_selects_range {σ : Type} (c : Client σ) (clock : Moment) {a b : Bound}
    {range : DateRange} (accepted : DateRange.read a b = .ok range) :
    (range.stop.isLast = true → ∀ s,
      ((Session.store c clock).between range.start range.stop).runOn s =
        pure (.error .outOfRange, s)) ∧
    (range.stop.isLast = false → ∃ sel first last,
      (Session.store c clock).between range.start range.stop = (do
        let tables ← Act.reporting "Error querying air quality measurements"
          (Session.call (c.select sel))
        Act.ofAsk (tables.flatten.mapM Row.measurement)) ∧
      (∀ bucket, ∃ rest, sel.text bucket =
        "\n".intercalate (("from(bucket: \"" ++ bucket ++ "\")") ::
          ("|> range(start: " ++ first ++ (", stop: " ++ last) ++ ")") :: rest)) ∧
      (range.start.year < 1000 → zulu? first.toList = none) ∧
      (1000 ≤ range.start.year →
        zulu? first.toList = some range.start ∧ (zulu? last.toList).isSome = true ∧
        ∀ t, t.isAware = true →
          (IsFrom first last t ↔ range.start.key ≤ t.key ∧ t.key ≤ range.stop.key))) ∧
    ∀ h : History, (∀ m ∈ h.records, m.date.isAware = true) → ∃ out,
      ((History.store.between range.start range.stop).runOn h).value = (.ok out, h) ∧
      ∀ m, m ∈ out ↔
        m ∈ h.records ∧ range.start.key ≤ m.date.key ∧ m.date.key ≤ range.stop.key := by
  obtain ⟨start, stop, order⟩ := DateRange.of_read accepted
  refine ⟨fun ended s => ?_, fun inside => ?_, fun h aware => ?_⟩
  -- The selection fails before the database is called.
  · have refused : (Session.store c clock).between range.start range.stop =
        Session.select c (.error .outOfRange) := by
      rw [← Selection.records_of_isLast start ended none true none]
      rfl
    rw [refused]
    rfl
  · -- The end of the selection is the least step behind the end of the range.
    obtain ⟨next, utc, behind, selection⟩ :=
      Selection.exists_selection start stop inside none true none
    refine ⟨⟨range.start, some next, none, .records true none⟩, range.start.zuluText, next.zuluText,
      ?_, fun bucket => text_of_stop bucket range.start next none _, fun early => ?_, fun late => ?_⟩
    · change Session.select c (Selection.records range.start range.stop none true none) = _
      rw [selection]
      exact pure_bind _ _
    -- With fewer than four digits the year is not read, and with four the text is read back.
    · rw [Time.zulu?_zuluText start, if_neg (by omega)]
    · refine ⟨by rw [Time.zulu?_zuluText start, if_pos late], ?_, fun t _ =>
        isFrom_iff start utc behind order late t⟩
      have later := year_mono start utc (by rw [behind, step]; omega)
      rw [Time.zulu?_zuluText utc, if_pos (by omega)]
      rfl
  · exact value_between aware (by simp [Moment.isAware, start]) (by simp [Moment.isAware, stop])

/-- A database without points. -/
def noPoints : Client Unit := ⟨fun _ => pure (), fun _ => pure [], fun _ => pure (), pure ()⟩

/-- The noon of the second of two days is in the range, and that of the third day is not. -/
theorem between_selects_range_twoDays :
    ∃ range, DateRange.read (.day ⟨2026, 5, 1⟩) (.day ⟨2026, 5, 2⟩) = .ok range ∧
      range.stop.isLast = false ∧ 1000 ≤ range.start.year ∧
      ∃ sel first last,
        (Session.store noPoints (History.noonOfMay 0)).between range.start range.stop = (do
          let tables ← Act.reporting "Error querying air quality measurements"
            (Session.call (noPoints.select sel))
          Act.ofAsk (tables.flatten.mapM Row.measurement)) ∧
        zulu? first.toList = some range.start ∧
        IsFrom first last (History.noonOfMay 1) ∧ ¬ IsFrom first last (History.noonOfMay 2) := by
  have accepted : DateRange.read (.day ⟨2026, 5, 1⟩) (.day ⟨2026, 5, 2⟩) = .ok
      ⟨⟨⟨(Time.Civil.mk 2026 5 1).dayNumber * Time.dayMicros, by decide⟩, some .zero⟩,
        ⟨⟨(Time.Civil.mk 2026 5 3).dayNumber * Time.dayMicros - 1, by decide⟩, some .zero⟩⟩ := by
    rfl
  -- The general statement, at the first two days of May.
  obtain ⟨_, asked, _⟩ := between_selects_range noPoints (History.noonOfMay 0) accepted
  obtain ⟨sel, first, last, same, _, _, read⟩ := asked (by decide)
  obtain ⟨start, _, isFrom⟩ := read (by decide)
  refine ⟨_, accepted, by decide, by decide, sel, first, last, same, start, ?_, ?_⟩
  · rw [isFrom _ rfl]
    decide
  · rw [isFrom _ rfl]
    decide

/-- Nothing is asked about the last day of the calendar, and a range of the year 999 is asked for
with a text that is none of RFC 3339. -/
theorem between_at_calendar_ends :
    (∃ range, DateRange.read (.day ⟨9999, 12, 31⟩) (.day ⟨9999, 12, 31⟩) = .ok range ∧
      ((Session.store noPoints (History.noonOfMay 0)).between range.start range.stop).runOn ⟨0, ()⟩ =
        pure (.error .outOfRange, ⟨0, ()⟩)) ∧
    ∃ range sel, DateRange.read (.day ⟨999, 1, 1⟩) (.day ⟨2026, 5, 1⟩) = .ok range ∧
      Selection.records range.start range.stop none true none = .ok sel ∧
      zulu? sel.start.zuluText.toList = none := by
  -- Both parts are about fixed days, and are computed.
  refine ⟨⟨_, rfl, rfl⟩, ?_⟩
  refine ⟨_, _, rfl, rfl, ?_⟩
  rw [Time.zulu?_zuluText rfl]
  decide

end TimeSeries

end AirQuality
