import AirQuality.Enquiry
import AirQuality.Proofs.Statistics.Content
import AirQuality.Proofs.Store.Changes

/-!
# Windows of days

An enquiry for some days goes back as many days as it asks for, but at least one and at most ninety.
All enquiries at one moment cut the same list: what fewer days find is what more days find in the
end, since a longer window only has older measurements in front, and those of the day where the
shorter one begins are in both or in none.

## Key results

- `exists_window`: where the window of some days begins
- `value_history`, `value_statistics`: what is found in it, and the statistics of that
- `lastDays_isSuffix`: what fewer days find is the end of what more days find
- `windows_nested`: the answers of enquiries at one moment
-/

namespace AirQuality

open Time (Moment dayMicros)

/-! ## Days -/

namespace Number

/-- The lesser of two integers is an integer. -/
private theorem least_int (a b : Int) : least (.int a) (.int b) = .int (min a b) := by
  simp only [least, leastBy, lt, id, decide_eq_true_eq]
  -- The second one is taken only if it is less.
  split
  · rw [Int.min_eq_right (by omega)]
  · rw [Int.min_eq_left (by omega)]

/-- The greater of two integers is an integer. -/
private theorem greatest_int (a b : Int) : greatest (.int a) (.int b) = .int (max a b) := by
  simp only [greatest, greatestBy, lt, id, decide_eq_true_eq]
  split
  · rw [Int.max_eq_right (by omega)]
  · rw [Int.max_eq_left (by omega)]

/-- Whole numbers are brought between whole bounds without rounding. -/
private theorem clamp_int (n lower upper : Int) :
    clamp (.int n) (.int lower) (.int upper) = .int (max lower (min upper n)) := by
  rw [← greatest_int, ← least_int]
  rfl

end Number

namespace Enquiry

/-- How many days back an enquiry for some days goes. -/
def daysBack (days : Int) : Int := max 1 (min 90 days)

/-- An enquiry goes back at least one day and at most ninety. -/
private theorem daysBack_bounds (days : Int) : 0 ≤ daysBack days ∧ daysBack days ≤ 90 := by
  unfold daysBack
  omega

/-- An enquiry for more days goes back as far or farther. -/
private theorem daysBack_mono {d₁ d₂ : Int} (le : d₁ ≤ d₂) : daysBack d₁ ≤ daysBack d₂ := by
  unfold daysBack
  omega

/-- Below the least and above the greatest count, one enquiry is like another. -/
private theorem daysBack_eq {d₁ d₂ : Int} (le : d₁ ≤ d₂) (outside : d₂ ≤ 1 ∨ 90 ≤ d₁) :
    daysBack d₁ = daysBack d₂ := by
  unfold daysBack
  omega

/-- If the calendar has the ninety days before now, it has the begin of each window. -/
theorem exists_window {σ : Type} {e : Enquiry σ} (room : 90 * dayMicros ≤ e.clock.wall.micros)
    (days : Int) : ∃ start, e.clock.shift? (-(daysBack days * dayMicros)) = some start ∧
      e.window (.int days) = .ok (start, e.clock) := by
  -- Ninety days back is the farthest that any window begins.
  have inCalendar : (e.clock.shift? (-(daysBack days * dayMicros))).isSome = true := by
    rw [Moment.isSome_shift?_iff]
    obtain ⟨least, most⟩ := daysBack_bounds days
    have after := Int.mul_nonneg least (Int.natCast_nonneg dayMicros)
    have before := Int.mul_le_mul_of_nonneg_right most (Int.natCast_nonneg dayMicros)
    have now := e.clock.wall.inCalendar
    omega
  obtain ⟨start, first⟩ := Option.isSome_iff_exists.mp inCalendar
  have clamped : clampDays (.int days) = .int (daysBack days) := Number.clamp_int days 1 90
  refine ⟨start, first, ?_⟩
  simp only [window, clamped, whole, Number.truncate?, orFault, bind, Except.bind, first]
  rfl

/-! ## Measurements of the last days -/

/-- The measurements of a station in some days up to now, oldest first. -/
def lastDays (h : History) (id : Int) (now : Moment) (days : Int) : List Measurement :=
  History.sortByDate ((h.recordsOf id).filter (·.isOfLast days now))

/-- A longer window has the measurements of a shorter one in the end, with older ones in front. -/
theorem lastDays_isSuffix (h : History) (id : Int) (now : Moment) {d₁ d₂ : Int} (le : d₁ ≤ d₂) :
    lastDays h id now d₁ <:+ lastDays h id now d₂ := by
  have longer := Int.mul_le_mul_of_nonneg_right le (Int.natCast_nonneg dayMicros)
  -- Both windows end now, so that the begin of the shorter one is all that cuts it off.
  have cut : lastDays h id now d₁ =
      (lastDays h id now d₂).filter fun m => now.key - d₁ * dayMicros ≤ m.date.key := by
    rw [lastDays, lastDays, History.filter_sortByDate, List.filter_filter]
    congr 1
    refine List.filter_congr fun m _ => ?_
    rw [Bool.eq_iff_iff]
    simp only [Measurement.isOfLast, Bool.and_eq_true, decide_eq_true_eq]
    omega
  rw [cut]
  refine Order.filter_isSuffix (History.pairwise_sortByDate _) fun a b ordered since => ?_
  simpa using Int.le_trans (of_decide_eq_true since) ordered

/-- Whether a list is what a station has in some days up to now, oldest first. -/
structure IsOfLastDays (h : History) (id : Int) (now : Moment) (days : Int)
    (out : List Measurement) : Prop where
  perm : out.Perm ((h.recordsOf id).filter (·.isOfLast days now))
  dated : ∀ m ∈ out, now.key - days * dayMicros ≤ m.date.key ∧ m.date.key ≤ now.key
  ordered : out.Pairwise fun a b => a.date.key ≤ b.date.key

/-- The last days are what a station has in them, oldest first. -/
private theorem isOfLastDays_lastDays (h : History) (id : Int) (now : Moment) (days : Int) :
    IsOfLastDays h id now days (lastDays h id now days) where
  perm := History.sortByDate_perm _
  -- What is sorted has been filtered before, and so each date is in the window.
  dated m mem := by
    have within := (List.mem_filter.mp ((History.sortByDate_perm _).mem_iff.mp mem)).2
    simpa [Measurement.isOfLast] using within
  ordered := History.pairwise_sortByDate _

/-! ## Enquiries about a history -/

section Answers

variable {e : Enquiry History} (stored : e.store = History.store) {h : History} {id : Int}
  (aware : ∀ m ∈ h.records, m.date.isAware = true) (now_aware : e.clock.isAware = true)

include aware now_aware

/-- The range that ends now and begins some days ago is that of the last days. -/
private theorem ofStation?_lastDays {days : Int} {start : Moment}
    (first : e.clock.shift? (-(days * dayMicros)) = some start) :
    h.ofStation? id start e.clock = .ok (lastDays h id e.clock days) := by
  have start_aware : start.isAware = true := (Moment.isAware_of_shift? first).trans now_aware
  -- A date is in the range if its key is at least the begin and at most now.
  rw [History.ofStation?_of_aware aware start_aware now_aware, lastDays]
  congr 2
  exact List.filter_congr fun m mem =>
    History.isWithin_of_shift now_aware first (aware m (List.mem_of_mem_filter mem))

variable (room : 90 * dayMicros ≤ e.clock.wall.micros)

include stored room

/-- An enquiry for some days finds the measurements of the days that it goes back. -/
theorem value_history (days : Int) :
    ((e.history id (.int days)).runOn h).value =
      (.ok (lastDays h id e.clock (daysBack days)), h) := by
  obtain ⟨start, first, window⟩ := exists_window room days
  -- The window is worked out, and the store answers for it.
  simp only [history, Act.value_runOn_bind, Act.runOn_ofExcept, Traced.value_pure, window,
    Act.value_runOn_info]
  simp [stored, History.store, ofStation?_lastDays aware now_aware first]

/-- Statistics are made of what an enquiry for as many days finds. -/
theorem value_statistics (days : Int) :
    ∃ start, ((e.statistics id (.int days)).runOn h).value =
      (.ok (Statistics.of? id start e.clock (lastDays h id e.clock (daysBack days))), h) := by
  obtain ⟨start, first, window⟩ := exists_window room days
  refine ⟨start, ?_⟩
  simp only [statistics, Act.value_runOn_bind, Act.runOn_ofExcept, Traced.value_pure, window]
  simp [stored, History.store, History.statistics?, ofStation?_lastDays aware now_aware first,
    Except.map]

end Answers

/-- The answers of enquiries at one moment about a station in a history. Each finds what the history
has of the days that it goes back, oldest first, and there are statistics of as many measurements
unless it finds none. What an enquiry for fewer days finds is what one for more days finds in the
end, and they find the same where both go back one day or both ninety. -/
theorem windows_nested {e : Enquiry History} (stored : e.store = History.store) {h : History}
    (aware : ∀ m ∈ h.records, m.date.isAware = true) (now_aware : e.clock.isAware = true)
    (room : 90 * dayMicros ≤ e.clock.wall.micros) (id : Int) :
    ∃ found : Int → List Measurement,
      (∀ days, ((e.history id (.int days)).runOn h).value = (.ok (found days), h) ∧
        IsOfLastDays h id e.clock (daysBack days) (found days) ∧
        ∃ answer, ((e.statistics id (.int days)).runOn h).value = (.ok answer, h) ∧
          (answer = none ↔ found days = []) ∧ ∀ s ∈ answer, s.count = (found days).length) ∧
      ∀ d₁ d₂, d₁ ≤ d₂ → found d₁ <:+ found d₂ ∧ (d₂ ≤ 1 ∨ 90 ≤ d₁ → found d₁ = found d₂) := by
  refine ⟨fun days => lastDays h id e.clock (daysBack days), fun days => ?_, fun d₁ d₂ le => ?_⟩
  -- Both enquiries go back as many days, so the statistics are those of what is found.
  · obtain ⟨start, value⟩ := value_statistics stored aware now_aware room days
    exact ⟨value_history stored aware now_aware room days, isOfLastDays_lastDays h id e.clock _, _,
      value, Statistics.of?_eq_none_iff, fun s made => Statistics.count_of? made⟩
  -- The clamp keeps the order of the days, and outside of it all days are the same.
  · refine ⟨lastDays_isSuffix h id e.clock (daysBack_mono le), fun outside => ?_⟩
    simp only [daysBack_eq le outside]

open History (bare noonOfMay)

/-- Enquiries at noon on the ninth of May, without a feed. -/
def noonEnquiry : Enquiry History where
  provider := ⟨pure [], fun _ => pure none, fun _ => pure []⟩
  store := History.store
  clock := noonOfMay 8

/-- Three measurements. One of them is exactly a day old, and one is older. -/
def threeNoons : History :=
  ⟨[bare 7 (noonOfMay 7), bare 7 (noonOfMay 8), bare 7 (noonOfMay 0)], 0⟩

/-- A day back there are two measurements, and ninety days back there is one more. -/
theorem windows_nested_threeNoons :
    noonEnquiry.store = History.store ∧ (∀ m ∈ threeNoons.records, m.date.isAware = true) ∧
    noonEnquiry.clock.isAware = true ∧ 90 * dayMicros ≤ noonEnquiry.clock.wall.micros ∧
    ∃ short long s, ((noonEnquiry.history 7 (.int 0)).runOn threeNoons).value =
        (.ok short, threeNoons) ∧
      ((noonEnquiry.history 7 (.int 100)).runOn threeNoons).value = (.ok long, threeNoons) ∧
      short <:+ long ∧ short.Perm [bare 7 (noonOfMay 7), bare 7 (noonOfMay 8)] ∧ long.length = 3 ∧
      ((noonEnquiry.statistics 7 (.int 1)).runOn threeNoons).value = (.ok (some s), threeNoons) ∧
      s.count = 2 := by
  have aware : ∀ m ∈ threeNoons.records, m.date.isAware = true := by decide
  have room : 90 * dayMicros ≤ noonEnquiry.clock.wall.micros := by decide
  obtain ⟨found, answers, nested⟩ := windows_nested (e := noonEnquiry) rfl aware rfl room 7
  have short : (found 0).Perm [bare 7 (noonOfMay 7), bare 7 (noonOfMay 8)] := (answers 0).2.1.perm
  have long : (found 100).Perm threeNoons.records := (answers 100).2.1.perm
  -- Zero days and one day find the same, which is known of the two measurements.
  have same : found 0 = found 1 := (nested 0 1 (by decide)).2 (.inl (by decide))
  have two : (found 1).length = 2 := same ▸ short.length_eq
  obtain ⟨-, -, answer, made, none_iff, count⟩ := answers 1
  cases answer with
  -- There are two measurements, and so statistics of them.
  | none =>
    rw [none_iff.mp rfl] at two
    cases two
  | some s =>
    refine ⟨rfl, aware, rfl, room, found 0, found 100, s, (answers 0).1, (answers 100).1,
      (nested 0 100 (by decide)).1, short, long.length_eq, made, ?_⟩
    rw [count s rfl, two]
    rfl

end Enquiry

end AirQuality
