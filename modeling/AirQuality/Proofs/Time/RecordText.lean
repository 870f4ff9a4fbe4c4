import AirQuality.Proofs.Time.IsoText
import AirQuality.Time.Record

/-!
# Moments in records

The text of a moment in a record is read back as the moment, if its offset, should it have one, is
in whole minutes: a record has no room for seconds of an offset.

## Key results

- `Record.calendarText?_recordText`: day, time and offset are read back
- `Record.momentOfText_recordText`: so is the moment
-/

namespace AirQuality.Time

open AirQuality.Text (latinDigitValue?)

/-- Whether an offset is in whole minutes. -/
def UtcOffset.isWholeMinutes (o : UtcOffset) : Bool := o.micros % minuteMicros == 0

/-- Whether the offset of a moment, if it has one, is in whole minutes. -/
def Moment.isWholeMinutes (m : Moment) : Bool := m.offset.all UtcOffset.isWholeMinutes

namespace Record

/-! ## Digits -/

/-- The last two digits of a number, and what follows them. -/
private theorem pair?_digitsOf (n : Nat) (rest : List Char) :
    pair? (digitsOf 2 n ++ rest) = some (n % 100, rest) := by
  have chars : digitsOf 2 n = [(n / 10 % 10).digitChar, (n % 10).digitChar] := rfl
  have tens := latinDigitValue?_digitChar (Nat.mod_lt (n / 10) (show 0 < 10 by decide))
  have ones := latinDigitValue?_digitChar (Nat.mod_lt n (show 0 < 10 by decide))
  have value : 10 * (n / 10 % 10) + n % 10 = n % 100 := by omega
  simp [chars, pair?, tens, ones, value]

/-- A number below a hundred is its own last two digits. -/
private theorem pair?_of_lt {n : Nat} (small : n < 100) (rest : List Char) :
    pair? (digitsOf 2 n ++ rest) = some (n, rest) := by
  rw [pair?_digitsOf, Nat.mod_eq_of_lt small]

/-- The digits of a number are the digits of its hundreds and the last two. -/
private theorem digitsOf_add_two (width n : Nat) :
    digitsOf (width + 2) n = digitsOf width (n / 100) ++ digitsOf 2 n := by
  simp [digitsOf, Nat.div_div_eq_div_mul]

/-- The values of the digits of a number. -/
private theorem ofDigits_digitsOf {width n : Nat} (small : n < 10 ^ width) :
    Number.ofDigits ((digitsOf width n).filterMap latinDigitValue?) = n := by
  -- On the width: the value of the last digit is added to ten times the value of the others.
  induction width generalizing n with
  | zero =>
    obtain rfl : n = 0 := by omega
    rfl
  | succ width ih =>
    have fewer : n / 10 < 10 ^ width := by
      rw [Nat.pow_succ] at small
      omega
    have last := latinDigitValue?_digitChar (Nat.mod_lt n (show 0 < 10 by decide))
    have front := ih fewer
    rw [Number.ofDigits] at front ⊢
    rw [digitsOf, List.filterMap_append, List.foldl_append, front]
    simp only [List.filterMap_cons, last, List.filterMap_nil, List.foldl_cons, List.foldl_nil]
    omega

/-- Each digit has a value, so that there are as many values as the width says. -/
private theorem length_values (width n : Nat) :
    ((digitsOf width n).filterMap latinDigitValue?).length = width := by
  induction width generalizing n with
  | zero => rfl
  | succ width ih =>
    have last := latinDigitValue?_digitChar (Nat.mod_lt n (show 0 < 10 by decide))
    rw [digitsOf, List.filterMap_append, List.length_append, ih]
    simp [last]

/-! ## Days and times -/

/-- A day is read back. -/
theorem civil?_text {d : Civil} (year : d.year < 10000) (month : d.month < 100)
    (day : d.day < 100) (rest : List Char) : civil? (d.text.toList ++ rest) = some (d, rest) := by
  have whole : 100 * (d.year / 100) + d.year % 100 = d.year := Nat.div_add_mod d.year 100
  -- The year is read as two pairs, its hundreds and the rest.
  rw [toList_civilText year month day, digitsOf_add_two 2]
  simp only [List.append_assoc, List.cons_append, civil?, pair?_digitsOf,
    pair?_of_lt (show d.year / 100 < 100 by omega), pair?_of_lt month, pair?_of_lt day, mark?,
    Option.bind_eq_bind, Option.bind_some, if_true, whole]
  rfl

/-- What may follow a time of day: no digit, and no mark of a fraction. -/
def EndsTime (rest : List Char) : Prop :=
  ∀ c ∈ rest.head?, latinDigitValue? c = none ∧ c ≠ '.' ∧ c ≠ ','

/-- A fraction is read back. -/
private theorem fraction?_micros {micro : Nat} (small : micro < 1000000) {rest : List Char}
    (ends : EndsTime rest) : fraction? (microsChars micro ++ rest) = some (micro, rest) := by
  unfold microsChars
  split
  -- No fraction is written, and what follows is not taken for one.
  · rename_i whole
    subst whole
    cases rest with
    | nil => rfl
    | cons c rest =>
      obtain ⟨-, noPoint, noComma⟩ := ends c rfl
      simp [fraction?, noPoint, noComma]
  · -- What follows stops the digits, so these are the six that were written.
    have digits : ∀ c ∈ digitsOf 6 micro, (latinDigitValue? c).isSome = true :=
      forall_digitsOf (by decide)
    have stops : rest.takeWhile (fun c => (latinDigitValue? c).isSome) = [] := by
      cases rest with
      | nil => rfl
      | cons c rest => simp [(ends c rfl).1]
    have value := ofDigits_digitsOf (show micro < 10 ^ 6 from small)
    have length : ((digitsOf 6 micro).filterMap latinDigitValue?).length = 6 := length_values 6 micro
    have left : ('.' :: digitsOf 6 micro ++ rest).drop 7 = rest := rfl
    rw [List.cons_append, fraction?]
    simp only [true_or, if_true, List.takeWhile_append_of_pos digits, stops, List.append_nil]
    generalize (digitsOf 6 micro).filterMap latinDigitValue? = ds at length value
    rw [if_neg (by simp [← List.length_eq_zero_iff, length]),
      List.take_of_length_le (Nat.le_of_eq length), length, value]
    simp [Number.tenTo]

/-- A time of day is read back. -/
theorem dayTime?_text {t : DayTime} (fits : t.exists = true) {rest : List Char}
    (ends : EndsTime rest) : dayTime? (t.text.toList ++ rest) = some (t, rest) := by
  obtain ⟨hour, minute, second, micro⟩ := DayTime.exists_iff.mp fits
  -- The fields are below sixty, so that each of them is a pair of digits.
  rw [toList_dayTimeText (by omega) (by omega) (by omega) micro, hourChars]
  simp only [List.append_assoc, List.cons_append, dayTime?,
    pair?_of_lt (show t.hour < 100 by omega), pair?_of_lt (show t.minute < 100 by omega),
    pair?_of_lt (show t.second < 100 by omega), mark?, Option.bind_eq_bind, Option.bind_some,
    if_true, fraction?_micros micro ends]
  rfl

/-! ## Offsets -/

/-- The seconds of an offset in whole minutes are not rounded. -/
private theorem seconds_of_wholeMinutes {o : UtcOffset} (whole : o.isWholeMinutes = true) :
    (2 * o.micros.natAbs + secondMicros) / (2 * secondMicros) = o.micros.natAbs / secondMicros := by
  simp only [UtcOffset.isWholeMinutes, beq_iff_eq, minuteMicros, secondMicros] at *
  omega

/-- The characters of an offset in whole minutes, with a letter for none. -/
private theorem toList_recordText {o : UtcOffset} (whole : o.isWholeMinutes = true) :
    o.recordText.toList =
      if o.micros = 0 then ['Z']
      else (if o.micros < 0 then '-' else '+') ::
        hourChars (o.micros.natAbs / hourMicros) (o.micros.natAbs / minuteMicros % 60) := by
  have hours := o.hours_lt
  -- Seconds come to whole minutes, and so the quotients by hours and minutes are those of the text.
  have hour : o.micros.natAbs / secondMicros / 3600 = o.micros.natAbs / hourMicros := by
    rw [Nat.div_div_eq_div_mul, show secondMicros * 3600 = hourMicros by decide]
  have minute : o.micros.natAbs / secondMicros / 60 = o.micros.natAbs / minuteMicros := by
    rw [Nat.div_div_eq_div_mul, show secondMicros * 60 = minuteMicros by decide]
  have none_left : o.micros.natAbs / secondMicros = 0 ↔ o.micros = 0 := by
    simp only [UtcOffset.isWholeMinutes, beq_iff_eq, minuteMicros, secondMicros] at *
    omega
  simp only [UtcOffset.recordText, seconds_of_wholeMinutes whole, none_left, hour, minute]
  split
  · rfl
  · simp only [String.toList_append,
      toList_padded_two (show o.micros.natAbs / hourMicros < 100 by omega),
      toList_padded_two (show o.micros.natAbs / minuteMicros % 60 < 100 by omega), hourChars]
    split <;> simp

/-- An offset in whole minutes is read back. -/
theorem offset?_text {o : UtcOffset} (whole : o.isWholeMinutes = true) :
    offset? o.recordText.toList = some (some o) := by
  have hours := o.hours_lt
  obtain ⟨micros, inRange⟩ := o
  rw [toList_recordText whole]
  simp only at hours ⊢
  split
  · rename_i zero
    subst zero
    rfl
  -- Hours and minutes add up to the size of the offset, since nothing is left of a minute.
  · have value : (((micros.natAbs / hourMicros : Nat) : Int) * 60 +
        ((micros.natAbs / minuteMicros % 60 : Nat) : Int)) * minuteMicros = micros.natAbs := by
      simp only [UtcOffset.isWholeMinutes, beq_iff_eq, minuteMicros, hourMicros, secondMicros] at *
      omega
    have fits : micros.natAbs / minuteMicros % 60 < 60 := Nat.mod_lt _ (by decide)
    generalize micros.natAbs / hourMicros = hour at *
    generalize micros.natAbs / minuteMicros % 60 = minute at *
    have hourRead := pair?_of_lt (show hour < 100 by omega) (':' :: digitsOf 2 minute)
    have minuteRead := pair?_of_lt (show minute < 100 by omega) []
    rw [List.append_nil] at minuteRead
    have made : UtcOffset.ofMicros? micros = some ⟨micros, inRange⟩ := by
      rw [UtcOffset.ofMicros?, dif_pos inRange]
    -- The size of the offset is read from its digits, and its side from the mark in front of them.
    by_cases west : micros < 0
    · have signed : -((hour * 60 + minute : Int) * minuteMicros) = micros := by
        rw [value, Int.ofNat_natAbs_of_nonpos (Int.le_of_lt west), Int.neg_neg]
      simp [offset?, west, hourChars, hourRead, minuteRead, fits, signed, made]
    · have signed : (hour * 60 + minute : Int) * minuteMicros = micros := by
        rw [value, Int.natAbs_of_nonneg (Int.not_lt.mp west)]
      simp [offset?, west, hourChars, hourRead, minuteRead, fits, signed, made]

/-- The text of an offset does not go on with a time of day. -/
private theorem endsTime_offset {m : Moment} (whole : m.isWholeMinutes = true) :
    EndsTime ((m.offset.map UtcOffset.recordText).getD "").toList := by
  obtain ⟨wall, offset⟩ := m
  cases offset with
  | none => intro c first; cases first
  | some o =>
    intro c first
    -- The text begins with the letter or with a sign.
    rw [Option.map_some, Option.getD_some, toList_recordText whole] at first
    split at first
    · obtain rfl : 'Z' = c := by simpa using first
      decide
    · split at first
      · obtain rfl : '-' = c := by simpa using first
        decide
      · obtain rfl : '+' = c := by simpa using first
        decide

/-! ## Moments -/

/-- Day, time and offset are read back. -/
theorem calendarText?_recordText {m : Moment} (whole : m.isWholeMinutes = true) :
    calendarText? m.recordText.toList = some (m.wall.civil, m.wall.dayTime, m.offset) := by
  obtain ⟨year, month, day⟩ := Civil.fields_lt m.wall.exists_civil
  -- The parts are read in the order in which they are written.
  have chars : m.recordText.toList = m.wall.civil.text.toList ++
      'T' :: (m.wall.dayTime.text.toList ++
        ((m.offset.map UtcOffset.recordText).getD "").toList) := by
    simp [Moment.recordText, WallTime.text]
  have offset : offset? ((m.offset.map UtcOffset.recordText).getD "").toList = some m.offset := by
    obtain ⟨wall, offset⟩ := m
    cases offset with
    | none => rfl
    | some o =>
      rw [Option.map_some, Option.getD_some]
      exact offset?_text whole
  have separator : isSeparator 'T' = true := by decide
  rw [chars]
  simp only [calendarText?, civil?_text year month day, Option.bind_eq_bind, Option.bind_some,
    separator, if_true, dayTime?_text m.wall.exists_dayTime (endsTime_offset whole), offset]
  rfl

/-- A moment is read back from its text in a record if its offset is in whole minutes. -/
theorem momentOfText_recordText {m : Moment} (whole : m.isWholeMinutes = true) :
    momentOfText m.recordText = .value m := by
  have day : m.wall.civil.isInMonth = true := by
    have inCalendar := m.wall.exists_civil
    simp only [Civil.exists, Bool.and_eq_true] at inCalendar
    exact inCalendar.2
  rw [momentOfText, calendarMoment, calendarText?_recordText whole]
  simp only [day, m.wall.exists_dayTime, Bool.and_self, if_true, m.wall.of?_civil_dayTime,
    Option.map_some, RecordMoment.ofOption]

end Record

end AirQuality.Time
