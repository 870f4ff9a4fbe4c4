import AirQuality.Proofs.Time.Calendar
import AirQuality.Proofs.Time.Digits

/-!
# Moments as ISO 8601 texts

A moment that is written as a day, a `T`, a time of day and its offset is read back as the same
moment. The one exception is an offset of less than a second, of which nothing is read but zero.

## Key results

- `Iso.clock?_secondChars`: a time of day is read back
- `Iso.offset?_text`: what is read of an offset
- `Iso.civil?_text`: a day is read back
- `Iso.moment?_isoText`: so is a moment
-/

namespace AirQuality.Time

open AirQuality.Text (latinDigitValue?)

/-- The offset that is read from the text of an offset. Nothing is read of one of less than a
second. -/
def UtcOffset.asRead (o : UtcOffset) : UtcOffset :=
  if o.micros.natAbs < secondMicros then .zero else o

/-- The moment that is read from the text of a moment. -/
def Moment.asRead (m : Moment) : Moment := ⟨m.wall, m.offset.map UtcOffset.asRead⟩

/-- Whether an offset is zero or at least a second. -/
def UtcOffset.isReadable (o : UtcOffset) : Bool := o.micros == 0 || secondMicros ≤ o.micros.natAbs

/-- An offset that is zero or long enough is read as it is. -/
theorem UtcOffset.asRead_of_readable {o : UtcOffset} (h : o.isReadable = true) : o.asRead = o := by
  obtain ⟨micros, inRange⟩ := o
  simp only [isReadable, Bool.or_eq_true, beq_iff_eq, decide_eq_true_eq] at h
  rcases h with rfl | long
  · rfl
  · rw [asRead, if_neg (Nat.not_lt.mpr long)]

/-- So is a moment with such an offset or none. -/
theorem Moment.asRead_of_readable {m : Moment} (h : m.offset.all UtcOffset.isReadable = true) :
    m.asRead = m := by
  obtain ⟨wall, offset⟩ := m
  cases offset with
  | none => rfl
  | some o => rw [asRead, Option.map_some, UtcOffset.asRead_of_readable (by simpa using h)]

/-- The fields of a day of the calendar have their widths. -/
theorem Civil.fields_lt {d : Civil} (h : d.exists = true) :
    d.year < 10000 ∧ d.month < 100 ∧ d.day < 100 := by
  simp only [Civil.exists, Civil.isInMonth, Bool.and_eq_true, decide_eq_true_eq] at h
  have length := daysInMonth_le d.year d.month
  have last : lastYear = 9999 := rfl
  omega

/-- An offset has less than 24 hours. -/
theorem UtcOffset.hours_lt (o : UtcOffset) : o.micros.natAbs / hourMicros < 24 := by
  have inRange := o.inRange
  -- All divisors are fixed numbers, so that this is arithmetic.
  simp only [dayMicros, hourMicros, secondMicros] at *
  omega

/-! ## Characters -/

/-- The characters of a day, each field with its width. -/
theorem toList_civilText {d : Civil} (year : d.year < 10000) (month : d.month < 100)
    (day : d.day < 100) :
    d.text.toList = digitsOf 4 d.year ++ '-' :: (digitsOf 2 d.month ++ '-' :: digitsOf 2 d.day) := by
  simp only [Civil.text, String.toList_append, toList_padded (show 0 < 4 by decide) year,
    toList_padded_two month, toList_padded_two day, List.append_assoc]
  rfl

/-- The characters of a fraction. -/
def microsChars (micro : Nat) : List Char := if micro = 0 then [] else '.' :: digitsOf 6 micro

/-- The characters of a fraction, with six digits. -/
private theorem toList_microsText {micro : Nat} (h : micro < 1000000) :
    (microsText micro).toList = microsChars micro := by
  unfold microsText microsChars
  split
  · rfl
  · rw [String.toList_append, toList_padded (show 0 < 6 by decide) h]
    rfl

/-- The characters of hours and minutes. -/
def hourChars (hour minute : Nat) : List Char := digitsOf 2 hour ++ ':' :: digitsOf 2 minute

/-- The characters of seconds and a fraction, or nothing if there are neither. -/
def secondChars (second micro : Nat) : List Char :=
  if second = 0 ∧ micro = 0 then [] else ':' :: (digitsOf 2 second ++ microsChars micro)

/-- The characters of a time of day: the fraction is left out if it is zero. -/
theorem toList_dayTimeText {t : DayTime} (hour : t.hour < 100) (minute : t.minute < 100)
    (second : t.second < 100) (micro : t.micro < 1000000) :
    t.text.toList =
      hourChars t.hour t.minute ++ ':' :: (digitsOf 2 t.second ++ microsChars t.micro) := by
  simp only [DayTime.text, String.toList_append, toList_padded_two hour, toList_padded_two minute,
    toList_padded_two second, toList_microsText micro, List.append_assoc, hourChars]
  rfl

/-- The characters of an offset: sign, hours and minutes, and the rest if there is one. -/
private theorem toList_offsetText (o : UtcOffset) :
    o.text.toList = (if o.micros < 0 then '-' else '+') ::
      (hourChars (o.micros.natAbs / hourMicros) (o.micros.natAbs / minuteMicros % 60) ++
        secondChars (o.micros.natAbs / secondMicros % 60) (o.micros.natAbs % secondMicros)) := by
  have hour : o.micros.natAbs / hourMicros < 100 := Nat.lt_trans o.hours_lt (by decide)
  have minute : o.micros.natAbs / minuteMicros % 60 < 100 := by omega
  have second : o.micros.natAbs / secondMicros % 60 < 100 := by omega
  have micro : o.micros.natAbs % secondMicros < 1000000 := Nat.mod_lt _ (by decide)
  simp only [UtcOffset.text, String.toList_append, toList_padded_two hour,
    toList_padded_two minute, hourChars, secondChars]
  -- Minutes always, seconds and a fraction only if they are not zero.
  split <;> split <;> simp [toList_padded_two second, toList_microsText micro]

/-- The characters of a fraction are digits and a point. -/
private theorem forall_microsChars {p : Char → Prop} (digits : ∀ n : Fin 10, p (n : Nat).digitChar)
    (point : p '.') {micro : Nat} : ∀ c ∈ microsChars micro, p c := by
  unfold microsChars
  split
  · simp
  · exact List.forall_mem_cons.mpr ⟨point, forall_digitsOf digits⟩

/-- The characters of hours and minutes are digits and a colon. -/
private theorem forall_hourChars {p : Char → Prop} (digits : ∀ n : Fin 10, p (n : Nat).digitChar)
    (colon : p ':') {hour minute : Nat} : ∀ c ∈ hourChars hour minute, p c :=
  List.forall_mem_append.mpr
    ⟨forall_digitsOf digits, List.forall_mem_cons.mpr ⟨colon, forall_digitsOf digits⟩⟩

/-- The characters of a time of day are digits, colons and a point. -/
theorem forall_dayTimeText {p : Char → Prop} (digits : ∀ n : Fin 10, p (n : Nat).digitChar)
    (colon : p ':') (point : p '.') {t : DayTime} (fits : t.exists = true) :
    ∀ c ∈ t.text.toList, p c := by
  obtain ⟨hour, minute, second, micro⟩ := DayTime.exists_iff.mp fits
  rw [toList_dayTimeText (by omega) (by omega) (by omega) micro]
  intro c mem
  -- Hours and minutes, a colon, seconds, and the fraction.
  rcases List.mem_append.mp mem with hours | rest
  · exact forall_hourChars digits colon c hours
  · rcases List.mem_cons.mp rest with rfl | rest
    · exact colon
    · rcases List.mem_append.mp rest with second | fraction
      · exact forall_digitsOf digits c second
      · exact forall_microsChars digits point c fraction

/-- The characters of an offset are digits, colons, a point and a sign. -/
theorem forall_offsetText {p : Char → Prop} (digits : ∀ n : Fin 10, p (n : Nat).digitChar)
    (colon : p ':') (point : p '.') (plus : p '+') (minus : p '-') (o : UtcOffset) :
    ∀ c ∈ o.text.toList, p c := by
  rw [toList_offsetText]
  intro c mem
  rcases List.mem_cons.mp mem with rfl | rest
  · split
    · exact minus
    · exact plus
  · rcases List.mem_append.mp rest with hours | seconds
    · exact forall_hourChars digits colon c hours
    · unfold secondChars at seconds
      split at seconds
      · cases seconds
      · rcases List.mem_cons.mp seconds with rfl | rest
        · exact colon
        · rcases List.mem_append.mp rest with second | fraction
          · exact forall_digitsOf digits c second
          · exact forall_microsChars digits point c fraction

/-! ## Times of day -/

namespace Iso

variable {parts : List Nat} {left n : Nat}

/-- Two digits and what follows them. -/
theorem digits?_two (small : n < 100) (rest : List Char) :
    digits? 2 (digitsOf 2 n ++ rest) = some (n, rest) := digits?_digitsOf small rest

/-- Four digits and what follows them. -/
theorem digits?_four (small : n < 10000) (rest : List Char) :
    digits? 4 (digitsOf 4 n ++ rest) = some (n, rest) := digits?_digitsOf small rest

/-- A part of a time in front of a colon is followed by the parts behind it. -/
private theorem clockFrom?_colon {colons : Option Bool} (h : colons.getD true = true)
    (small : n < 100) {more : List Char} (nonempty : more ≠ []) :
    clockFrom? parts colons (left + 1) (digitsOf 2 n ++ ':' :: more) =
      clockFrom? (parts ++ [n]) (some true) left more := by
  -- The rest begins with some character, so that the text goes on.
  obtain ⟨c, rest, rfl⟩ := List.exists_cons_of_ne_nil nonempty
  simp only [clockFrom?, digits?_two small]
  cases colons with
  | none => simp
  | some known => simp_all

/-- The last part of a time that has no fraction. -/
private theorem clockFrom?_last {colons : Option Bool} (small : n < 100) :
    clockFrom? parts colons (left + 1) (digitsOf 2 n) = some (.ofParts (parts ++ [n]) 0 true) := by
  have read : digits? 2 (digitsOf 2 n) = some (n, []) := digits?_alone small
  simp only [clockFrom?, read]

/-- At least one digit is written. -/
theorem digitsOf_ne_nil (width n : Nat) : digitsOf (width + 1) n ≠ [] := by simp [digitsOf]

/-- Six digits of a fraction are read to the end. -/
private theorem fraction?_digitsOf {micro : Nat} (small : micro < 1000000) :
    fraction? parts (digitsOf 6 micro) = some (.ofParts parts micro true) := by
  have read : digits? 6 (digitsOf 6 micro) = some (micro, []) := digits?_alone small
  simp [fraction?, read, isEnd, Number.tenTo]

/-- The last part of a time, and its fraction if there is one. -/
private theorem clockFrom?_second {micro : Nat} (small : n < 100) (fraction : micro < 1000000) :
    clockFrom? parts (some true) (left + 1) (digitsOf 2 n ++ microsChars micro) =
      some (.ofParts (parts ++ [n]) micro true) := by
  -- Without a fraction the seconds are the last part; else a point comes next.
  unfold microsChars
  split
  · rename_i whole
    rw [List.append_nil, whole, clockFrom?_last small]
  · obtain ⟨c, rest, digits⟩ := List.exists_cons_of_ne_nil (digitsOf_ne_nil 5 micro)
    have read : fraction? (parts ++ [n]) (digitsOf 6 micro) =
        some (.ofParts (parts ++ [n]) micro true) := fraction?_digitsOf fraction
    rw [digits] at read
    rw [digits]
    simp [clockFrom?, digits?_two small, read]

/-- Hours and minutes are read back. -/
private theorem clock?_hourChars {hour minute : Nat} (hours : hour < 100) (minutes : minute < 100) :
    clock? (hourChars hour minute) = some ⟨hour, minute, 0, 0, true⟩ := by
  rw [clock?, hourChars, clockFrom?_colon rfl hours (digitsOf_ne_nil 1 minute),
    clockFrom?_last minutes]
  rfl

/-- So are hours, minutes, seconds and a fraction. -/
theorem clock?_secondChars {hour minute second micro : Nat} (hours : hour < 100)
    (minutes : minute < 100) (seconds : second < 100) (fraction : micro < 1000000) :
    clock? (hourChars hour minute ++ ':' :: (digitsOf 2 second ++ microsChars micro)) =
      some ⟨hour, minute, second, micro, true⟩ := by
  have more : digitsOf 2 second ++ microsChars micro ≠ [] := by simp [digitsOf]
  rw [clock?, hourChars, List.append_assoc, List.cons_append,
    clockFrom?_colon rfl hours (by simp [digitsOf]), clockFrom?_colon rfl minutes more,
    clockFrom?_second seconds fraction]
  rfl

/-! ## Offsets -/

/-- Hours and minutes are read back, and what is behind them. -/
private theorem clock?_hour_second {hour minute second micro : Nat} (hours : hour < 100)
    (minutes : minute < 100) (seconds : second < 100) (fraction : micro < 1000000) :
    clock? (hourChars hour minute ++ secondChars second micro) =
      some ⟨hour, minute, second, micro, true⟩ := by
  unfold secondChars
  split
  · rename_i none_left
    obtain ⟨rfl, rfl⟩ := none_left
    rw [List.append_nil, clock?_hourChars hours minutes]
  · exact clock?_secondChars hours minutes seconds fraction

/-- An offset is read from behind its sign. -/
theorem offset?_text (o : UtcOffset) :
    offset? (decide (o.micros < 0))
        (hourChars (o.micros.natAbs / hourMicros) (o.micros.natAbs / minuteMicros % 60) ++
          secondChars (o.micros.natAbs / secondMicros % 60) (o.micros.natAbs % secondMicros)) =
      some o.asRead := by
  -- The fields are in range, so that they are read back one by one.
  have read := clock?_hour_second (Nat.lt_trans o.hours_lt (show 24 < 100 by decide))
    (show o.micros.natAbs / minuteMicros % 60 < 100 by omega)
    (show o.micros.natAbs / secondMicros % 60 < 100 by omega)
    (show o.micros.natAbs % secondMicros < 1000000 from Nat.mod_lt _ (by decide))
  have whole : (o.micros.natAbs / hourMicros * 60 + o.micros.natAbs / minuteMicros % 60) * 60 +
      o.micros.natAbs / secondMicros % 60 = o.micros.natAbs / secondMicros := by
    simp only [hourMicros, minuteMicros, secondMicros]
    omega
  have none_whole : o.micros.natAbs / secondMicros = 0 ↔ o.micros.natAbs < secondMicros := by
    simp only [secondMicros]
    omega
  simp only [offset?, read, Option.bind_eq_bind, Option.bind_some, if_true, whole, none_whole,
    UtcOffset.asRead]
  obtain ⟨micros, inRange⟩ := o
  split
  · rfl
  · -- Whole seconds and the rest give the magnitude, and the sign gives the offset.
    have magnitude : ((micros.natAbs / secondMicros : Nat) * secondMicros +
        (micros.natAbs % secondMicros : Nat) : Int) = micros.natAbs := by
      exact_mod_cast Nat.div_add_mod' micros.natAbs secondMicros
    have signed : (if micros < 0 then -(micros.natAbs : Int) else micros.natAbs) = micros := by
      split <;> omega
    simp only [decide_eq_true_eq, magnitude, signed, UtcOffset.ofMicros?, inRange, and_self, dif_pos]

/-! ## Days and moments -/

/-- No character of a time of day starts an offset. -/
private theorem startsOffset_dayTimeText {t : DayTime} (fits : t.exists = true) :
    ∀ c ∈ t.text.toList, (!startsOffset c) = true :=
  forall_dayTimeText (by decide) (by decide) (by decide) fits

/-- A time of day is read back, with what is read of its offset. -/
theorem dayTime?_text {t : DayTime} (fits : t.exists = true) (offset : Option UtcOffset) :
    dayTime? (t.text.toList ++ ((offset.map UtcOffset.text).getD "").toList) =
      some (t, offset.map UtcOffset.asRead) := by
  -- So the text is split where the offset begins.
  have plain := startsOffset_dayTimeText fits
  have read : clock? t.text.toList = some ⟨t.hour, t.minute, t.second, t.micro, true⟩ := by
    obtain ⟨hour, minute, second, micro⟩ := DayTime.exists_iff.mp fits
    rw [toList_dayTimeText (by omega) (by omega) (by omega) micro]
    exact clock?_secondChars (by omega) (by omega) (by omega) micro
  cases offset with
  -- Without an offset the text ends with the time of day.
  | none =>
    simp only [Option.map_none, Option.getD_none, dayTime?, List.takeWhile_append_of_pos plain,
      List.dropWhile_append_of_pos plain]
    simp [read]
  | some o =>
    have behind := offset?_text o
    have chars := toList_offsetText o
    simp only [Option.map_some, Option.getD_some, chars, dayTime?,
      List.takeWhile_append_of_pos plain, List.dropWhile_append_of_pos plain]
    -- The sign of the offset is that of its microseconds.
    by_cases west : o.micros < 0
    · simp only [west, decide_true] at behind
      simp [west, startsOffset, read, behind]
    · simp only [west, decide_false] at behind
      simp [west, startsOffset, read, behind]

/-- A day is read back. -/
theorem civil?_text {d : Civil} (year : d.year < 10000) (month : d.month < 100)
    (day : d.day < 100) : civil? d.text.toList = some d := by
  have years := digits?_four year ('-' :: (digitsOf 2 d.month ++ '-' :: digitsOf 2 d.day))
  have months := digits?_two month ('-' :: digitsOf 2 d.day)
  have days : digits? 2 (digitsOf 2 d.day) = some (d.day, []) := digits?_alone day
  rw [toList_civilText year month day]
  simp only [civil?, years, Option.bind_eq_bind, Option.bind_some, List.head?_cons,
    beq_self_eq_true, if_true, List.drop_succ_cons, List.drop_zero]
  -- A `W` behind the year would start the number of a week.
  split
  · rename_i rest week
    exact absurd (List.cons.inj week).1 (digitChar_ne (d.month / 10)).2
  · simp [months, mark?, days]

/-- A day with hyphens has ten characters, whatever stands behind it. -/
private theorem dayLength_text {d : Civil} (year : d.year < 10000) (month : d.month < 100)
    (day : d.day < 100) (rest : List Char) : dayLength (d.text.toList ++ rest) = 10 := by
  have hyphen : (d.text.toList ++ rest)[4]? = some '-' := by
    rw [toList_civilText year month day]
    rfl
  have next : (d.text.toList ++ rest)[5]? = some (d.month / 10 % 10).digitChar := by
    rw [toList_civilText year month day]
    rfl
  have long : (d.text.toList ++ rest).length ≠ 7 := by
    simp [toList_civilText year month day]
    omega
  simp only [dayLength, long, if_false, hyphen, if_true, next, Option.some.injEq,
    (digitChar_ne _).2]

/-- The characters of a moment are cut behind the day, and read back on both sides. -/
private theorem momentOfChars?_isoText (m : Moment) :
    momentOfChars? m.isoText.toList = some m.asRead := by
  obtain ⟨wall, offset⟩ := m
  -- The day has ten characters, and the separator is the one behind them.
  obtain ⟨year, month, day⟩ := Civil.fields_lt wall.exists_civil
  have length : wall.civil.text.toList.length = 10 := by simp [toList_civilText year month day]
  have chars : (Moment.mk wall offset).isoText.toList = wall.civil.text.toList ++
      'T' :: (wall.dayTime.text.toList ++ ((offset.map UtcOffset.text).getD "").toList) := by
    simp [Moment.isoText, WallTime.text]
  rw [chars]
  simp only [momentOfChars?, dayLength_text year month day, List.take_left' length,
    List.drop_left' length, civil?_text year month day,
    dayTime?_text wall.exists_dayTime, Option.bind_eq_bind, Option.bind_some,
    wall.of?_civil_dayTime, Option.map_some, Moment.asRead]

/-- A text of characters has no half of a surrogate pair in the place of a separator. -/
theorem withSeparator_ofChars (cs : List Char) :
    withSeparator (Text.ofChars cs) = Text.ofChars cs := by
  have none_left : separatorPlaces.find?
      (fun i => (Text.ofChars cs).points[i]?.any fun p => !p.isChar) = none := by
    -- No code point is half of a pair, so that no place for a separator is found.
    rw [List.find?_eq_none]
    intro i _
    cases h : cs[i]? <;> simp [Text.ofChars, h, CodePoint.isChar]
  simp only [withSeparator, none_left]

/-- A moment is read back from its text, but for an offset of less than a second. -/
theorem moment?_isoText (m : Moment) : moment? (Text.ofString m.isoText) = some m.asRead := by
  rw [moment?, Text.ofString, withSeparator_ofChars, Text.chars?_ofChars, Option.bind_some,
    momentOfChars?_isoText m]

end Iso

end AirQuality.Time
