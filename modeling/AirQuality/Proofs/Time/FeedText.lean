import AirQuality.Proofs.Time.DayText
import AirQuality.Proofs.Time.RecordText
import AirQuality.Proofs.Time.Utc
import Mathlib.Data.List.TakeWhile

/-!
# Texts of moments in the feed

The feed may write a moment in ISO 8601 or as a stamp, and with blanks around either. Both are
tried, the stamp first. A text in ISO 8601 is no stamp, because a `T` follows its day and not a
blank, and so its offset decides, and the zone does not matter. The text of a wall time with a space
is a stamp, and it is placed in the zone.

## Key results

- `stripped_of_isPadded`: blanks around a text are stripped
- `Stamp.wall?_text`: a wall time in whole seconds is read back from its stamp
- `readFeed_of_isSpelt`, `DateRange.read_of_isSpelt`: a moment is read back from ISO 8601
- `readFeed_stamp`: a stamp is taken as a wall time of the zone
-/

namespace AirQuality

/-! ## Blanks around a text -/

/-- What has nothing of a class at its two ends is not stripped. -/
private theorem Text.stripBy_of_ends {α : Type} {p : α → Bool} {xs : List α}
    (first : ∀ x ∈ xs.head?, p x = false) (last : ∀ x ∈ xs.getLast?, p x = false) :
    stripBy p xs = xs := by
  -- The same on either side, as the end is stripped from the reversed text.
  have kept {ys : List α} (first : ∀ y ∈ ys.head?, p y = false) : ys.dropWhile p = ys := by
    cases ys with
    | nil => rfl
    | cons y ys => exact List.dropWhile_cons_of_neg (by simp [first y rfl])
  rw [stripBy, kept first, trimEndBy, kept, List.reverse_reverse]
  rwa [List.head?_reverse]

namespace Time

open Text (digitValue? isBlank)

/-- A text with blanks in front of it and behind it, or none. -/
def IsPadded (chars : List Char) (t : Text) : Prop :=
  ∃ before after, (∀ c ∈ before, isBlank c = true) ∧ (∀ c ∈ after, isBlank c = true) ∧
    t = Text.ofChars (before ++ (chars ++ after))

/-- Blanks around a text are stripped together with those at its own ends. -/
theorem stripped_of_isPadded {chars : List Char} {t : Text} (padded : IsPadded chars t) :
    t.stripped = (Text.ofChars chars).stripped := by
  obtain ⟨before, after, blankBefore, blankAfter, rfl⟩ := padded
  simp only [Text.stripped, Text.ofChars, List.map_append]
  -- The blanks of a text are those of its characters.
  rw [Text.stripBy_padded]
  · exact List.forall_mem_map.mpr blankBefore
  · exact List.forall_mem_map.mpr blankAfter

/-- A text with no blank at its ends is not stripped. -/
private theorem stripped_of_ends {s : String} (first : ∀ c ∈ s.toList.head?, isBlank c = false)
    (last : ∀ c ∈ s.toList.getLast?, isBlank c = false) :
    (Text.ofString s).stripped = Text.ofString s := by
  have points : Text.stripBy (CodePoint.isIn isBlank) (s.toList.map CodePoint.char) =
      s.toList.map CodePoint.char := by
    apply Text.stripBy_of_ends
    · rw [List.head?_map]
      exact Option.forall_mem_map.mpr first
    · rw [List.getLast?_map]
      exact Option.forall_mem_map.mpr last
  rw [Text.ofString, Text.ofChars, Text.stripped, points]

/-! ## Stamps -/

namespace Stamp

/-- Two digits are read where the first one is in its range. -/
private theorem twoDigits?_digitsOf {low high n : Nat}
    {second : List Char → Option (Nat × List Char)} {rest : List Char} (small : n < 100)
    (inRange : low ≤ n / 10 ∧ n / 10 ≤ high)
    (read : second ((n % 10).digitChar :: rest) = some (n % 10, rest)) :
    twoDigits? low high second (digitsOf 2 n ++ rest) = some (n, rest) := by
  -- Both digits are spelt out, so that the first one is looked at on its own.
  have chars : digitsOf 2 n ++ rest = (n / 10).digitChar :: (n % 10).digitChar :: rest := by
    simp [digitsOf, Nat.mod_eq_of_lt (show n / 10 < 10 by omega)]
  have value : 10 * (n / 10) + n % 10 = n := by omega
  have tens := latinDigitValue?_digitChar (show n / 10 < 10 by omega)
  simp [chars, twoDigits?, latinIn?, tens, inRange, read, value]

/-- Two digits are not read where the first one is out of its range. -/
private theorem twoDigits?_of_outside {low high n : Nat}
    {second : List Char → Option (Nat × List Char)} {rest : List Char} (small : n < 100)
    (outside : ¬(low ≤ n / 10 ∧ n / 10 ≤ high)) :
    twoDigits? low high second (digitsOf 2 n ++ rest) = none := by
  have chars : digitsOf 2 n ++ rest = (n / 10).digitChar :: (n % 10).digitChar :: rest := by
    simp [digitsOf, Nat.mod_eq_of_lt (show n / 10 < 10 by omega)]
  have tens := latinDigitValue?_digitChar (show n / 10 < 10 by omega)
  -- The first digit is out of range, whatever the second one is.
  rw [chars, twoDigits?, latinIn?, tens]
  dsimp only
  rw [if_neg outside]
  rfl

/-- Any digit may stand at the second place. -/
private theorem anyDigit?_digitChar (n : Nat) (rest : List Char) :
    anyDigit? ((n % 10).digitChar :: rest) = some (n % 10, rest) := by
  rw [anyDigit?, digitValue?_digitChar, Option.map_some]

/-- Minutes and seconds are read back. -/
private theorem sixtieth?_digitsOf {n : Nat} (small : n < 60) (rest : List Char) :
    sixtieth? (digitsOf 2 n ++ rest) = some (n, rest) := by
  rw [sixtieth?, twoDigits?_digitsOf (by omega) (by omega) (anyDigit?_digitChar n rest)]
  rfl

/-- Hours are read back. -/
private theorem hour?_digitsOf {n : Nat} (small : n < 24) (rest : List Char) :
    hour? (digitsOf 2 n ++ rest) = some (n, rest) := by
  -- Hours from 20 on are tried first.
  rw [hour?]
  by_cases late : 20 ≤ n
  · -- From 20 on the second digit is at most three.
    have read : latinIn? 0 3 ((n % 10).digitChar :: rest) = some (n % 10, rest) := by
      rw [latinIn?, latinDigitValue?_digitChar (Nat.mod_lt n (by decide))]
      exact if_pos (by omega)
    rw [twoDigits?_digitsOf (by omega) (by omega) read]
    rfl
  -- Below 20 the first digit is zero or one, and the second one is any.
  · rw [twoDigits?_of_outside (by omega) (by omega),
      twoDigits?_digitsOf (by omega) (by omega) (anyDigit?_digitChar n rest)]
    rfl

/-- The day in front of anything else. -/
private theorem takeCivil?_text {d : Civil} (real : d.exists = true) (rest : List Char) :
    takeCivil? (d.text.toList ++ rest) = some (d, rest) := by
  -- A real day has a year of four digits, and a month and a day of two.
  obtain ⟨_, ⟨firstMonth, lastMonth⟩, ⟨firstDay, lastDay⟩, _⟩ := Civil.dayNumber_spec real
  obtain ⟨year, month, day⟩ := Civil.fields_lt real
  have days : d.day ≤ 31 := Nat.le_trans lastDay (daysInMonth_le _ _)
  simp [takeCivil?, toList_civilText year month day, year?_digitsOf year,
    month?_digitsOf firstMonth lastMonth, day?_digitsOf firstDay days, mark?]

/-- A time of day in whole seconds is read back. -/
theorem dayTime?_text {t : DayTime} (fits : t.exists = true) (whole : t.micro = 0) :
    dayTime? t.text.toList = some t := by
  obtain ⟨hour, minute, second, micro⟩ := DayTime.exists_iff.mp fits
  have seconds := sixtieth?_digitsOf second []
  rw [List.append_nil] at seconds
  rw [toList_dayTimeText (by omega) (by omega) (by omega) micro]
  obtain ⟨h, m, s, _⟩ := t
  obtain rfl : _ = 0 := whole
  simp [dayTime?, hourChars, microsChars, hour?_digitsOf hour, sixtieth?_digitsOf minute, seconds,
    mark?]

/-- The characters of a wall time in whole seconds, with a space behind the day. -/
private theorem toList_text {w : WallTime} (whole : w.dayTime.micro = 0) :
    (w.text " ").toList = w.civil.text.toList ++ ' ' ::
      (hourChars w.dayTime.hour w.dayTime.minute ++ ':' :: digitsOf 2 w.dayTime.second) := by
  obtain ⟨hour, minute, second, micro⟩ := w.dayTime_lt
  -- The end of the text is the end of the seconds.
  rw [WallTime.text, String.toList_append, String.toList_append,
    toList_dayTimeText (by omega) (by omega) (by omega) micro, microsChars, if_pos whole]
  simp

/-- A digit is no blank. -/
private theorem isBlank_digitChar (n : Nat) : isBlank (n % 10).digitChar = false :=
  digitChar_mod (p := fun c => isBlank c = false) (by decide) n

/-- A wall time in whole seconds is read back from its stamp. -/
theorem wall?_text {w : WallTime} (whole : w.dayTime.micro = 0) : wall? (w.text " ") = some w := by
  have time := dayTime?_text w.exists_dayTime whole
  have chars : (w.text " ").toList = w.civil.text.toList ++ ' ' :: w.dayTime.text.toList := by
    simp [WallTime.text]
  obtain ⟨hour, minute, second, micro⟩ := w.dayTime_lt
  have kept : w.dayTime.text.toList.dropWhile isBlank = w.dayTime.text.toList := by
    -- The time begins with a digit, so no further blank is skipped.
    rw [toList_dayTimeText (by omega) (by omega) (by omega) micro]
    exact List.dropWhile_cons_of_neg (by simp [isBlank_digitChar])
  rw [wall?, chars, takeCivil?_text w.exists_civil]
  simp [show isBlank ' ' = true by decide, kept, time, w.of?_civil_dayTime]

/-- Nothing is stripped from a stamp. -/
theorem stripped_text {w : WallTime} (whole : w.dayTime.micro = 0) :
    (Text.ofString (w.text " ")).stripped = Text.ofString (w.text " ") := by
  obtain ⟨year, month, day⟩ := Civil.fields_lt w.exists_civil
  -- A stamp begins with the year and ends with the seconds.
  apply stripped_of_ends
  · rw [toList_text whole, toList_civilText year month day]
    simp [digitsOf, isBlank_digitChar]
  · rw [toList_text whole]
    simp [hourChars, digitsOf, isBlank_digitChar]

/-- No stamp has anything but a blank behind its day. -/
private theorem wall?_of_letter {d : Civil} (real : d.exists = true) {c : Char}
    (letter : isBlank c = false) {s : String} {rest : List Char}
    (chars : s.toList = d.text.toList ++ c :: rest) :
    wall? s = none := by
  -- The day is read, and then a blank is missing.
  rw [wall?, chars, takeCivil?_text real]
  simp [letter]

end Stamp

/-! ## ISO 8601 -/

/-- The texts of a moment in ISO 8601: with its offset, or at UTC with the letter for it. -/
inductive Moment.IsSpelt (m : Moment) : String → Prop where
  | offset : IsSpelt m m.isoText
  | letter (utc : m.offset = some .zero) : IsSpelt m (m.wall.text "T" ++ "Z")

/-- An offset in whole minutes has no seconds that could be lost. -/
private theorem UtcOffset.isReadable_of_wholeMinutes {o : UtcOffset}
    (whole : o.isWholeMinutes = true) :
    o.isReadable = true := by
  obtain ⟨micros, inRange⟩ := o
  simp only [isWholeMinutes, beq_iff_eq, isReadable, Bool.or_eq_true, decide_eq_true_eq] at whole ⊢
  -- Seconds are a multiple of sixty of them, and so zero.
  simp only [minuteMicros, secondMicros] at whole ⊢
  omega

/-- An offset in whole minutes is read back with its moment. -/
private theorem Moment.asRead_of_wholeMinutes {m : Moment} (whole : m.isWholeMinutes = true) :
    m.asRead = m := by
  apply asRead_of_readable
  rw [isWholeMinutes] at whole
  cases zone : m.offset with
  | none => rfl
  -- An offset in whole minutes can be read, and without one there is nothing to lose.
  | some o =>
    rw [zone] at whole
    exact UtcOffset.isReadable_of_wholeMinutes whole

/-- The characters of a wall time are digits, hyphens, colons, a point and the letter of times. -/
private theorem WallTime.forall_text {p : Char → Prop}
    (digits : ∀ n : Fin 10, p (n : Nat).digitChar) (hyphen : p '-') (colon : p ':') (point : p '.')
    (letter : p 'T') (w : WallTime) :
    ∀ c ∈ (w.text "T").toList, p c := by
  have chars : (w.text "T").toList = w.civil.text.toList ++ 'T' :: w.dayTime.text.toList := by
    simp [WallTime.text]
  -- The day, the letter, and the time of day
  rw [chars]
  refine List.forall_mem_append.mpr ⟨forall_civilText digits hyphen w.exists_civil, ?_⟩
  exact List.forall_mem_cons.mpr ⟨letter, forall_dayTimeText digits colon point w.exists_dayTime⟩

/-- So are those of a moment, with a sign. -/
private theorem Moment.forall_isoText {p : Char → Prop}
    (digits : ∀ n : Fin 10, p (n : Nat).digitChar) (hyphen : p '-') (colon : p ':') (point : p '.')
    (letter : p 'T') (plus : p '+') (m : Moment) :
    ∀ c ∈ m.isoText.toList, p c := by
  rw [isoText, String.toList_append]
  refine List.forall_mem_append.mpr
    ⟨m.wall.forall_text digits hyphen colon point letter, ?_⟩
  cases m.offset with
  | none => simp
  | some o => exact forall_offsetText digits colon point plus hyphen o

/-- The letter is spelt out in each part of a text. -/
private theorem spellOutZulu_append (cs ds : List Char) :
    spellOutZulu (Text.ofChars (cs ++ ds)) =
      ⟨(spellOutZulu (Text.ofChars cs)).points ++ (spellOutZulu (Text.ofChars ds)).points⟩ := by
  simp only [spellOutZulu, Text.substitute, Text.ofChars, List.map_append, List.flatMap_append]

namespace Moment.IsSpelt

variable {m : Moment} {s : String}

/-- The letter is spelt out as the offset zero. -/
private theorem spellOutZulu_eq (spelt : m.IsSpelt s) :
    spellOutZulu (Text.ofString s) = Text.ofString m.isoText := by
  -- Without the letter a text stays as it is.
  have kept {cs : List Char} (plain : ∀ c ∈ cs, c ≠ 'Z') :
      spellOutZulu (Text.ofChars cs) = Text.ofChars cs := by
    apply Iso.spellOutZulu_of_forall
    intro mem
    exact plain 'Z' (Iso.char_mem_ofChars.mp mem) rfl
  cases spelt with
  | offset =>
    exact kept (m.forall_isoText (by decide) (by decide) (by decide) (by decide) (by decide)
      (by decide))
  | letter utc =>
    have wall : ∀ c ∈ (m.wall.text "T").toList, c ≠ 'Z' :=
      m.wall.forall_text (by decide) (by decide) (by decide) (by decide) (by decide)
    -- The letter stands for the offset zero, and that is what the moment has.
    have zero : UtcOffset.zero.text = "+00:00" := by decide
    have spelt : spellOutZulu (Text.ofChars "Z".toList) = Text.ofChars "+00:00".toList := by decide
    rw [Text.ofString, String.toList_append, spellOutZulu_append, kept wall, spelt, isoText, utc,
      Option.map_some, Option.getD_some, zero, Text.ofString, String.toList_append]
    simp [Text.ofChars]

/-- There is no blank in it. -/
private theorem forall_isBlank (spelt : m.IsSpelt s) : ∀ c ∈ s.toList, isBlank c = false := by
  cases spelt with
  -- No character of a moment is a blank, and neither is the letter.
  | offset =>
    exact m.forall_isoText (by decide) (by decide) (by decide) (by decide) (by decide) (by decide)
  | letter =>
    rw [String.toList_append]
    refine List.forall_mem_append.mpr ⟨?_, List.forall_mem_singleton.mpr rfl⟩
    exact m.wall.forall_text (by decide) (by decide) (by decide) (by decide) (by decide)

/-- It is a day, and more behind a `T`. -/
private theorem exists_behind (spelt : m.IsSpelt s) :
    ∃ rest, s.toList = m.wall.civil.text.toList ++ 'T' :: rest := by
  have chars : (m.wall.text "T").toList =
      m.wall.civil.text.toList ++ 'T' :: m.wall.dayTime.text.toList := by
    simp [WallTime.text]
  cases spelt with
  | offset => exact ⟨_, by rw [isoText, String.toList_append, chars, List.append_assoc]; rfl⟩
  | letter => exact ⟨_, by rw [String.toList_append, chars, List.append_assoc]; rfl⟩

/-- It has not the length of a day, and it is no stamp either. -/
private theorem length_ne (spelt : m.IsSpelt s) : (Text.ofString s).length ≠ 10 := by
  obtain ⟨rest, chars⟩ := spelt.exists_behind
  obtain ⟨year, month, day⟩ := Civil.fields_lt m.wall.exists_civil
  -- The day alone has ten characters.
  simp only [Text.length, Text.ofString, Text.ofChars, List.length_map, chars,
    toList_civilText year month day, List.length_append, List.length_cons, length_digitsOf]
  omega

/-- It is no stamp, as there is a letter behind the day. -/
private theorem wall?_eq_none (spelt : m.IsSpelt s) : Stamp.wall? s = none := by
  obtain ⟨rest, chars⟩ := spelt.exists_behind
  exact Stamp.wall?_of_letter m.wall.exists_civil (by decide) chars

end Moment.IsSpelt

/-! ## Reading -/

/-- A moment with an offset in whole minutes, and the same instant at UTC. -/
structure Moment.IsReadAs (m u : Moment) : Prop where
  aware : m.isAware = true
  wholeMinutes : m.isWholeMinutes = true
  atUtc : m.toUtc? = some u

variable {m m' u u' : Moment} {s s' : String} {t t' : Text}

/-- A moment with an offset is brought to UTC without regard to the zone. -/
private theorem Moment.IsReadAs.toUtc_eq (reads : m.IsReadAs u) (zone : Option Zone) :
    toUtc zone m = .ok u := by
  obtain ⟨o, offset⟩ := Option.isSome_iff_exists.mp reads.aware
  simp only [toUtc, offset, pure_bind, reads.atUtc]
  rfl

/-- Blanks around a moment are stripped, and there are no other ones. -/
private theorem stripped_of_isSpelt (spelt : m.IsSpelt s) (padded : IsPadded s.toList t) :
    t.stripped = Text.ofString s := by
  rw [stripped_of_isPadded padded]
  exact stripped_ofString spelt.forall_isBlank

/-- What is left of the text when the letter is spelt out is read as the moment. -/
private theorem moment?_of_isSpelt (reads : m.IsReadAs u) (spelt : m.IsSpelt s) :
    Iso.moment? (spellOutZulu (Text.ofString s)) = some m := by
  rw [spelt.spellOutZulu_eq, Iso.moment?_isoText, Moment.asRead_of_wholeMinutes reads.wholeMinutes]

/-- A moment in ISO 8601 is read back at UTC, whatever the zone is. -/
theorem readFeed_of_isSpelt (reads : m.IsReadAs u) (spelt : m.IsSpelt s)
    (padded : IsPadded s.toList t) (zone : Option Zone) : readFeed t zone = .ok u := by
  -- It is no stamp, so it is read as ISO 8601.
  simp only [readFeed, stripped_of_isSpelt spelt padded, Text.string?_ofString, Option.bind_some,
    spelt.wall?_eq_none, moment?_of_isSpelt reads spelt]
  exact reads.toUtc_eq zone

/-- A bound in ISO 8601 is read back at UTC, and the time for a day on its own does not matter. -/
theorem Bound.read_of_isSpelt (reads : m.IsReadAs u) (spelt : m.IsSpelt s)
    (padded : IsPadded s.toList t) (time : DayTime) :
    Bound.read time (.value (.str t)) = .ok u := by
  -- It is longer than a day, and so not completed by a time.
  simp only [Bound.read, Json.asText, stripped_of_isSpelt spelt padded, if_neg spelt.length_ne,
    moment?_of_isSpelt reads spelt]
  exact reads.toUtc_eq (some .utc)

/-- Two moments in ISO 8601 are a range, if they are not the wrong way round. -/
theorem DateRange.read_of_isSpelt (reads : m.IsReadAs u) (reads' : m'.IsReadAs u')
    (ordered : m.key ≤ m'.key) (spelt : m.IsSpelt s) (spelt' : m'.IsSpelt s')
    (padded : IsPadded s.toList t) (padded' : IsPadded s'.toList t') :
    DateRange.read (.value (.str t)) (.value (.str t')) = .ok ⟨u, u'⟩ := by
  -- The order of the two is that of their instants.
  have inOrder : ¬ u'.key < u.key := by
    rw [Moment.key_of_toUtc? reads.atUtc, Moment.key_of_toUtc? reads'.atUtc]
    omega
  simp only [DateRange.read, Bound.read_of_isSpelt reads spelt padded,
    Bound.read_of_isSpelt reads' spelt' padded']
  exact if_neg inOrder

/-- A stamp is taken as a wall time of the zone. -/
theorem readFeed_stamp {w : WallTime} (whole : w.dayTime.micro = 0)
    (padded : IsPadded (w.text " ").toList t) (zone : Option Zone) :
    readFeed t zone = toUtc zone ⟨w, none⟩ := by
  have left : t.stripped = Text.ofString (w.text " ") := by
    rw [stripped_of_isPadded padded]
    exact Stamp.stripped_text whole
  -- A stamp is read first of all, and it has no offset.
  simp only [readFeed, left, Text.string?_ofString, Option.bind_some, Stamp.wall?_text whole]
  rfl

/-- The texts that moments are written as are read back. One in ISO 8601 with an offset in whole
minutes is the same instant at UTC, whichever zone is configured, and two of them are the range
between them; a stamp is a wall time of the zone. The offset zero may be written as a letter, and
blanks around a text do not matter. -/
theorem texts_read_back :
    (∀ {m u : Moment} {s : String} {t : Text}, m.IsReadAs u → m.IsSpelt s → IsPadded s.toList t →
      (∀ zone, readFeed t zone = .ok u) ∧ u.offset = some .zero ∧ u.key = m.key) ∧
    (∀ {m m' u u' : Moment} {s s' : String} {t t' : Text}, m.IsReadAs u → m'.IsReadAs u' →
      m.key ≤ m'.key → m.IsSpelt s → m'.IsSpelt s' → IsPadded s.toList t → IsPadded s'.toList t' →
      DateRange.read (.value (.str t)) (.value (.str t')) = .ok ⟨u, u'⟩) ∧
    (∀ {w : WallTime} {t : Text}, w.dayTime.micro = 0 → IsPadded (w.text " ").toList t →
      ∀ zone, readFeed t zone = toUtc zone ⟨w, none⟩) := by
  refine ⟨?_, DateRange.read_of_isSpelt, readFeed_stamp⟩
  intro m u s t reads spelt padded
  exact ⟨readFeed_of_isSpelt reads spelt padded, Moment.offset_of_toUtc? reads.atUtc,
    Moment.key_of_toUtc? reads.atUtc⟩

/-- Warsaw in 2026: an hour ahead of UTC, and two hours from the end of March to the end of October.
The calendar begins there with local mean time. -/
def Zone.warsaw : Zone where
  offset? w :=
    let isSummer := (Civil.mk 2026 3 29).dayNumber * dayMicros + 3 * hourMicros ≤ w.micros &&
      w.micros < (Civil.mk 2026 10 25).dayNumber * dayMicros + 2 * hourMicros
    UtcOffset.ofMicros? <|
      if w.micros < (Civil.mk 1915 8 5).dayNumber * dayMicros then 84 * minuteMicros
      else if isSummer then 2 * hourMicros else hourMicros

/-- Half an hour into a year, on clocks that are ahead of UTC by some hours. -/
def newYear (hours : Fin 2) : Moment :=
  ⟨⟨(Civil.mk 2026 1 1).dayNumber * dayMicros + 30 * minuteMicros, by decide⟩,
    some ⟨(hours : Nat) * hourMicros, by revert hours; decide⟩⟩

/-- The instant half an hour before midnight, at UTC. -/
def oldYear : Moment :=
  ⟨⟨(Civil.mk 2025 12 31).dayNumber * dayMicros + 1410 * minuteMicros, by decide⟩, some .zero⟩

/-- At UTC one of the two moments lies in the year before, also if the zone is not known, and the
stamp does so in Warsaw. -/
theorem texts_read_back_newYear :
    readFeed (.ofString "2026-01-01T00:30:00+01:00\n") none = .ok oldYear ∧
      DateRange.read (.value (.str (.ofString "2026-01-01T00:30:00+01:00\n")))
        (.value (.str (.ofString " 2026-01-01T00:30:00Z"))) = .ok ⟨oldYear, newYear 0⟩ ∧
      readFeed (.ofString "2026-01-01 00:30:00") (some .warsaw) = .ok oldYear := by
  obtain ⟨iso, range, stamp⟩ := texts_read_back
  have early : (newYear 1).IsReadAs oldYear := ⟨rfl, by decide, by decide⟩
  have late : (newYear 0).IsReadAs (newYear 0) := ⟨rfl, by decide, by decide⟩
  -- The texts are compared with the ones that the moments have.
  have text : (newYear 1).isoText = "2026-01-01T00:30:00+01:00" := by decide +kernel
  have wall : (newYear 0).wall.text "T" ++ "Z" = "2026-01-01T00:30:00Z" := by decide +kernel
  have spaced : (newYear 0).wall.text " " = "2026-01-01 00:30:00" := by decide +kernel
  have first : IsPadded (newYear 1).isoText.toList (.ofString "2026-01-01T00:30:00+01:00\n") :=
    ⟨[], ['\n'], by simp, List.forall_mem_singleton.mpr rfl, by rw [text]; rfl⟩
  have second : IsPadded ((newYear 0).wall.text "T" ++ "Z").toList
      (.ofString " 2026-01-01T00:30:00Z") :=
    ⟨[' '], [], List.forall_mem_singleton.mpr rfl, by simp, by rw [wall]; rfl⟩
  have alone : IsPadded ((newYear 0).wall.text " ").toList (.ofString "2026-01-01 00:30:00") :=
    ⟨[], [], by simp, by simp, by rw [spaced]; rfl⟩
  refine ⟨(iso early .offset first).1 _, ?_, ?_⟩
  · exact range early late (by decide) .offset (.letter rfl) first second
  · rw [stamp (by decide) alone]
    decide +kernel

end Time

end AirQuality
