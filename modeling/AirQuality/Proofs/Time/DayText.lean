import AirQuality.Proofs.Time.Bounds
import AirQuality.Proofs.Time.StampText

/-!
# Texts that name a day

A bound of a range names a day if it is a date, or a text of a day without a time. Texts of ten
characters are read as stamps; the other spellings of a day are those of ISO 8601 without hyphens or
by weeks, and only the first of these two readers knows that it has read a day.

## Key results

- `Iso.eq_of_civil?`: what the characters are that are read as a day
- `Iso.civil?_of_isSpelt`, `Iso.isSpelt_of_alone`: the spellings of a day in ISO 8601
- `Bound.Names`, `Bound.names_text_iff`: the bounds that name a day
- `Bound.names_ofString_text`: the text of a day is one of them
- `DateRange.exists_read_of_names`: the range from a day to the same day
-/

namespace AirQuality.Time

open AirQuality.Text (latinDigitValue?)

/-- The characters of a day in ISO 8601 as one number, or by a week and possibly a weekday. -/
inductive Civil.IsSpelt (d : Civil) : List Char → Prop where
  | number : IsSpelt d (digitsOf 4 d.year ++ (digitsOf 2 d.month ++ digitsOf 2 d.day))
  | week {year week : Nat} (monday : ofWeek? year week 1 = some d) :
      IsSpelt d (digitsOf 4 year ++ 'W' :: digitsOf 2 week)
  | hyphenWeek {year week : Nat} (monday : ofWeek? year week 1 = some d) :
      IsSpelt d (digitsOf 4 year ++ '-' :: 'W' :: digitsOf 2 week)
  | weekday {year week day : Nat} (named : ofWeek? year week day = some d) :
      IsSpelt d (digitsOf 4 year ++ 'W' :: (digitsOf 2 week ++ digitsOf 1 day))

/-- The numbers of a week date have four digits, two and one. -/
private theorem ofWeek?_lt {year week day : Nat} {d : Civil}
    (named : ofWeek? year week day = some d) :
    year < 10000 ∧ week < 100 ∧ day < 10 := by
  simp only [ofWeek?] at named
  split at named
  · rename_i fits
    have last : lastYear = 9999 := rfl
    simp only [Bool.and_eq_true, Bool.or_eq_true, decide_eq_true_eq, beq_iff_eq] at fits
    omega
  · cases named

namespace Iso

variable {cs : List Char} {d : Civil}

/-! ## Reading a day -/

/-- Each spelling of a day is read as the day. -/
theorem civil?_of_isSpelt (real : d.exists = true) (spelt : d.IsSpelt cs) : civil? cs = some d := by
  cases spelt with
  | number =>
    obtain ⟨year, month, day⟩ := Civil.fields_lt real
    have noHyphen := (digitChar_ne (d.month / 10)).1
    have noWeek := (digitChar_ne (d.month / 10)).2
    have head : (digitsOf 2 d.month ++ digitsOf 2 d.day).head? =
        some (d.month / 10 % 10).digitChar := rfl
    have days : digits? 2 (digitsOf 2 d.day) = some (d.day, []) := digits?_alone day
    -- The month begins with a digit, and so neither a hyphen nor a week is found there.
    simp only [civil?, digits?_four year, Option.bind_eq_bind, Option.bind_some, head,
      Option.some_beq_some, beq_eq_false_iff_ne.mpr noHyphen, Bool.false_eq_true, if_false]
    split
    · rename_i rest week
      exact absurd (List.cons.inj week).1 noWeek
    · simp [digits?_two month, mark?, days]
  | @week year week monday =>
    obtain ⟨years, weeks, _⟩ := ofWeek?_lt monday
    have read : digits? 2 (digitsOf 2 week) = some (week, []) := digits?_alone weeks
    simp [civil?, digits?_four years, read, monday]
  | @hyphenWeek year week monday =>
    obtain ⟨years, weeks, _⟩ := ofWeek?_lt monday
    have read : digits? 2 (digitsOf 2 week) = some (week, []) := digits?_alone weeks
    simp [civil?, digits?_four years, read, monday]
  | @weekday year week day named =>
    obtain ⟨years, weeks, days⟩ := ofWeek?_lt named
    have read : digits? 1 (digitsOf 1 day) = some (day, []) := digits?_alone days
    -- With a weekday, something is left behind the week.
    have some_left : digitsOf 1 day ≠ [] := digitsOf_ne_nil 0 day
    simp [civil?, digits?_four years, digits?_two weeks, some_left, mark?, read, named]

/-- A spelling of a day is taken for the day as a whole. -/
private theorem dayLength_of_isSpelt (spelt : d.IsSpelt cs) : dayLength cs = cs.length := by
  -- The length is told from the characters at the fourth and fifth place.
  cases spelt with
  | number =>
    have noHyphen := (digitChar_ne (d.month / 10)).1
    have noWeek := (digitChar_ne (d.month / 10)).2
    simp [dayLength, digitsOf, noHyphen, noWeek]
  | week => simp [dayLength]
  | hyphenWeek => simp [dayLength, digitsOf]
  | @weekday year week day named =>
    have digit : latinDigitValue? (day % 10).digitChar = some (day % 10) :=
      latinDigitValue?_digitChar (Nat.mod_lt _ (by decide))
    simp [dayLength, digitsOf, digit]

/-! ## What is read as a day -/

/-- A hyphen where there are hyphens. -/
def hyphen (extended : Bool) : List Char := if extended then ['-'] else []

/-- The characters of a day behind its year, those of a week, of a weekday or of a month, and what
is left behind them. Nothing may follow a week. -/
inductive FollowsYear (extended : Bool) (year : Nat) (d : Civil) : List Char → List Char → Prop where
  | week {week : Nat} (monday : ofWeek? year week 1 = some d) :
      FollowsYear extended year d ('W' :: digitsOf 2 week) []
  | weekday {week day : Nat} {left : List Char} (named : ofWeek? year week day = some d) :
      FollowsYear extended year d
        ('W' :: (digitsOf 2 week ++ (hyphen extended ++ digitsOf 1 day))) left
  | month {left : List Char} (same : d.year = year) : FollowsYear extended year d
      (digitsOf 2 d.month ++ (hyphen extended ++ digitsOf 2 d.day)) left

/-- A mark that is due is a hyphen in front of the rest. -/
private theorem eq_of_mark? {due : Bool} {rest : List Char} (read : mark? due '-' cs = some rest) :
    cs = hyphen due ++ rest := by
  unfold mark? at read
  cases due with
  | false => exact Option.some.inj read
  | true =>
    cases cs with
    | nil => cases read
    | cons c more =>
      simp only [if_true] at read
      split at read
      · rename_i same
        rw [Option.some.inj read, same]
        rfl
      · cases read

/-- A hyphen behind the year is taken away, and if there is none then hyphens are not used. -/
private theorem eq_hyphen_append {extended : Bool} {behind rest : List Char}
    (is : extended = (behind.head? == some '-'))
    (cut : (if extended then behind.drop 1 else behind) = rest) :
    behind = hyphen extended ++ rest ∧ (extended = false → rest.head? ≠ some '-') := by
  subst cut
  cases extended with
  | false => exact ⟨rfl, fun _ => beq_eq_false_iff_ne.mp is.symm⟩
  | true =>
    obtain ⟨more, rfl⟩ := List.head?_eq_some_iff.mp (beq_iff_eq.mp is.symm)
    exact ⟨rfl, fun other => by cases other⟩

/-- What is read as a day is a year and a week, a weekday or a month, all with hyphens or none. -/
theorem eq_of_civil? (read : civil? cs = some d) :
    ∃ extended year chars left, cs = digitsOf 4 year ++ (hyphen extended ++ (chars ++ left)) ∧
      (extended = false → (chars ++ left).head? ≠ some '-') ∧
      FollowsYear extended year d chars left := by
  -- The year is read first, and then a hyphen shows whether there are hyphens.
  obtain ⟨⟨year, behind⟩, years, tail⟩ := Option.bind_eq_some_iff.mp read
  clear read
  obtain ⟨_, rfl⟩ := eq_of_digits? years
  clear years
  obtain ⟨extended, is⟩ : ∃ extended, extended = (behind.head? == some '-') := ⟨_, rfl⟩
  dsimp only at tail
  rw [← is] at tail
  generalize cut : (if extended = true then behind.drop 1 else behind) = rest at tail
  obtain ⟨rfl, plain⟩ := eq_hyphen_append is cut
  -- What is read behind the year is put in front of what is left.
  suffices parts : ∃ chars left, rest = chars ++ left ∧ FollowsYear extended year d chars left by
    obtain ⟨chars, left, rfl, follows⟩ := parts
    exact ⟨extended, year, chars, left, rfl, plain, follows⟩
  clear cut is plain
  split at tail
  · -- A week, which may be followed by a weekday.
    obtain ⟨⟨week, behind⟩, weeks, tail⟩ := Option.bind_eq_some_iff.mp tail
    rw [(eq_of_digits? weeks).2]
    simp only at tail
    split at tail
    · rename_i none_left
      rw [List.isEmpty_iff.mp none_left]
      exact ⟨_, [], rfl, .week tail⟩
    · obtain ⟨last, marked, tail⟩ := Option.bind_eq_some_iff.mp tail
      obtain ⟨⟨day, left⟩, days, named⟩ := Option.bind_eq_some_iff.mp tail
      refine ⟨_, left, ?_, .weekday named⟩
      rw [eq_of_mark? marked, (eq_of_digits? days).2]
      simp
  · -- A month, which has to be followed by a day.
    obtain ⟨⟨month, behind⟩, months, tail⟩ := Option.bind_eq_some_iff.mp tail
    obtain ⟨last, marked, tail⟩ := Option.bind_eq_some_iff.mp tail
    obtain ⟨⟨day, left⟩, days, named⟩ := Option.bind_eq_some_iff.mp tail
    obtain rfl := Option.some.inj named
    have marks : behind = hyphen extended ++ last := eq_of_mark? marked
    refine ⟨_, left, ?_, .month rfl⟩
    rw [(eq_of_digits? months).2, marks, (eq_of_digits? days).2]
    simp

/-- A day has ten characters at most. -/
private theorem dayLength_le (cs : List Char) : dayLength cs ≤ 10 := by
  unfold dayLength
  dsimp only
  -- Each length is one of the numbers but for that of a run, which is taken if it is below nine.
  repeat' split
  all_goals omega

/-- Without a hyphen behind the year there are at most eight characters. -/
private theorem dayLength_le_of_no_hyphen (plain : cs[4]? ≠ some '-') : dayLength cs ≤ 8 := by
  unfold dayLength
  dsimp only
  rw [if_neg plain]
  repeat' split
  all_goals omega

/-- Where no more characters than those of a day are there, nothing is left behind it. -/
private theorem eq_of_alone (read : civil? cs = some d) (alone : cs.length ≤ dayLength cs) :
    ∃ extended year chars, cs = digitsOf 4 year ++ (hyphen extended ++ chars) ∧
      FollowsYear extended year d chars [] := by
  obtain ⟨extended, year, chars, left, rfl, plain, follows⟩ := eq_of_civil? read
  suffices nothing : left = [] by
    subst nothing
    exact ⟨extended, year, chars, by rw [List.append_nil], follows⟩
  have most : dayLength (digitsOf 4 year ++ (hyphen extended ++ (chars ++ left))) ≤
      if extended then 10 else 8 := by
    cases extended with
    | true => exact dayLength_le _
    | false =>
      refine dayLength_le_of_no_hyphen ?_
      rw [List.getElem?_append_right (by simp)]
      simpa [hyphen, List.head?_eq_getElem?] using plain rfl
  have short := Nat.le_trans alone most
  have hyphens : (hyphen extended).length = if extended then 1 else 0 := by cases extended <;> rfl
  -- A weekday fills the ten characters with hyphens, or eight without, and so does a month.
  cases follows with
  | week => rfl
  | weekday named =>
    apply List.length_eq_zero_iff.mp
    simp only [List.length_append, List.length_cons, length_digitsOf, hyphens] at short
    split at short <;> omega
  | month same =>
    apply List.length_eq_zero_iff.mp
    simp only [List.length_append, length_digitsOf, hyphens] at short
    split at short <;> omega

/-- The characters of a day: digits, hyphens and the letter of weeks. -/
def isDayChar (c : Char) : Bool := c == '-' || c == 'W' || (latinDigitValue? c).isSome

/-- A text that is read as a day and nothing more has characters of days only. -/
private theorem forall_of_alone (read : civil? cs = some d) (alone : cs.length ≤ dayLength cs) :
    ∀ c ∈ cs, isDayChar c = true := by
  obtain ⟨extended, year, chars, rfl, follows⟩ := eq_of_alone read alone
  have digits {width n : Nat} : ∀ c ∈ digitsOf width n, isDayChar c = true :=
    forall_digitsOf (by decide)
  have hyphens : ∀ c ∈ hyphen extended, isDayChar c = true := by
    cases extended with
    | true => exact List.forall_mem_singleton.mpr (by decide)
    | false => exact List.forall_mem_nil _
  refine List.forall_mem_append.mpr ⟨digits, List.forall_mem_append.mpr ⟨hyphens, ?_⟩⟩
  -- The parts of the day are digits, with hyphens and the letter between them.
  cases follows with
  | week => exact List.forall_mem_cons.mpr ⟨by decide, digits⟩
  | weekday =>
    refine List.forall_mem_cons.mpr ⟨by decide, List.forall_mem_append.mpr ⟨digits, ?_⟩⟩
    exact List.forall_mem_append.mpr ⟨hyphens, digits⟩
  | month =>
    refine List.forall_mem_append.mpr ⟨digits, ?_⟩
    exact List.forall_mem_append.mpr ⟨hyphens, digits⟩

/-- What is read as a day, and not as more than a day, is one of its spellings, or has the ten
characters of a stamp. -/
theorem isSpelt_of_alone (read : civil? cs = some d) (alone : cs.length ≤ dayLength cs)
    (other : cs.length ≠ 10) : d.IsSpelt cs := by
  obtain ⟨extended, year, chars, rfl, follows⟩ := eq_of_alone read alone
  -- Hyphens make most spellings ten characters long.
  cases extended with
  | true =>
    -- With hyphens only a week has fewer characters.
    cases follows with
    | week monday => exact .hyphenWeek monday
    | weekday => simp [hyphen] at other
    | month => simp [hyphen] at other
  | false =>
    cases follows with
    | week monday => exact .week monday
    | weekday named => exact .weekday named
    | month same => exact same ▸ .number

/-! ## Texts -/

/-- A text of characters has these characters and no others. -/
theorem char_mem_ofChars {c : Char} : CodePoint.char c ∈ (Text.ofChars cs).points ↔ c ∈ cs := by
  simp [Text.ofChars]

/-- A separator that is put in is one of the characters. -/
private theorem eq_of_withSeparator {u : Text} (chars : (withSeparator u).chars? = some cs)
    (plain : 'T' ∉ cs) : u = Text.ofChars cs := by
  have made := Text.chars?_eq_some_iff.mp chars
  unfold withSeparator at made
  split at made
  · -- The place of the separator lies in the text, and so the characters have it.
    rename_i i place
    have there := List.find?_some place
    have inside : i < u.points.length := by
      by_contra beyond
      rw [List.getElem?_eq_none (Nat.not_lt.mp beyond)] at there
      cases there
    have put : CodePoint.char 'T' ∈ (Text.ofChars cs).points := by
      rw [← made]
      exact List.mem_set inside _
    exact absurd (char_mem_ofChars.mp put) plain
  · exact made

/-- Where there is no zone letter, none is spelt out. -/
theorem spellOutZulu_of_forall {t : Text} (plain : CodePoint.char 'Z' ∉ t.points) :
    spellOutZulu t = t := by
  obtain ⟨points⟩ := t
  rw [spellOutZulu, Text.substitute, Text.mk.injEq]
  -- On the code points, none of which is the letter.
  induction points with
  | nil => rfl
  | cons p points ih =>
    obtain ⟨other, rest⟩ := not_or.mp (List.mem_cons.not.mp plain)
    rw [List.flatMap_cons, ih rest]
    cases p with
    | half n => rfl
    | char c =>
      have letter : c ≠ 'Z' := fun same => other (same ▸ rfl)
      simp [letter]

/-- An offset that is spelt out begins with one of the characters. -/
private theorem eq_of_spellOutZulu {t : Text} (made : spellOutZulu t = Text.ofChars cs)
    (plain : '+' ∉ cs) : t = Text.ofChars cs := by
  -- If there were a letter, the sign of the offset in its place would be one of the characters.
  have letter : CodePoint.char 'Z' ∉ t.points := by
    intro mem
    have put : CodePoint.char '+' ∈ (spellOutZulu t).points :=
      List.mem_flatMap.mpr ⟨_, mem, by simp⟩
    rw [made] at put
    exact plain (char_mem_ofChars.mp put)
  rw [← made, spellOutZulu_of_forall letter]

/-- Whether a text is read as a day in ISO 8601, and nothing stands behind the day. -/
def ReadsAlone (t : Text) (d : Civil) : Prop :=
  ∃ cs, (withSeparator t).chars? = some cs ∧ civil? cs = some d ∧ cs.length ≤ dayLength cs

/-- The texts that are read as a day, and have not the length of a stamp, are its spellings. -/
theorem readsAlone_iff {t : Text} (real : d.exists = true) (other : t.length ≠ 10) :
    ReadsAlone (spellOutZulu t) d ↔ ∃ cs, t = Text.ofChars cs ∧ d.IsSpelt cs := by
  constructor
  · rintro ⟨cs, chars, read, alone⟩
    -- A day has neither a separator nor a sign, and so none of them was put in.
    have plain := forall_of_alone read alone
    have noSeparator : 'T' ∉ cs := fun mem => absurd (plain _ mem) (by decide)
    have noSign : '+' ∉ cs := fun mem => absurd (plain _ mem) (by decide)
    have same := eq_of_spellOutZulu (eq_of_withSeparator chars noSeparator) noSign
    refine ⟨cs, same, isSpelt_of_alone read alone fun long => other ?_⟩
    rw [same, Text.length, Text.ofChars, List.length_map, long]
  · rintro ⟨cs, rfl, spelt⟩
    have read := civil?_of_isSpelt real spelt
    have alone := Nat.le_of_eq (dayLength_of_isSpelt spelt).symm
    have letter : CodePoint.char 'Z' ∉ (Text.ofChars cs).points := by
      intro mem
      exact absurd (forall_of_alone read alone _ (char_mem_ofChars.mp mem)) (by decide)
    refine ⟨cs, ?_, read, alone⟩
    rw [spellOutZulu_of_forall letter, withSeparator_ofChars, Text.chars?_ofChars]

/-- A day without a time is its first moment. -/
private theorem moment?_of_readsAlone {t : Text} (reads : ReadsAlone t d) :
    moment? t = (WallTime.of? d .first).map fun w => ⟨w, none⟩ := by
  obtain ⟨cs, chars, read, alone⟩ := reads
  -- Day and rest are cut at the length of the day, and there is no rest.
  rw [moment?, chars, Option.bind_some, momentOfChars?]
  simp [List.take_of_length_le alone, List.drop_of_length_le alone, read]

end Iso

/-! ## Bounds -/

namespace Bound

/-- The bounds that name a day: its date, a stamp of ten characters, and the other texts of a day
without a time. -/
inductive Names (d : Civil) : Bound → Prop where
  | date : Names d (.day d)
  | stamp {t : Text} (length : t.stripped.length = 10)
      (read : t.stripped.string?.bind Stamp.civil? = some d) : Names d (.value (.str t))
  | spelling {t : Text} {cs : List Char} (chars : t.stripped = Text.ofChars cs)
      (spelt : d.IsSpelt cs) : Names d (.value (.str t))

/-- Whether a bound is known to be a day: a date, or a text of ten characters. -/
def isKnownDay : Bound → Bool
  | .moment _ => false
  | .day _ => true
  | .value v => v.asText.stripped.length == 10

variable {b : Bound} {d : Civil} {t : Text}

/-- No spelling has the length of a stamp. -/
private theorem length_of_isSpelt {cs : List Char} (chars : t = Text.ofChars cs)
    (spelt : d.IsSpelt cs) :
    t.length ≠ 10 := by
  rw [chars, Text.length, Text.ofChars, List.length_map]
  -- All of them have five to eight characters but for the digits of a number, which are eight.
  cases spelt <;> simp

/-- A text names a day if this is the day that is read, and nothing stands behind it. -/
theorem names_text_iff (real : d.exists = true) : Names d (.value (.str t)) ↔
    if t.stripped.length = 10 then t.stripped.string?.bind Stamp.civil? = some d
    else Iso.ReadsAlone (spellOutZulu t.stripped) d := by
  split
  · rename_i length
    constructor
    -- A spelling has not ten characters, so that only a stamp is left.
    · rintro (_ | ⟨_, read⟩ | ⟨chars, spelt⟩)
      · exact read
      · exact absurd length (length_of_isSpelt chars spelt)
    · exact .stamp length
  · rename_i other
    rw [Iso.readsAlone_iff real other]
    constructor
    · rintro (_ | ⟨length, _⟩ | ⟨chars, spelt⟩)
      · exact absurd length other
      · exact ⟨_, chars, spelt⟩
    · rintro ⟨cs, chars, spelt⟩
      exact .spelling chars spelt

/-- A text of ten characters without blanks names the day that it is read as. -/
private theorem names_of_stamp {s : String} (kept : (Text.ofString s).stripped = Text.ofString s)
    (length : (Text.ofString s).length = 10) (read : Stamp.civil? s = some d) :
    Names d (.value (.str (Text.ofString s))) := by
  refine .stamp (by rw [kept, length]) ?_
  rw [kept, Text.string?_ofString]
  exact read

/-- The text of a day names it. -/
theorem names_ofString_text (real : d.exists = true) :
    Names d (.value (.str (Text.ofString d.text))) :=
  names_of_stamp (stripped_text real) (length_ofString_text real) (Stamp.civil?_text real)

/-- A bound that names a day is a moment of that day: the given time of it if the bound is known to
be a day, and else the first one. -/
theorem exists_read_of_names (real : d.exists = true) (names : b.Names d) {time : DayTime}
    (fits : time.exists = true) :
    ∃ m, b.read time = .ok m ∧ m.IsAt d (if b.isKnownDay then time else .first) := by
  -- A date is given as it is, and texts are read as the two readers do.
  cases names with
  | date => exact exists_dayBound real fits
  | @stamp t length read =>
    obtain ⟨m, placed, isAt⟩ := exists_dayBound real fits
    refine ⟨m, ?_, ?_⟩
    · simp only [Bound.read, Json.asText, length, if_true, read, orFault, bind, Except.bind]
      exact placed
    · simpa [isKnownDay, Json.asText, length] using isAt
  | @spelling t cs chars spelt =>
    have other := length_of_isSpelt chars spelt
    -- Whatever time the bound was read for, the day alone is its first moment.
    obtain ⟨w, made, placed, isAt⟩ := exists_isAt real (show DayTime.first.exists = true by decide)
    have moment : Iso.moment? (spellOutZulu t.stripped) = some ⟨w, none⟩ := by
      rw [Iso.moment?_of_readsAlone ((Iso.readsAlone_iff real other).mpr ⟨cs, chars, spelt⟩), made]
      rfl
    refine ⟨⟨w, some .zero⟩, ?_, ?_⟩
    · simp only [Bound.read, Json.asText, other, if_false, moment, orFault, bind, Except.bind]
      exact placed
    · simpa [isKnownDay, Json.asText, other] using isAt

end Bound

/-- The range from a day to the same day starts with the first moment of the day. It ends with the
last one if the second bound is known to be a day, and else with the first one as well. -/
theorem DateRange.exists_read_of_names {a b : Bound} {d : Civil} (real : d.exists = true)
    (start : a.Names d) (stop : b.Names d) :
    ∃ range, DateRange.read a b = .ok range ∧ range.start.IsAt d .first ∧
      range.stop.IsAt d (if b.isKnownDay then .last else .first) := by
  obtain ⟨m, first, isFirst⟩ := Bound.exists_read_of_names real start
    (show DayTime.first.exists = true by decide)
  obtain ⟨n, last, isLast⟩ := Bound.exists_read_of_names real stop
    (show DayTime.last.exists = true by decide)
  -- The first bound is the first moment in either case.
  rw [ite_self] at isFirst
  have ordered : ¬n.key < m.key := by
    rw [isFirst.key, isLast.key, show DayTime.first.micros = 0 from rfl]
    omega
  refine ⟨⟨m, n⟩, ?_, isFirst, isLast⟩
  simp only [DateRange.read, first, last, bind, Except.bind, ordered, if_false]
  rfl

end AirQuality.Time
