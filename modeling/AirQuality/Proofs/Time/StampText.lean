import AirQuality.Proofs.Number.Numeral
import AirQuality.Proofs.Time.Days
import AirQuality.Proofs.Time.IsoText
import AirQuality.Time.Stamp
import Mathlib.Tactic.IntervalCases

/-!
# Days as stamps and back

A day is written with leading zeros and hyphens, and its text is the stamp of the day. The reader of
stamps tries one layout of a number after another, and it takes two digits wherever it can.

## Key results

- `Stamp.year?_digitsOf`, `Stamp.month?_digitsOf`, `Stamp.day?_digitsOf`: the parts of a stamp
- `Stamp.civil?_text`: a day is read back from its text
- `stripped_text`: nothing of the text is blank
-/

namespace AirQuality.Time

open AirQuality.Text (digitValue? isBlank)

namespace Stamp

/-- Each of the ten digits has its own value. -/
theorem digitValue?_digitChar (n : Nat) : digitValue? (n % 10).digitChar = some (n % 10) := by
  have all : ∀ d : Fin 10, digitValue? (d : Nat).digitChar = some (d : Nat) := by decide
  exact all ⟨n % 10, Nat.mod_lt _ (by decide)⟩

/-- Four digits are read as a year. -/
theorem year?_digitsOf {n : Nat} (small : n < 10000) (rest : List Char) :
    year? (digitsOf 4 n ++ rest) = some (n, rest) := by
  -- The four digits in their places add up to the year.
  have value : ((n / 10 / 10 / 10 % 10 * 10 + n / 10 / 10 % 10) * 10 + n / 10 % 10) * 10 + n % 10 =
      n := by omega
  simp [year?, anyDigit?, digitsOf, digitValue?_digitChar, value]

/-- Two digits of a month are read as the month. -/
theorem month?_digitsOf {n : Nat} (first : 1 ≤ n) (last : n ≤ 12) (rest : List Char) :
    month? (digitsOf 2 n ++ rest) = some (n, rest) := by
  -- Twelve cases, in each of which the reader tries the layouts of a month.
  interval_cases n <;> rfl

/-- Two digits of a day are read as the day. -/
theorem day?_digitsOf {n : Nat} (first : 1 ≤ n) (last : n ≤ 31) (rest : List Char) :
    day? (digitsOf 2 n ++ rest) = some (n, rest) := by
  interval_cases n <;> rfl

end Stamp

variable {d : Civil}

/-- The characters of a day are digits and hyphens. -/
theorem forall_civilText {p : Char → Prop} (digits : ∀ n : Fin 10, p (n : Nat).digitChar)
    (hyphen : p '-') (real : d.exists = true) : ∀ c ∈ d.text.toList, p c := by
  obtain ⟨year, month, day⟩ := Civil.fields_lt real
  rw [toList_civilText year month day]
  -- Year, month and day, with hyphens between them.
  refine List.forall_mem_append.mpr ⟨forall_digitsOf digits, ?_⟩
  refine List.forall_mem_cons.mpr ⟨hyphen, List.forall_mem_append.mpr ⟨forall_digitsOf digits, ?_⟩⟩
  exact List.forall_mem_cons.mpr ⟨hyphen, forall_digitsOf digits⟩

/-- A day is read back from its text. -/
theorem Stamp.civil?_text (real : d.exists = true) : Stamp.civil? d.text = some d := by
  obtain ⟨_, ⟨firstMonth, lastMonth⟩, ⟨firstDay, lastDay⟩, _⟩ := Civil.dayNumber_spec real
  obtain ⟨year, month, day⟩ := Civil.fields_lt real
  -- Nothing follows the day.
  have days := day?_digitsOf firstDay (Nat.le_trans lastDay (daysInMonth_le _ _)) []
  rw [List.append_nil] at days
  simp [civil?, takeCivil?, toList_civilText year month day, year?_digitsOf year,
    month?_digitsOf firstMonth lastMonth, days, mark?, real]

/-- The text of a day has ten characters. -/
theorem length_ofString_text (real : d.exists = true) : (Text.ofString d.text).length = 10 := by
  obtain ⟨year, month, day⟩ := Civil.fields_lt real
  simp [Text.length, Text.ofString, Text.ofChars, toList_civilText year month day]

/-- Nothing is stripped from a text without blanks. -/
theorem stripped_ofString {s : String} (plain : ∀ c ∈ s.toList, isBlank c = false) :
    (Text.ofString s).stripped = Text.ofString s := by
  have points : ∀ p ∈ s.toList.map CodePoint.char, p.isIn isBlank = false :=
    List.forall_mem_map.mpr plain
  exact congrArg Text.mk (Number.stripBy_of_forall points)

/-- Neither digits nor hyphens are blank. -/
theorem stripped_text (real : d.exists = true) :
    (Text.ofString d.text).stripped = Text.ofString d.text :=
  stripped_ofString (forall_civilText (by decide) (by decide) real)

end AirQuality.Time
