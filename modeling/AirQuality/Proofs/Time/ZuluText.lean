import AirQuality.Proofs.Time.IsoText
import AirQuality.Time.Stamp

/-!
# Moments at UTC as RFC 3339 texts

RFC 3339 has four digits for the year. A moment that is written with the letter of UTC has as many
digits as its year needs, so that the text is read back from the year 1000 on, and is none of
RFC 3339 before.

## Key results

- `zulu?`: reading RFC 3339 with six places of the second and the letter of UTC
- `zulu?_of_four`: the fields of a moment with four digits of the year are read back
- `zulu?_zuluText`: which texts of moments are read back
-/

namespace AirQuality.Time

open AirQuality.Text (latinDigitValue?)
open Stamp (mark?)

/-! ## The format -/

/-- Reads a field of some digits, and the mark behind it. -/
def field? (width : Nat) (mark : Char) (cs : List Char) : Option (Nat × List Char) := do
  let (n, cs) ← Iso.digits? width cs
  return (n, ← mark? mark cs)

/-- Reads `YYYY-MM-DDTHH:MM:SS.ffffffZ`. -/
def zulu? (cs : List Char) : Option Moment := do
  let (year, cs) ← field? 4 '-' cs
  let (month, cs) ← field? 2 '-' cs
  let (day, cs) ← field? 2 'T' cs
  let (hour, cs) ← field? 2 ':' cs
  let (minute, cs) ← field? 2 ':' cs
  let (second, cs) ← field? 2 '.' cs
  let (micro, cs) ← field? 6 'Z' cs
  if cs.isEmpty then
    (WallTime.of? ⟨year, month, day⟩ ⟨hour, minute, second, micro⟩).map fun w => ⟨w, some .zero⟩
  else none

/-- A field is read back in front of its mark. -/
private theorem field?_digitsOf {width n : Nat} (small : n < 10 ^ width) (mark : Char)
    (rest : List Char) :
    field? width mark (digitsOf width n ++ mark :: rest) = some (n, rest) := by
  simp [field?, Iso.digits?_digitsOf small, mark?]

/-! ## Years -/

/-- The year that a moment shows. -/
def Moment.year (m : Moment) : Nat := m.wall.civil.year

/-- A year from 1000 on needs no leading zeros. -/
private theorem toList_toString_of_le {year : Nat} (first : 1000 ≤ year) (last : year < 10000) :
    (toString year).toList = digitsOf 4 year := by
  have digits : (toString year).toList = Nat.toDigits 10 year := by
    rw [Nat.toString_eq_ofList_toDigits, String.toList_ofList]
  -- A numeral of three digits would be less than a thousand.
  have long : ¬ (Nat.toDigits 10 year).length ≤ 3 := by
    rw [Nat.length_toDigits_le_iff (by decide) (by decide)]
    omega
  have none_missing : 4 - (Nat.toDigits 10 year).length = 0 := by omega
  rw [digits, ← toList_padded (by decide) last, padded, none_missing, String.toList_ofList]
  rfl

/-- A year before 1000 has fewer than four digits. -/
private theorem length_toString_lt {year : Nat} (h : year < 1000) :
    (toString year).toList.length < 4 := by
  rw [Nat.toString_eq_ofList_toDigits, String.toList_ofList]
  have short : (Nat.toDigits 10 year).length ≤ 3 :=
    (Nat.length_toDigits_le_iff (by decide) (by decide)).mpr h
  omega

/-- Too few characters in front of a hyphen are not read as digits. -/
private theorem Iso.digits?_of_few {width : Nat} {cs : List Char} (few : cs.length < width)
    (rest : List Char) : digits? width (cs ++ '-' :: rest) = none := by
  -- The hyphen comes before the last digit, whatever was read in front of it.
  have all (value : Nat) : digits?.go value width (cs ++ '-' :: rest) = none := by
    -- On the characters in front of the hyphen, each of which is one digit less to read.
    induction cs generalizing width value with
    | nil =>
      obtain ⟨left, rfl⟩ : ∃ left, width = left + 1 := ⟨width - 1, by simp at few; omega⟩
      rfl
    | cons c cs ih =>
      obtain ⟨left, rfl⟩ : ∃ left, width = left + 1 := ⟨width - 1, by simp at few; omega⟩
      rw [List.cons_append, digits?.go]
      cases latinDigitValue? c with
      | none => rfl
      | some d => exact ih (by simpa using few) _
  exact all 0

/-! ## Reading back -/

/-- The characters behind the year. -/
def behindYear (d : Civil) (t : DayTime) : List Char :=
  '-' :: (digitsOf 2 d.month ++ '-' :: (digitsOf 2 d.day ++ 'T' :: (digitsOf 2 t.hour ++
    ':' :: (digitsOf 2 t.minute ++ ':' :: (digitsOf 2 t.second ++
      '.' :: (digitsOf 6 t.micro ++ ['Z']))))))

/-- The characters of a moment: those of the year, and the fields behind it. -/
private theorem toList_zuluText (m : Moment) :
    m.zuluText.toList = (toString m.year).toList ++ behindYear m.wall.civil m.wall.dayTime := by
  obtain ⟨_, month, day⟩ := Civil.fields_lt m.wall.exists_civil
  obtain ⟨hour, minute, second, micro⟩ := m.wall.dayTime_lt
  have six : (padded 6 m.wall.dayTime.micro).toList = digitsOf 6 m.wall.dayTime.micro :=
    toList_padded (by decide) micro
  simp only [Moment.zuluText, String.toList_append, six,
    toList_padded_two (Nat.lt_trans hour (show 24 < 100 by decide)),
    toList_padded_two (Nat.lt_trans minute (show 60 < 100 by decide)),
    toList_padded_two (Nat.lt_trans second (show 60 < 100 by decide))]
  rw [toList_padded_two month, toList_padded_two day]
  simp [behindYear, Moment.year]

/-- What is read of four digits of a year and the other fields. -/
theorem zulu?_of_four {d : Civil} (exists_day : d.exists = true) {t : DayTime}
    (exists_time : t.exists = true) :
    zulu? (digitsOf 4 d.year ++ behindYear d t) =
      (WallTime.of? d t).map fun w => ⟨w, some .zero⟩ := by
  obtain ⟨year, month, day⟩ := Civil.fields_lt exists_day
  obtain ⟨hour, minute, second, micro⟩ := DayTime.exists_iff.mp exists_time
  -- All fields behind the year but the fraction have two digits.
  have two {n : Nat} (small : n < 100) (mark : Char) (rest : List Char) :
      field? 2 mark (digitsOf 2 n ++ mark :: rest) = some (n, rest) := field?_digitsOf small mark rest
  simp only [zulu?, behindYear, field?_digitsOf (show d.year < 10 ^ 4 from year), two month, two day,
    two (Nat.lt_trans hour (show 24 < 100 by decide)),
    two (Nat.lt_trans minute (show 60 < 100 by decide)),
    two (Nat.lt_trans second (show 60 < 100 by decide)),
    field?_digitsOf (show t.micro < 10 ^ 6 from micro), Option.bind_eq_bind, Option.bind_some,
    List.isEmpty_nil, if_true]

/-- A moment at UTC is read back if and only if its year has four digits. -/
theorem zulu?_zuluText {m : Moment} (utc : m.offset = some .zero) :
    zulu? m.zuluText.toList = if 1000 ≤ m.year then some m else none := by
  rw [toList_zuluText]
  split
  -- With four digits the year is read back, and the fields behind it are.
  · rename_i late
    have four : (toString m.year).toList = digitsOf 4 m.wall.civil.year :=
      toList_toString_of_le late (Civil.fields_lt m.wall.exists_civil).1
    rw [four, zulu?_of_four m.wall.exists_civil m.wall.exists_dayTime, m.wall.of?_civil_dayTime,
      Option.map_some, ← utc]
  · rename_i early
    -- With fewer digits the hyphen comes where a digit should be.
    rw [zulu?, behindYear, field?, Iso.digits?_of_few (length_toString_lt (Nat.lt_of_not_le early)) _]
    rfl

end AirQuality.Time
