import AirQuality.Measurement
import AirQuality.Proofs.Json.Reading

/-!
# Integers of records

Only integers that have numerals are read from a document, be they numbers or texts. So the number of
a station that comes from a document can be written again.

## Key results

- `Json.hasNumerals_of_readWithin`: the integers of a document have numerals
- `Check.hasNumeral_of_integer`: so does what counts as an integer there
- `Measurement.hasNumeral_of_ofJson`: and the number of a station
-/

namespace AirQuality

open Number (hasNumeral)

/-! ## Numerals -/

namespace Number

/-- A number with few binary digits has a numeral. -/
private theorem hasNumeral_of_lt_integerLimit {n : Int} (small : n.natAbs < Check.integerLimit) :
    hasNumeral n = true := by
  -- The limit is a power of two with nineteen digits.
  have limit : Check.integerLimit ≤ 10 ^ 19 := by decide
  have many : 10 ^ 19 ≤ 10 ^ maxIntegerDigits := Nat.pow_le_pow_right (by decide) (by decide)
  exact hasNumeral_iff.mpr (Nat.lt_of_lt_of_le small (Nat.le_trans limit many))

/-- The integer of a plain numeral. -/
private theorem hasNumeral_of_plainInteger {cs : List Char} {n : Int}
    (read : plainInteger cs = .value n) : hasNumeral n = true := by
  have digits {cs : List Char} : ∀ d ∈ cs.filterMap Text.latinDigitValue?, d < 10 := by
    intro d mem
    obtain ⟨c, -, value⟩ := List.mem_filterMap.mp mem
    exact Text.latinDigitValue?_lt value
  -- What is left of the text after its sign and its zeros are digits.
  simp only [plainInteger] at read
  split at read
  · cases read
  · cases read
  · -- With a sign or without one, the digits behind it are not too many.
    split at read
    all_goals
      split at read
      · cases read
      · rename_i short
        split at read
        · obtain rfl := RecordInteger.value.inj read
          exact hasNumeral_ofDigits digits (Nat.le_of_not_lt short)
        · cases read

/-- The integer of a text, with or without zeros behind a point -/
private theorem hasNumeral_of_recordInteger {s : String} {n : Int}
    (read : recordInteger s = .value n) :
    hasNumeral n = true := by
  unfold recordInteger at read
  split at read
  · split at read
    · rename_i cleaned
      obtain ⟨cs, -, plain⟩ := Option.map_eq_some_iff.mp cleaned
      cases read
      exact hasNumeral_of_plainInteger plain
    · cases read
  · exact hasNumeral_of_plainInteger read

end Number

/-! ## Documents -/

namespace Json

/-- Every integer in a value has a numeral. -/
inductive HasNumerals : Json → Prop where
  | null : HasNumerals null
  | bool (b : Bool) : HasNumerals (bool b)
  | text (t : Text) : HasNumerals (str t)
  | integer {n : Int} (numeral : hasNumeral n = true) : HasNumerals (ofInt n)
  | double (x : Float) : HasNumerals (ofFloat x)
  | items {items : List Json} (each : ∀ item ∈ items, HasNumerals item) : HasNumerals (arr items)
  | pairs {pairs : List (Text × Json)} (each : ∀ pair ∈ pairs, HasNumerals pair.2) :
      HasNumerals (obj pairs)

/-- Integers are read with a numeral, and whatever else is read has no integers of its own. -/
private theorem readCases_hasNumerals : ReadCases fun _ v => v.HasNumerals where
  null := .null
  bool := .bool
  integer := .integer
  double := .double
  text := .text
  items := .items
  pairs := .pairs

/-- All integers in a document have numerals. -/
theorem hasNumerals_of_readWithin {levels : Nat} {s : String} {v : Json}
    (read : readWithin levels s = .ok v) : v.HasNumerals := readCases_hasNumerals.of_readWithin read

/-- So have the integers in the value of a key. -/
theorem HasNumerals.lookup? {pairs : List (Text × Json)} (numerals : (obj pairs).HasNumerals)
    {key : Text} {v : Json} (found : Json.lookup? key pairs = some v) : v.HasNumerals := by
  cases numerals with
  | pairs each =>
    obtain ⟨pair, hit, rfl⟩ := Option.map_eq_some_iff.mp found
    exact each pair (List.mem_of_find?_eq_some hit)

end Json

/-! ## Records -/

/-- What counts as an integer has a numeral, if the integers in it have one. -/
theorem Check.hasNumeral_of_integer {v : Json} {n : Int} (valid : integer v = .valid n)
    (numerals : v.HasNumerals) : hasNumeral n = true := by
  cases numerals with
  -- An integer is as it was read, a truth value is small, a text is read anew, and a double has to
  -- be below the limit.
  | integer numeral =>
    cases valid
    exact numeral
  | bool b =>
    cases valid
    cases b <;> exact Number.hasNumeral_of_lt_integerLimit (by decide)
  | text t =>
    simp only [integer, wellFormed, integerText] at valid
    split at valid
    · split at valid
      · rename_i read
        cases valid
        exact Number.hasNumeral_of_recordInteger read
      · cases valid
      · cases valid
    · cases valid
  | double x =>
    simp only [integer, Json.ofFloat] at valid
    split at valid
    · cases valid
    · split at valid
      · cases valid
      · split at valid
        · cases valid
        · rename_i small
          cases valid
          refine Number.hasNumeral_of_lt_integerLimit ?_
          rw [Number.natAbs_signed]
          exact Nat.lt_of_not_le small
  | null => cases valid
  | items => cases valid
  | pairs => cases valid

namespace Checked

/-- A function of what is checked is valid if that is. -/
theorem map_eq_valid_iff {α β : Type} {f : α → β} {a : Checked α} {b : β} :
    f <$> a = valid b ↔ ∃ a', a = valid a' ∧ f a' = b := by
  cases a with
  | valid a =>
    simp only [Checked.valid.injEq, exists_eq_left']
    exact ⟨Checked.valid.inj, congrArg valid⟩
  | invalid ps => exact iff_of_false (fun same => by cases same) (fun ⟨_, same, _⟩ => by cases same)

/-- What is checked together is valid if each part is. -/
theorem seq_eq_valid_iff {α β : Type} {f : Checked (α → β)} {a : Checked α} {b : β} :
    f <*> a = valid b ↔ ∃ f' a', f = valid f' ∧ a = valid a' ∧ f' a' = b := by
  cases f with
  | valid f =>
    cases a with
    | valid a =>
      constructor
      · exact fun same => ⟨f, a, rfl, rfl, Checked.valid.inj same⟩
      · rintro ⟨_, _, ⟨⟩, ⟨⟩, rfl⟩
        rfl
    | invalid ps =>
      exact iff_of_false (fun same => by cases same) (fun ⟨_, _, _, same, _⟩ => by cases same)
  | invalid ps =>
    refine iff_of_false (fun same => ?_) (fun ⟨_, _, same, _⟩ => by cases same)
    cases a <;> cases same

end Checked

/-- A record of a document has a station with a numeral. -/
theorem Measurement.hasNumeral_of_ofJson {now : Time.Moment} {v : Json} {m : Measurement}
    (valid : ofJson now v = .valid m) (numerals : v.HasNumerals) :
    hasNumeral m.stationId = true := by
  cases v with
  | obj pairs =>
    have built : ofPairs now pairs = .valid m := valid
    -- The fields are checked one by one, and the second one is the station.
    simp only [ofPairs, build, Checked.seq_eq_valid_iff, Checked.map_eq_valid_iff] at built
    obtain ⟨_, _, ⟨_, _, ⟨_, _, ⟨_, _, ⟨_, _, ⟨_, n, ⟨_, _, rfl⟩, station, rfl⟩, _, rfl⟩, _, rfl⟩, _,
      rfl⟩, _, rfl⟩, _, rfl⟩ := built
    change hasNumeral n = true
    -- The station must not be missing, and its value counts as an integer.
    simp only [Check.required] at station
    split at station
    · rename_i number found
      cases checked : Check.integer number with
      | valid n' =>
        rw [checked] at station
        cases station
        exact Check.hasNumeral_of_integer checked (numerals.lookup? found)
      | invalid ps =>
        rw [checked] at station
        cases station
    · cases station
  | _ => cases valid

end AirQuality
