import AirQuality.Measurement
import AirQuality.Proofs.Json.RoundTrip
import AirQuality.Proofs.Time.RecordText
import Mathlib.Data.List.Nodup

/-!
# Measurements as records and back

A measurement is written as a record with a name for each of its fields, and the record is read as
the same measurement. What a record cannot say is what a text cannot say: half of a surrogate pair,
an integer with too many digits, a number that is not finite, and seconds of an offset.

## Key results

- `Measurement.IsExact`, `Measurement.IsPortable`: what a measurement has to be to be written and
  read back
- `Measurement.ofJson_toJson`: a record is read as the measurement it was made of
- `Measurement.isReadable_toJson`: so is its text
-/

namespace AirQuality

open Time (Moment)

/-! ## Parts of a record -/

/-- Of pairs with distinct keys the value of a key is the one it is paired with. -/
private theorem Json.lookup?_of_mem {pairs : List (Text × Json)}
    (distinct : (pairs.map Prod.fst).Nodup) {k : Text} {v : Json} (mem : (k, v) ∈ pairs) :
    lookup? k pairs = some v := by
  induction pairs with
  | nil => cases mem
  | cons p pairs ih =>
    obtain ⟨alone, rest⟩ := List.nodup_cons.mp distinct
    -- A key is found at the first pair that has it, and it comes once.
    rw [lookup?_cons]
    rcases List.mem_cons.mp mem with rfl | later
    · rw [if_pos rfl]
    · have other : p.1 ≠ k := by
        rintro rfl
        exact alone (List.mem_map.mpr ⟨_, later, rfl⟩)
      rw [if_neg other, ih rest later]

/-- A string has no half of a surrogate pair. -/
theorem Text.isWellFormed_ofString (s : String) : (Text.ofString s).isWellFormed = true := by
  simp [Text.ofString, Text.ofChars, Text.isWellFormed, CodePoint.isChar]

namespace Check

/-- The text of a string is checked as the string is. -/
private theorem wellFormed_ofString {α : Type} (check : String → Checked α) (s : String) :
    wellFormed check (Text.ofString s) = check s := by
  rw [wellFormed, Text.string?_ofString]

/-- A moment is read from its text in a record. -/
private theorem moment_ofMoment {m : Moment} (whole : m.isWholeMinutes = true) :
    moment (.ofMoment m) = .valid m := by
  rw [Json.ofMoment, moment, wellFormed_ofString, momentText,
    Time.Record.momentOfText_recordText whole]

/-- A text or null is read back. -/
private theorem nullable_text (t : Option Text) : nullable text (.ofText? t) = .valid t := by
  cases t <;> rfl

/-- A level is read from its name, and none from null. -/
private theorem nullable_level (l : Option Level) :
    nullable Level.check (Level.toJson? l) = .valid l := by
  cases l with
  | none => rfl
  | some l =>
    change (wellFormed _ (Text.ofString l.name)).map some = _
    rw [wellFormed_ofString, Level.ofName?_name]
    rfl

/-- A double or null is read back. -/
private theorem nullable_real (x : Option Float) : nullable real (.ofFloat? x) = .valid x := by
  cases x <;> rfl

section Fields

variable {α : Type} {pairs : List (Text × Json)} {name : String} {v : Json} {a : α}

/-- A required field is valid if there is a valid value for its name. -/
private theorem required_of_lookup? {check : Json → Checked α}
    (found : Json.lookup? name pairs = some v) (valid : check v = .valid a) :
    required name check pairs = .valid a := by
  rw [required, found]
  simp [valid, Checked.within]

/-- So is an optional field, whatever it would be if it were absent. -/
private theorem optional_of_lookup? {check : Json → Checked α} {absent : α}
    (found : Json.lookup? name pairs = some v) (valid : check v = .valid a) :
    optional name absent check pairs = .valid a := by
  rw [optional, found]
  simp [valid, Checked.within]

end Fields

end Check

namespace Measurement

/-! ## Records -/

/-- The names of the fields of a record, in their order. -/
def fieldNames : List String :=
  ["id", "station_id", "station_name", "measurement_date"] ++ LevelOf.all.map LevelOf.fieldName ++
    Pollutant.all.map Pollutant.fieldName ++ ["created_at"]

/-- A record has all fields, in their order. -/
private theorem map_fst_toPairs (m : Measurement) :
    m.toPairs.map Prod.fst = fieldNames.map Text.ofString :=
  rfl

/-- No field comes twice in a record. -/
private theorem nodup_keys (m : Measurement) : (m.toPairs.map Prod.fst).Nodup := by
  -- The names are a fixed list, and different strings are different keys.
  have names : fieldNames.Nodup := by decide
  rw [map_fst_toPairs]
  exact names.map fun _ _ => Text.ofString_inj.mp

/-- What the numbers and dates of a measurement have to be for its record to say what they are. -/
structure IsExact (m : Measurement) : Prop where
  stationId_lt : m.stationId.natAbs < 10 ^ Number.maxIntegerDigits
  finite : ∀ p x, m.values.get p = some x → x.isFinite = true
  date_whole : m.date.isWholeMinutes = true
  createdAt_whole : m.createdAt.isWholeMinutes = true

/-- What a measurement has to be to be written to a file and read back: its texts are well formed as
well. -/
structure IsPortable (m : Measurement) : Prop extends IsExact m where
  wellFormed : m.toJson.isWellFormed = true

/-- A measurement is read from the record that it was written as. -/
theorem ofJson_toJson (now : Moment) {m : Measurement} (isExact : m.IsExact) :
    ofJson now m.toJson = .valid m := by
  -- Each field is looked up by its name, which no other field has.
  have found {name : String} {v : Json} (mem : ((name : Text), v) ∈ m.toPairs) :
      Json.lookup? name m.toPairs = some v := Json.lookup?_of_mem m.nodup_keys mem
  have level (l : LevelOf) :
      Check.nullableField l.fieldName Level.check m.toPairs = .valid (m.levels.get l) := by
    refine Check.optional_of_lookup? (found ?_) (Check.nullable_level _)
    cases l <;> simp [toPairs, LevelOf.all]
  have value (p : Pollutant) :
      Check.nullableField p.fieldName Check.real m.toPairs = .valid (m.values.get p) := by
    refine Check.optional_of_lookup? (found ?_) (Check.nullable_real _)
    cases p <;> simp [toPairs, Pollutant.all]
  -- The three optional texts and dates, and the two required fields
  have id : Check.nullableField "id" Check.text m.toPairs = .valid m.id :=
    Check.optional_of_lookup? (found (by simp [toPairs])) (Check.nullable_text _)
  have name : Check.nullableField "station_name" Check.text m.toPairs = .valid m.stationName :=
    Check.optional_of_lookup? (found (by simp [toPairs])) (Check.nullable_text _)
  have station : Check.required "station_id" Check.integer m.toPairs = .valid m.stationId :=
    Check.required_of_lookup? (found (v := .ofInt m.stationId) (by simp [toPairs])) rfl
  have dated : Check.required "measurement_date" Check.moment m.toPairs = .valid m.date :=
    Check.required_of_lookup? (found (by simp [toPairs])) (Check.moment_ofMoment isExact.date_whole)
  have created : Check.optional "created_at" now Check.moment m.toPairs = .valid m.createdAt :=
    Check.optional_of_lookup? (found (by simp [toPairs]))
      (Check.moment_ofMoment isExact.createdAt_whole)
  -- The record is built of the fields, and each of them is what it was.
  change build _ _ _ _ _ _ _ = _
  simp only [id, name, station, dated, created, level, value]
  rfl

/-! ## Their texts -/

/-- Whether the texts of a record are well formed depends on the identifier and the name. -/
theorem isWellFormed_toJson (m : Measurement) :
    m.toJson.isWellFormed =
      (m.id.all Text.isWellFormed && m.stationName.all Text.isWellFormed) := by
  -- Names of levels are strings, and numbers and dates have no texts that could be ill formed.
  have text (t : Option Text) : (Json.ofText? t).isWellFormed = t.all Text.isWellFormed := by
    cases t <;> simp [Json.ofText?, Json.isWellFormed]
  have level (l : Option Level) : (Level.toJson? l).isWellFormed = true := by
    cases l <;> simp [Level.toJson?, Json.isWellFormed, Text.isWellFormed_ofString]
  have value (x : Option Float) : (Json.ofFloat? x).isWellFormed = true := by
    cases x <;> simp [Json.ofFloat?, Json.ofFloat, Json.isWellFormed]
  simp [toJson, toPairs, LevelOf.all, Pollutant.all, Json.isWellFormed, Json.arePairsWellFormed,
    Text.isWellFormed_ofString, Json.ofMoment, Json.ofInt, text, level, value]

/-- The record of a measurement is read back from its text. -/
theorem isReadable_toJson {m : Measurement} (portable : m.IsPortable) (levels : Nat) :
    Json.IsReadable (levels + 1) m.toJson := by
  obtain ⟨id, name⟩ : m.id.all Text.isWellFormed = true ∧
      m.stationName.all Text.isWellFormed = true := by
    simpa [isWellFormed_toJson] using portable.wellFormed
  -- The keys are distinct, so it is left to go through the values.
  refine ⟨m.nodup_keys, ?_⟩
  have text {t : Option Text} (wellFormed : t.all Text.isWellFormed = true) :
      Json.IsReadable levels (.ofText? t) := by
    cases t with
    | none => trivial
    | some t => simpa [Json.ofText?, Json.IsReadable] using wellFormed
  have level (l : Option Level) : Json.IsReadable levels (Level.toJson? l) := by
    cases l with
    | none => trivial
    | some l => simp [Level.toJson?, Json.IsReadable, Text.isWellFormed_ofString]
  have value (p : Pollutant) : Json.IsReadable levels (.ofFloat? (m.values.get p)) := by
    cases held : m.values.get p with
    | none => trivial
    | some x =>
      -- Only a finite double has digits to be read from.
      simpa [Json.ofFloat?, Json.ofFloat, Json.IsReadable, Json.IsReadBack]
        using portable.finite p x held
  have moment (date : Moment) : Json.IsReadable levels (.ofMoment date) := by
    simp [Json.ofMoment, Json.IsReadable, Text.isWellFormed_ofString]
  have station : Json.IsReadable levels (.ofInt m.stationId) := by
    simpa [Json.ofInt, Json.IsReadable, Json.IsReadBack] using portable.stationId_lt
  simp [toPairs, LevelOf.all, Pollutant.all, Json.ArePairsReadable, Text.isWellFormed_ofString, text,
    id, name, level, value, moment, station]

end Measurement

end AirQuality
