import AirQuality.Proofs.Number.Numeral
import AirQuality.Proofs.Time.IsoText
import AirQuality.Proofs.Time.Utc
import AirQuality.TimeSeries.Pivot

/-!
# Measurements as points and back

A measurement becomes a point, which is written as a line; a row shows the point, and the row is read
as a measurement. Each field of a measurement has a name of its own among the fields of the point, so
that what comes back is the measurement, at the same instant.

## Key results

- `Point.lookup_fieldsOf`: the field of a name
- `Row.shows_ofPoint`: there is a row that shows a point
- `Row.measurement_of_shows`: what is read from a row that shows a point
- `Point.of_eq_ok_iff`, `Point.line_eq_ok_iff`: which measurements have a point, and which points a
  line
- `measurement_comes_back`: a measurement that is written and read
-/

namespace AirQuality

open Time (Moment UtcOffset)

namespace TimeSeries

/-! ## Fields by name -/

namespace Point

/-- What a measurement has for each field, in the order of the names. -/
def namedFields (m : Measurement) : List (String × Option FieldValue) :=
  let value (p : Pollutant) := ((m.values.get p).filter Float.isFinite).map FieldValue.number
  let level (l : LevelOf) := (m.levels.get l).map fun level => FieldValue.text level.name
  [(Pollutant.co.fieldName, value .co), ("created_at", some (.text m.createdAt.isoText)),
    (LevelOf.no2.fieldName, level .no2), (Pollutant.no2.fieldName, value .no2),
    (Pollutant.o3.fieldName, value .o3), (LevelOf.overall.fieldName, level .overall),
    (LevelOf.pm10.fieldName, level .pm10), (Pollutant.pm10.fieldName, value .pm10),
    (LevelOf.pm25.fieldName, level .pm25), (Pollutant.pm25.fieldName, value .pm25),
    ("record_id", m.id.map .text), (LevelOf.so2.fieldName, level .so2),
    (Pollutant.so2.fieldName, value .so2), ("station_name", m.stationName.map .text)]

/-- A field that a measurement has. -/
def present (field : String × Option FieldValue) : Option (String × FieldValue) :=
  field.2.map fun v => (field.1, v)

/-- The fields of a point are those that the measurement has, by name. -/
private theorem fieldsOf_eq (m : Measurement) : fieldsOf m = (namedFields m).filterMap present := by
  -- Both lists have the same entries in the same order; only the absent ones are told otherwise.
  have fields : fieldsOf m = ((namedFields m).map present).filterMap id := by
    simp only [fieldsOf, namedFields, List.map_cons, List.map_nil, present, valueField, levelField,
      textField, Option.map_map, Option.map_some, Function.comp_def]
  rw [fields, List.filterMap_map]
  rfl

/-- The names of the fields that a measurement may have, in their order. -/
def fieldNames : List String :=
  [Pollutant.co.fieldName, "created_at", LevelOf.no2.fieldName, Pollutant.no2.fieldName,
    Pollutant.o3.fieldName, LevelOf.overall.fieldName, LevelOf.pm10.fieldName,
    Pollutant.pm10.fieldName, LevelOf.pm25.fieldName, Pollutant.pm25.fieldName, "record_id",
    LevelOf.so2.fieldName, Pollutant.so2.fieldName, "station_name"]

/-- The names do not depend on the measurement. -/
private theorem map_fst_namedFields (m : Measurement) :
    (namedFields m).map Prod.fst = fieldNames := rfl

/-- Each name stands for one field. -/
private theorem nodup_fieldNames : fieldNames.Nodup := by decide

/-- The station is a tag and no field. -/
private theorem station_not_mem_fieldNames : "station_id" ∉ fieldNames := by decide

/-- A name that is not among the fields is not found. -/
private theorem lookup_filterMap_present_of_not_mem {fields : List (String × Option FieldValue)}
    {name : String} (h : name ∉ fields.map Prod.fst) :
    (fields.filterMap present).lookup name = none := by
  rw [List.lookup_eq_none_iff]
  intro field mem
  obtain ⟨named, there, has⟩ := List.mem_filterMap.mp mem
  obtain ⟨v, _, rfl⟩ := Option.map_eq_some_iff.mp has
  rw [bne_iff_ne]
  rintro rfl
  exact h (List.mem_map_of_mem there)

/-- Of fields with different names, the one with a name is found among the fields that are there. -/
private theorem lookup_filterMap_present {fields : List (String × Option FieldValue)}
    (distinct : (fields.map Prod.fst).Nodup) {name : String} {v : Option FieldValue}
    (mem : (name, v) ∈ fields) : (fields.filterMap present).lookup name = v := by
  -- On the fields: the one that is looked for is the first, or it is behind the first.
  induction fields with
  | nil => cases mem
  | cons field fields ih =>
    obtain ⟨alone, rest⟩ := List.nodup_cons.mp distinct
    rcases List.mem_cons.mp mem with rfl | later
    · cases v with
      | none =>
        -- The field is missing here, and no later one has its name.
        have absent : name ∉ fields.map Prod.fst := alone
        simpa [present] using lookup_filterMap_present_of_not_mem absent
      | some v => simp [present]
    · have other : (name == field.1) = false := by
        rw [beq_eq_false_iff_ne]
        rintro rfl
        exact alone (List.mem_map.mpr ⟨_, later, rfl⟩)
      have tail := ih rest later
      obtain ⟨first, v'⟩ := field
      cases v' with
      | none => exact tail
      | some v' => simpa [present, List.lookup_cons, other] using tail

/-- The field of a name is the one that the measurement has for it. -/
theorem lookup_fieldsOf {m : Measurement} {name : String} {v : Option FieldValue}
    (mem : (name, v) ∈ namedFields m) : (fieldsOf m).lookup name = v := by
  rw [fieldsOf_eq]
  exact lookup_filterMap_present (by rw [map_fst_namedFields]; exact nodup_fieldNames) mem

end Point

namespace Row

/-! ## Rows that show points -/

/-- Whether a row shows a point, with a time for its instant: the station is a text, each field has
a column with its value, and the columns of other fields are null or absent. -/
structure Shows (r : Row) (p : Point) (time : Moment) : Prop where
  time_eq : r.time = some time
  aware : time.isAware = true
  instant : time.key = p.time.key
  station : Json.lookup? "station_id" r.columns = some (.str (toString p.stationId : String))
  column : ∀ name ∈ Point.fieldNames,
    r.value name = ((p.fields.lookup name).map FieldValue.toJson).getD .null

/-- A column is found by the name of its field. -/
private theorem lookup?_map_toJson (name : String) (fields : List (String × FieldValue)) :
    Json.lookup? name (fields.map fun (name, v) => ((name : Text), v.toJson)) =
      (fields.lookup name).map FieldValue.toJson := by
  -- On the fields, each of which is one column.
  induction fields with
  | nil => rfl
  | cons field fields ih =>
    obtain ⟨first, v⟩ := field
    rw [List.map_cons, Json.lookup?_cons, ih, List.lookup_cons]
    -- The columns are compared as texts, the fields as strings.
    by_cases h : name = first
    · simp [h]
    · have other : Text.ofString first ≠ Text.ofString name := fun same =>
        h (Text.ofString_inj.mp same).symm
      rw [if_neg other, beq_eq_false_iff_ne.mpr h]

/-- There is a row that shows a point. -/
theorem shows_ofPoint {p : Point} {utc : Moment} (atUtc : p.time.toUtc? = some utc) :
    (Row.ofPoint p).Shows p utc where
  time_eq := atUtc
  aware := by simp [Moment.isAware, Moment.offset_of_toUtc? atUtc]
  instant := Moment.key_of_toUtc? atUtc
  station := by simp [Row.ofPoint, Json.lookup?]
  column name mem := by
    -- The tag stands in front of the columns and has another name.
    have other : Text.ofString "station_id" ≠ Text.ofString name := fun same =>
      Point.station_not_mem_fieldNames (Text.ofString_inj.mp same ▸ mem)
    rw [Row.value, Row.ofPoint, Json.lookup?_cons, if_neg other, lookup?_map_toJson]

/-! ## Reading a row -/

section Reading

variable {r : Row} {m : Measurement} {date time : Moment}

/-- A column of a row that shows a measurement. -/
private theorem value_of_shows (shows : r.Shows ⟨date, m.stationId, Point.fieldsOf m⟩ time)
    {name : String} {v : Option FieldValue} (mem : (name, v) ∈ Point.namedFields m) :
    r.value name = (v.map FieldValue.toJson).getD .null := by
  have named : name ∈ Point.fieldNames := by
    rw [← Point.map_fst_namedFields m]
    exact List.mem_map_of_mem mem
  rw [shows.column name named, Point.lookup_fieldsOf mem]

/-- The number of the station is read from the text of the tag. -/
private theorem stationId_of_shows (shows : r.Shows ⟨date, m.stationId, Point.fieldsOf m⟩ time)
    (numeral : Number.hasNumeral m.stationId = true) : r.stationId = .ok m.stationId := by
  have read : integer (.str (toString m.stationId : String)) =
      orFault (Number.integer? (toString m.stationId)) .badValue := by
    rw [integer, Text.string?_ofString, Option.bind_some]
  rw [stationId, shows.station, orFault]
  -- The column is there, and what is left is the reading of its text.
  change integer (.str (toString m.stationId : String)) = _
  rw [read, Number.integer?_toString, if_pos numeral, orFault]

/-- A level is read from the text of its name. -/
private theorem level_of_shows (shows : r.Shows ⟨date, m.stationId, Point.fieldsOf m⟩ time)
    (l : LevelOf) :
    level (r.value l.fieldName) = pure (m.levels.get l) := by
  -- Each of the five levels has its field.
  have mem : (l.fieldName, (m.levels.get l).map fun level => FieldValue.text level.name) ∈
      Point.namedFields m := by
    cases l <;> simp [Point.namedFields]
  rw [value_of_shows shows mem]
  cases m.levels.get l with
  | none => rfl
  | some known => simp [level, FieldValue.toJson, Text.string?_ofString]

/-- The empty text stands for no moment. -/
private theorem isEmpty_of_moment? {t : Text} (h : Time.Iso.moment? t = some time) :
    t.isEmpty = false := by
  obtain ⟨points⟩ := t
  cases points with
  | nil => cases h
  | cons _ _ => rfl

/-- A text that stands for a moment is read as the moment. -/
private theorem createdAt_of_moment? {t : Text} {created : Moment}
    (h : Time.Iso.moment? t = some created) :
    createdAt time (.str t) = .ok created := by
  simp only [createdAt, saysNothing, isEmpty_of_moment? h]
  exact orFault_eq_ok_iff.mpr h

/-- The time of creation is read from its text. -/
private theorem createdAt_of_shows (shows : r.Shows ⟨date, m.stationId, Point.fieldsOf m⟩ time) :
    createdAt time (r.value "created_at") = .ok m.createdAt.asRead := by
  have mem : ("created_at", some (.text m.createdAt.isoText)) ∈ Point.namedFields m := by
    simp [Point.namedFields]
  rw [value_of_shows shows mem]
  exact createdAt_of_moment? (Time.Iso.moment?_isoText m.createdAt)

/-- A text is read as it is, and so is a missing one. -/
private theorem text_of_shows (shows : r.Shows ⟨date, m.stationId, Point.fieldsOf m⟩ time)
    {name : String} {t : Option Text} (mem : (name, t.map .text) ∈ Point.namedFields m) :
    Check.nullable Check.text (r.value name) = .valid t := by
  rw [value_of_shows shows mem]
  cases t <;> rfl

/-- A finite number is read as it is, and so is a missing one. -/
private theorem real_of_shows (shows : r.Shows ⟨date, m.stationId, Point.fieldsOf m⟩ time)
    (q : Pollutant) (finite : ∀ x, m.values.get q = some x → x.isFinite = true) :
    Check.nullable Check.real (r.value q.fieldName) = .valid (m.values.get q) := by
  have mem : (q.fieldName, ((m.values.get q).filter Float.isFinite).map FieldValue.number) ∈
      Point.namedFields m := by
    cases q <;> simp [Point.namedFields]
  rw [value_of_shows shows mem]
  cases value : m.values.get q with
  -- A number that is not finite would not have been written.
  | none => rfl
  | some x =>
    simp [Option.filter, finite x value]
    rfl

/-- From a row that shows the point of a measurement the measurement is read, at the time of the
row. -/
theorem measurement_of_shows (shows : r.Shows ⟨date, m.stationId, Point.fieldsOf m⟩ time)
    (finite : ∀ q x, m.values.get q = some x → x.isFinite = true)
    (numeral : Number.hasNumeral m.stationId = true) :
    r.measurement = pure { m with date := time, createdAt := m.createdAt.asRead } := by
  have levels_eq : r.levels = pure m.levels := by
    simp only [levels, level_of_shows shows, pure_bind]
    rfl
  -- Each column is read on its own.
  have id : Check.nullable Check.text (r.value "record_id") = .valid m.id :=
    text_of_shows shows (by simp [Point.namedFields])
  have name : Check.nullable Check.text (r.value "station_name") = .valid m.stationName :=
    text_of_shows shows (by simp [Point.namedFields])
  have real (q : Pollutant) : Check.nullable Check.real (r.value q.fieldName) =
      .valid (m.values.get q) := real_of_shows shows q (finite q)
  have answer {α : Type} (a : α) : Ask.ofExcept (.ok a) = pure a := rfl
  simp only [measurement, stationId_of_shows shows numeral, shows.time_eq, orFault, levels_eq, answer,
    pure_bind, createdAt_of_shows shows, id, name, real]
  rfl

end Reading

end Row

/-! ## There and back -/

/-- A measurement has a point if its station has a numeral, whatever its date is. -/
theorem Point.of_eq_ok_iff {m : Measurement} {p : Point} :
    Point.of m = .ok p ↔
      Number.hasNumeral m.stationId = true ∧ p = ⟨m.date, m.stationId, fieldsOf m⟩ := by
  -- The text of the station is made first, and no other part can fail.
  rw [Point.of]
  split
  · rename_i numeral
    rw [Except.ok.injEq, eq_comm, and_iff_right numeral]
  · rename_i long
    exact iff_of_false (fun made => by cases made) fun both => long both.1

/-- A point has a line if its time exists at UTC. -/
theorem Point.line_eq_ok_iff {p : Point} :
    (∃ line, p.line = .ok line) ↔ p.time.toUtc?.isSome = true := by
  simp only [line, nanoseconds]
  cases p.time.toUtc? with
  | none => exact iff_of_false (fun ⟨_, made⟩ => by cases made) Bool.false_ne_true
  | some utc => exact iff_of_true ⟨_, rfl⟩ rfl

/-- A measurement has a point with a line. It is read from every row that shows the point, and there
is such a row. What is read is the same but for the offset of its date, which is the one of the row,
and no warning is logged. -/
theorem measurement_comes_back {m : Measurement} (dated : m.date.toUtc?.isSome = true)
    (finite : ∀ q x, m.values.get q = some x → x.isFinite = true)
    (readable : m.createdAt.offset.all UtcOffset.isReadable = true)
    (numeral : Number.hasNumeral m.stationId = true) :
    ∃ p, Point.of m = .ok p ∧ (∃ line, p.line = .ok line) ∧
      (∃ utc, m.date.toUtc? = some utc ∧ (Row.ofPoint p).Shows p utc) ∧
      ∀ (r : Row) (time : Moment), r.Shows p time →
        r.measurement.run = pure (.ok { m with date := time }) ∧ time.key = m.date.key := by
  -- There is a point, it has a line, some row shows it, and any such row is read.
  obtain ⟨utc, atUtc⟩ := Option.isSome_iff_exists.mp dated
  refine ⟨⟨m.date, m.stationId, Point.fieldsOf m⟩, Point.of_eq_ok_iff.mpr ⟨numeral, rfl⟩,
    Point.line_eq_ok_iff.mpr dated, ⟨utc, atUtc, Row.shows_ofPoint atUtc⟩, ?_⟩
  intro r time shows
  refine ⟨?_, shows.instant⟩
  rw [Row.measurement_of_shows shows finite numeral, Moment.asRead_of_readable readable]
  rfl

/-- A measurement with a name that has to be escaped. -/
def escaped (stationId : Int) (date createdAt : Moment) : Measurement where
  id := some "r1"
  stationId := stationId
  stationName := some "A \"B\", C\\D"
  date := date
  levels := ⟨some .good, none, some .veryBad, none, some .moderate⟩
  values := ⟨some 12.5, none, some 0, none, none, some 38.7⟩
  createdAt := createdAt

/-- The beginning of May 2026 on a clock with an offset. -/
def beginningOfMay (offset : UtcOffset) : Moment :=
  ⟨⟨(Time.Civil.mk 2026 5 1).dayNumber * Time.dayMicros, by decide⟩, some offset⟩

/-- Two hours east of UTC. -/
def east : UtcOffset := ⟨2 * Time.hourMicros, by decide⟩

/-- A second and a half west of UTC. -/
def slightlyWest : UtcOffset := ⟨-1500000, by decide⟩

/-- The numbers of this measurement are finite. -/
theorem finite_escaped (stationId : Int) (date createdAt : Moment) :
    ∀ q x, (escaped stationId date createdAt).values.get q = some x → x.isFinite = true := by
  intro q x h
  cases q <;> cases h <;> decide

/-- The number of a station with one digit has a numeral. -/
theorem hasNumeral_of_digit {n : Int} (digit : n.natAbs < 10) : Number.hasNumeral n = true := by
  have more : 10 ^ 1 ≤ 10 ^ Number.maxIntegerDigits :=
    Nat.pow_le_pow_right (by decide) (by decide)
  exact Number.hasNumeral_iff.mpr (Nat.lt_of_lt_of_le digit more)

/-- From a row with the time of the measurement itself, just the measurement is read. -/
theorem measurement_comes_back_escaped :
    (beginningOfMay east).toUtc?.isSome = true ∧
    (∀ q x, (escaped 7 (beginningOfMay east) (beginningOfMay slightlyWest)).values.get q = some x →
      x.isFinite = true) ∧
    (beginningOfMay slightlyWest).offset.all UtcOffset.isReadable = true ∧
    Number.hasNumeral 7 = true ∧
    ∃ p, Point.of (escaped 7 (beginningOfMay east) (beginningOfMay slightlyWest)) = .ok p ∧
      ({ Row.ofPoint p with time := some (beginningOfMay east) } : Row).measurement.run =
        pure (.ok (escaped 7 (beginningOfMay east) (beginningOfMay slightlyWest))) := by
  have dated : (beginningOfMay east).toUtc?.isSome = true := by decide
  have finite := finite_escaped 7 (beginningOfMay east) (beginningOfMay slightlyWest)
  have readable : (beginningOfMay slightlyWest).offset.all UtcOffset.isReadable = true := by decide
  have numeral := hasNumeral_of_digit (show (7 : Int).natAbs < 10 by decide)
  obtain ⟨p, made, -, ⟨utc, -, shown⟩, read⟩ := measurement_comes_back
    (m := escaped 7 (beginningOfMay east) (beginningOfMay slightlyWest)) dated finite readable numeral
  have instant : (beginningOfMay east).key = p.time.key :=
    (read _ _ shown).2.symm.trans shown.instant
  -- The row is that of the point, but for its time.
  refine ⟨dated, finite, readable, numeral, p, made, ?_⟩
  exact (read { Row.ofPoint p with time := some (beginningOfMay east) } (beginningOfMay east)
    { shown with time_eq := rfl, aware := rfl, instant := instant }).1

/-- The first moment of the calendar, two hours east of UTC. -/
def beforeCalendar : Moment := ⟨.first, some east⟩

/-- Half a second east of UTC. -/
def halfSecond : UtcOffset := ⟨500000, by decide⟩

/-- A date that the calendar lacks at UTC cannot be written, an offset of half a second is lost and
with it the instant, and for a station with 4301 digits no point is made. -/
theorem measurement_does_not_come_back :
    (∃ p, Point.of (escaped 7 beforeCalendar (beginningOfMay east)) = .ok p ∧
      p.line = .error .outOfRange) ∧
    (∃ p read, Point.of (escaped 7 (beginningOfMay east) (beginningOfMay halfSecond)) = .ok p ∧
      (Row.ofPoint p).measurement.run = pure (.ok read) ∧
      read.createdAt.key ≠ (beginningOfMay halfSecond).key) ∧
    Point.of (escaped (10 ^ Number.maxIntegerDigits : Nat) (beginningOfMay east)
      (beginningOfMay east)) = .error .badValue := by
  have numeral := hasNumeral_of_digit (show (7 : Int).natAbs < 10 by decide)
  refine ⟨⟨_, Point.of_eq_ok_iff.mpr ⟨numeral, rfl⟩, rfl⟩, ?_, ?_⟩
  · -- The row is the one of the point itself, so that nothing but the text can have lost the half.
    have dated : (beginningOfMay east).toUtc?.isSome = true := by decide
    obtain ⟨utc, atUtc⟩ := Option.isSome_iff_exists.mp dated
    have read := Row.measurement_of_shows
      (m := escaped 7 (beginningOfMay east) (beginningOfMay halfSecond)) (Row.shows_ofPoint atUtc)
      (finite_escaped _ _ _) numeral
    exact ⟨_, _, Point.of_eq_ok_iff.mpr ⟨numeral, rfl⟩, congrArg ExceptT.run read,
      show (beginningOfMay halfSecond).asRead.key ≠ (beginningOfMay halfSecond).key by decide⟩
  · -- The least number with 4301 digits is the first one without a numeral.
    have long : ¬ Number.hasNumeral ((10 ^ Number.maxIntegerDigits : Nat) : Int) = true := by
      rw [Number.hasNumeral_iff, Int.natAbs_natCast]
      exact Nat.lt_irrefl _
    exact if_neg long

end TimeSeries

end AirQuality
