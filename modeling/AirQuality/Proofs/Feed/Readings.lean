import AirQuality.Proofs.Feed.Containment
import AirQuality.Proofs.Time.FeedText

/-!
# Readings of a sensor

A listed value gives a reading if it has a number and a date that can be read; otherwise it is left
out. This is decided for each value on its own, but for one kind of fault: a date that can be read
and has no form at UTC. That fault is not caught where a value is left out, and there are no readings
at all then.

## Key results

- `value_readings`: the readings by what comes back for the data of the sensor
- `readingOf?_eq`, `mapM_readingOf?`: what is made of a single value, and of a list
- `readings_of_entries`: the readings of a sensor
- `reading_lost_beside_first_hour`: a value that takes another one with it
-/

namespace AirQuality.Feed

open Time (Moment)

/-- What a listed value yields on its own: a reading if it is an object with a number and a date that
can be brought to UTC. -/
def yielded? (zone : Option Time.Zone) (v : Json) : Option Reading :=
  match ListedValue.ofJson v with
  | .valid ⟨some date, some x⟩ =>
    match Time.readFeed date zone with
    | .ok m => some ⟨m, some x⟩
    | .error _ => none
  | _ => none

/-- Whether a listed value has a number and a date that can be read, but has no form at UTC. -/
def isBeyondCalendar (zone : Option Time.Zone) (v : Json) : Bool :=
  match ListedValue.ofJson v with
  | .valid ⟨some date, some _⟩ =>
    match Time.readFeed date zone with
    | .error .outOfRange => true
    | _ => false
  | _ => false

/-- A moment is brought to UTC in a zone that is known, unless it has no form there. -/
private theorem fault_of_toUtc {z : Time.Zone} {m : Moment} {fault : Fault}
    (fails : Time.toUtc (some z) m = .error fault) : fault = .outOfRange := by
  -- A moment with an offset is only moved; one without is placed by the zone first.
  simp only [Time.toUtc] at fails
  split at fails
  · exact (orFault_eq_error_iff.mp fails).2.symm
  · rcases bind_eq_error_iff.mp fails with unknown | ⟨z, _, fails⟩
    · cases unknown
    · rcases bind_eq_error_iff.mp fails with unplaced | ⟨_, _, fails⟩
      · exact (orFault_eq_error_iff.mp unplaced).2.symm
      · exact (orFault_eq_error_iff.mp fails).2.symm

/-- In a zone that is known, a date that is not read is no date, or it has no form at UTC. -/
private theorem fault_of_readFeed {z : Time.Zone} {date : Text} {fault : Fault}
    (fails : Time.readFeed date (some z) = .error fault) :
    fault = .badValue ∨ fault = .outOfRange := by
  -- Either the text is a stamp, or it is read as ISO 8601; both are brought to UTC after that.
  simp only [Time.readFeed] at fails
  split at fails
  · rcases bind_eq_error_iff.mp fails with stamp | ⟨_, _, fails⟩
    · cases stamp
    · exact .inr (fault_of_toUtc fails)
  · rcases bind_eq_error_iff.mp fails with unread | ⟨_, _, fails⟩
    · exact .inl (orFault_eq_error_iff.mp unread).2.symm
    · exact .inr (fault_of_toUtc fails)

namespace Client

/-- The readings that come back for a sensor, or why there are none. -/
def series (c : Client) (sensorId : Int) : Except Fault (List Reading) :=
  (c.json (dataPath sensorId)).run.value >>= c.readingsIn

/-- The listed values that come back for a sensor: the list under the first known key. -/
def entries? (c : Client) (sensorId : Int) : Option (List Json) :=
  match (c.json (dataPath sensorId)).run.value with
  | .ok root =>
    match c.find c.keys.readings root with
    | .ok (some (.arr entries)) => some entries
    | _ => none
  | .error _ => none

end Client

variable {c : Client}

/-- A fault on the way leaves a sensor without readings. -/
theorem value_readings (sensorId : Int) :
    (c.readings sensorId).run.value = .ok ((c.series sensorId).toOption.getD []) := by
  rw [Client.readings, Ask.value_run_catching, Ask.value_run_bind, Client.series]
  -- An answer that fails and a list that fails leave no readings alike.
  cases (c.json (Client.dataPath sensorId)).run.value with
  | error fault => rfl
  | ok root =>
    simp only [Ask.value_run_ofExcept, bind, Except.bind]
    cases c.readingsIn root <;> rfl

/-! ## Single values -/

/-- A value is made into what it yields on its own, unless its date is beyond the calendar. -/
theorem readingOf?_eq (known : c.zone.isSome = true) (v : Json) :
    c.readingOf? v =
      if isBeyondCalendar c.zone v then .error .outOfRange else .ok (yielded? c.zone v) := by
  obtain ⟨z, zone⟩ := Option.isSome_iff_exists.mp known
  rw [zone]
  unfold Client.readingOf? isBeyondCalendar yielded?
  -- The parts of a listed value in the order in which they are looked at.
  cases ListedValue.ofJson v with
  | invalid problems => rfl
  | valid l =>
    obtain ⟨date, value⟩ := l
    cases date with
    | none => rfl
    | some date =>
      cases value with
      | none => rfl
      | some x =>
        cases read : Time.readFeed date (some z) with
        | ok m => simp [zone, read]
        | error fault => rcases fault_of_readFeed read with rfl | rfl <;> simp [zone, read]

/-! ## Lists of values -/

/-- One value beyond the calendar leaves a list without readings. -/
theorem mapM_readingOf? (known : c.zone.isSome = true) (entries : List Json) :
    (entries.mapM c.readingOf?).toOption =
      if entries.any (isBeyondCalendar c.zone) then none
      else some (entries.map (yielded? c.zone)) := by
  by_cases beyond : entries.any (isBeyondCalendar c.zone) = true
  · rw [if_pos beyond]
    cases each : entries.mapM c.readingOf? with
    | error fault => rfl
    | ok readings =>
      -- All values would have been made into something, also the one that fails.
      obtain ⟨v, mem, fails⟩ := List.any_eq_true.mp beyond
      obtain ⟨_, _, made⟩ := exists_of_mapM_eq_ok each mem
      rw [readingOf?_eq known, if_pos fails] at made
      cases made
  · rw [if_neg beyond]
    -- Every value is made into what it yields, since none is beyond the calendar.
    have each : entries.mapM c.readingOf? = .ok (entries.map (yielded? c.zone)) := by
      refine mapM_eq_ok_iff.mpr (List.forall₂_map_right_iff.mpr (List.forall₂_same.mpr ?_))
      intro v mem
      rw [readingOf?_eq known, if_neg fun fails => beyond (List.any_eq_true.mpr ⟨v, mem, fails⟩)]
    rw [each]
    rfl

/-- What is made of the listed values, if nothing goes wrong. -/
private theorem value_readings_entries (sensorId : Int) :
    (c.readings sensorId).run.value = .ok (match c.entries? sensorId with
      | some entries => ((entries.mapM c.readingOf?).toOption.getD []).filterMap id
      | none => []) := by
  rw [value_readings, Client.series, Client.entries?]
  -- The faults on the way, of the answer, of the search, and of what is found.
  cases (c.json (Client.dataPath sensorId)).run.value with
  | error fault => rfl
  | ok root =>
    simp only [bind, Except.bind, Client.readingsIn]
    cases c.find c.keys.readings root with
    | error fault => rfl
    | ok found =>
      cases found with
      | none => rfl
      | some container =>
        cases container with
        | arr entries =>
          simp only
          cases entries.mapM c.readingOf? <;> rfl
        | _ => rfl

/-- The readings of a sensor are what its listed values yield on their own, in order, unless the
date of one of them is beyond the calendar: then there are none. -/
theorem readings_of_entries (known : c.zone.isSome = true) (sensorId : Int) :
    (c.readings sensorId).run.value = .ok (match c.entries? sensorId with
      | some entries =>
        if entries.any (isBeyondCalendar c.zone) then []
        else entries.filterMap (yielded? c.zone)
      | none => []) := by
  -- The list decides, by whether one of its values is beyond the calendar.
  rw [value_readings_entries]
  cases c.entries? sensorId with
  | none => rfl
  | some entries =>
    simp only [mapM_readingOf? known]
    split
    · rfl
    · simp [List.filterMap_map]

/-! ## Two answers -/

/-- A client in Warsaw whose feed has nothing but a text about one sensor. -/
def ofSensorData (text : String) : Client where
  baseUrl := "/"
  zone := some .warsaw
  keys := .known
  clock := ⟨⟨(Time.Civil.mk 2026 7 15).dayNumber * Time.dayMicros, by decide⟩, some .zero⟩
  stack := .shared
  fetch path := if path = Client.dataPath 9 then .answer 200 text.toUTF8.toList else .answer 404 []

/-- A reading among no object, a value without a date, and one with a text that is no date. -/
def mixedData : String :=
  "\x7b\"values\": [3, \x7b\"value\": 7\x7d, \x7b\"date\": \"noon\", \"value\": 2\x7d, " ++
  "\x7b\"date\": \"2026-07-15 14:00:00\", \"value\": 1.5\x7d]\x7d"

/-- A reading, and a value of the first hour of the calendar in Warsaw, which is in the year zero at
UTC. -/
def firstHourData : String :=
  "\x7b\"values\": [\x7b\"date\": \"2026-07-15 13:00:00\", \"value\": 1.5\x7d, " ++
  "\x7b\"date\": \"0001-01-01 00:00:00\", \"value\": 1\x7d]\x7d"

/-- Whether so many values are listed in a text, one of which can be used, and whether any of them
is beyond the calendar. -/
def lists (text : String) (count : Nat) (beyond : Bool) : Bool :=
  ((ofSensorData text).entries? 9).any fun entries =>
    entries.length == count && entries.any (isBeyondCalendar (some .warsaw)) == beyond &&
      (entries.filterMap (yielded? (some .warsaw))).length == 1

/-- What a computed check of a text says about its values. -/
private theorem exists_of_lists {text : String} {count : Nat} {beyond : Bool}
    (h : lists text count beyond = true) :
    ∃ entries reading, (ofSensorData text).entries? 9 = some entries ∧ entries.length = count ∧
      entries.any (isBeyondCalendar (some .warsaw)) = beyond ∧
      entries.filterMap (yielded? (some .warsaw)) = [reading] := by
  unfold lists at h
  cases found : (ofSensorData text).entries? 9 with
  | none => simp [found] at h
  | some entries =>
    simp only [found, Option.any_some, Bool.and_eq_true, beq_iff_eq] at h
    obtain ⟨⟨length, beyond⟩, one⟩ := h
    obtain ⟨reading, only⟩ := List.length_eq_one_iff.mp one
    exact ⟨entries, reading, rfl, length, beyond, only⟩

/-- Of four values, the only one that can be used is read. -/
theorem readings_of_mixedData :
    (ofSensorData mixedData).zone.isSome = true ∧
    ∃ entries reading, (ofSensorData mixedData).entries? 9 = some entries ∧ entries.length = 4 ∧
      entries.filterMap (yielded? (some .warsaw)) = [reading] ∧
      ((ofSensorData mixedData).readings 9).run.value = .ok [reading] := by
  have known : (ofSensorData mixedData).zone.isSome = true := rfl
  -- The text is decoded and searched by the kernel; the rest is the general statement.
  obtain ⟨entries, reading, found, length, within, only⟩ :=
    exists_of_lists (by decide +kernel : lists mixedData 4 false = true)
  have readings := readings_of_entries known 9
  rw [found] at readings
  refine ⟨known, entries, reading, found, length, only, readings.trans ?_⟩
  change Except.ok (if entries.any (isBeyondCalendar (some .warsaw)) then []
    else entries.filterMap (yielded? (some .warsaw))) = _
  rw [within, only]
  rfl

/-- Beside a value of the first hour of the calendar, the value that can be used is not read. -/
theorem reading_lost_beside_first_hour :
    (ofSensorData firstHourData).zone.isSome = true ∧
    ∃ entries reading, (ofSensorData firstHourData).entries? 9 = some entries ∧ entries.length = 2 ∧
      entries.filterMap (yielded? (some .warsaw)) = [reading] ∧
      ((ofSensorData firstHourData).readings 9).run.value = .ok [] := by
  have known : (ofSensorData firstHourData).zone.isSome = true := rfl
  obtain ⟨entries, reading, found, length, beyond, only⟩ :=
    exists_of_lists (by decide +kernel : lists firstHourData 2 true = true)
  refine ⟨known, entries, reading, found, length, only, ?_⟩
  -- The value of the first hour is beyond the calendar, and it takes the other one with it.
  have none := mapM_readingOf? known entries
  rw [show entries.any (isBeyondCalendar (ofSensorData firstHourData).zone) = true from beyond,
    if_pos rfl] at none
  simp only [value_readings_entries, found, none]
  rfl

end AirQuality.Feed
