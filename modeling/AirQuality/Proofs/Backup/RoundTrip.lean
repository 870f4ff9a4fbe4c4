import AirQuality.Backup
import AirQuality.Proofs.Feed.Containment
import AirQuality.Proofs.Record.Measurements
import AirQuality.Proofs.Store.Ranges

/-!
# Backups and back

The measurements of a history that are not older than the retention period are written to a document,
and an empty history that is restored from the document holds the same measurements, field by field,
in the order of their dates. Nothing is written if the text of one of them holds half of a surrogate
pair.

## Key results

- `Backup.read_document`: a document is read as the records that were written
- `Backup.value_write`: what is written of a history
- `Backup.value_restore`: what a document is restored to
- `Backup.backup_comes_back`: a backup of a history, and back
-/

namespace AirQuality

open Time (Moment dayMicros)

/-- Whether a document can say what the measurements of a history are, but for their texts: they are
exact and have identifiers, and their dates have offsets. -/
structure History.IsExact (h : History) : Prop where
  exact : ∀ m ∈ h.records, m.IsExact
  named : ∀ m ∈ h.records, m.hasId = true
  aware : ∀ m ∈ h.records, m.date.isAware = true

namespace Backup

/-! ## Documents -/

/-- A document of portable measurements is read as their records. -/
theorem read_document {ms : List Measurement} (portable : ∀ m ∈ ms, m.IsPortable) :
    Json.read (document ms).text = .ok (.arr (ms.map Measurement.toJson)) := by
  apply Json.read_indented
  -- The list takes one level of the 980, and its records are read with the rest.
  have records : Json.AreReadable 979 (ms.map Measurement.toJson) := by
    -- On the measurements, each of which is readable on its own.
    induction ms with
    | nil => trivial
    | cons m ms ih =>
      refine ⟨Measurement.isReadable_toJson (portable m List.mem_cons_self) 978, ?_⟩
      exact ih fun m' mem => portable m' (List.mem_cons_of_mem m mem)
  exact records

/-- Records are read as the measurements that they were made of. -/
private theorem ofJsons_toJson (now : Moment) {ms : List Measurement}
    (portable : ∀ m ∈ ms, m.IsPortable) :
    Measurement.ofJsons now (ms.map Measurement.toJson) = .ok ms := by
  rw [Measurement.ofJsons, mapM_eq_ok_iff, List.forall₂_map_left_iff, List.forall₂_same]
  intro m mem
  rw [Measurement.ofJson_toJson now (portable m mem).toIsExact]
  rfl

/-! ## Writing -/

/-- What is written of a history: the measurements of a range, the oldest first. -/
def written (h : History) (start stop : Moment) : List Measurement :=
  (History.sortByDateDescending (h.records.filter (·.isWithin start stop))).reverse

/-- What is written is from the history. -/
private theorem mem_written {h : History} {start stop : Moment} {m : Measurement}
    (mem : m ∈ written h start stop) : m ∈ h.records := by
  have found := (History.sortByDateDescending_perm _).mem_iff.mp (List.mem_reverse.mp mem)
  exact (List.mem_filter.mp found).1

/-- The measurements of a range are written if their texts are well formed, and nothing is written
else. -/
theorem value_write {h : History} (aware : ∀ m ∈ h.records, m.date.isAware = true) {days : Int}
    {start stop : Moment} (stop_aware : stop.isAware = true)
    (first : stop.shift? (-(days * dayMicros)) = some start) :
    ((write History.store (fun _ => .ok ()) days stop).runOn h).value =
      (if (written h start stop).all fun m => m.toJson.isWellFormed then
        .ok (document (written h start stop))
      else .error .unwritable, h) := by
  have start_aware : start.isAware = true := (Moment.isAware_of_shift? first).trans stop_aware
  have found := History.between?_of_aware aware start_aware stop_aware
  -- The query answers, since the bounds and all dates have offsets.
  rw [write, Act.value_runOn_reporting]
  simp only [Act.value_runOn_bind, Act.runOn_ofExcept, first, orFault, Traced.value_pure,
    History.store, History.value_runOn_asking, found]
  -- The texts are looked at in the order of the query, and written in the reverse order.
  rw [written, List.all_reverse, writable]
  generalize (History.sortByDateDescending (h.records.filter (·.isWithin start stop))).all
    (fun m => m.toJson.isWellFormed) = fits
  cases fits with
  | true => simp
  | false => rfl

/-- What a file is read as. -/
def loaded (now : Moment) (file : Except Fault String) : Except Fault (List Measurement) := do
  let text ← file
  let found ← parse text >>= entries
  Measurement.ofJsons now found

/-- A store is not touched before the whole of a file has been read as measurements. -/
theorem value_restore_of {σ : Type} (store : Store σ) (now : Moment) (file : Except Fault String)
    (st : σ) : ((restore store now file).runOn st).value =
      match loaded now file with
      | .ok ms =>
        match ((store.saveAll ms).runOn st).value with
        | (.ok saved, next) => (.ok saved.length, next)
        | (.error fault, next) => (.error fault, next)
      | .error fault => (.error fault, st) := by
  rw [restore, Act.value_runOn_reporting]
  simp only [Act.value_runOn_bind, Act.runOn_ofExcept, Traced.value_pure, loaded]
  -- A file that cannot be had, one that is no document, and one with an entry that is no record.
  cases file with
  | error fault => rfl
  | ok text =>
    have given (f : String → Except Fault (List Measurement)) :
        ((Except.ok text : Except Fault String) >>= f) = f text := rfl
    rw [given]
    dsimp only
    generalize parse text >>= entries = items
    cases items with
    | error fault => rfl
    | ok found =>
      simp only [Act.value_runOn_info, bind, Except.bind]
      cases Measurement.ofJsons now found with
      | error fault => rfl
      | ok ms =>
        dsimp only
        rcases ((store.saveAll ms).runOn st).value with ⟨result, next⟩
        cases result <;> simp

/-- A history is restored from the whole of a file or left as it is. -/
theorem value_restore (now : Moment) (file : Except Fault String) (h : History) :
    ((restore History.store now file).runOn h).value =
      match loaded now file with
      | .ok ms => (.ok ms.length, (h.saveAll ms).2)
      | .error fault => (.error fault, h) := by
  rw [value_restore_of]
  cases loaded now file with
  | error fault => rfl
  | ok ms => simp [History.store, History.saveAll]

/-- A document of portable measurements is read as these measurements. -/
theorem loaded_document (now : Moment) {ms : List Measurement}
    (portable : ∀ m ∈ ms, m.IsPortable) : loaded now (.ok (document ms).text) = .ok ms := by
  simp only [loaded, parse, read_document portable, entries, bind, Except.bind,
    ofJsons_toJson now portable]

/-- A document of portable measurements is restored behind what is there. -/
theorem value_restore_document (now : Moment) {ms : List Measurement}
    (portable : ∀ m ∈ ms, m.IsPortable) (named : ∀ m ∈ ms, m.hasId = true) (h : History) :
    ((restore History.store now (.ok (document ms).text)).runOn h).value =
      (.ok ms.length, ⟨h.records ++ ms, h.issued⟩) := by
  rw [value_restore, loaded_document now portable]
  simp only [History.saveAll_of_hasId named]

/-- The measurements of the last days before a moment. -/
def ofLastDays (h : History) (days : Int) (stop : Moment) : List Measurement :=
  h.records.filter fun m => stop.key - days * dayMicros ≤ m.date.key && m.date.key ≤ stop.key

/-- The range that is written is the one of the instants. -/
theorem filter_isWithin_eq {h : History} (aware : ∀ m ∈ h.records, m.date.isAware = true)
    {days : Int} {start stop : Moment} (stop_aware : stop.isAware = true)
    (first : stop.shift? (-(days * dayMicros)) = some start) :
    h.records.filter (·.isWithin start stop) = ofLastDays h days stop :=
  List.filter_congr fun m mem => History.isWithin_of_shift stop_aware first (aware m mem)

section LastDays

variable {h : History} {days : Int} {start stop : Moment}

/-- What is written is what the history has of the last days. -/
theorem written_perm (isExact : h.IsExact) (stop_aware : stop.isAware = true)
    (first : stop.shift? (-(days * dayMicros)) = some start) :
    (written h start stop).Perm (ofLastDays h days stop) := by
  -- Reversing and sorting change the order only.
  rw [← filter_isWithin_eq isExact.aware stop_aware first]
  exact (List.reverse_perm _).trans (History.sortByDateDescending_perm _)

/-- What is written is portable if the texts of the last days are well formed. -/
private theorem portable_written (isExact : h.IsExact) (stop_aware : stop.isAware = true)
    (first : stop.shift? (-(days * dayMicros)) = some start)
    (wellFormed : ((ofLastDays h days stop).all fun m => m.toJson.isWellFormed) = true) :
    ∀ m ∈ written h start stop, m.IsPortable := fun m mem =>
  { isExact.exact m (mem_written mem) with
    wellFormed := List.all_eq_true.mp wellFormed m
      ((written_perm isExact stop_aware first).mem_iff.mp mem) }

/-- A backup is written if the texts of the last days are well formed, and there is none else. -/
theorem value_write_of_isExact (isExact : h.IsExact) (stop_aware : stop.isAware = true)
    (first : stop.shift? (-(days * dayMicros)) = some start) :
    ((write History.store (fun _ => .ok ()) days stop).runOn h).value =
      (if (ofLastDays h days stop).all fun m => m.toJson.isWellFormed then
        .ok (document (written h start stop))
      else .error .unwritable, h) := by
  rw [value_write isExact.aware stop_aware first, (written_perm isExact stop_aware first).all_eq]

/-- What is restored from a backup is what was written. -/
theorem value_restore_written (isExact : h.IsExact) (stop_aware : stop.isAware = true)
    (first : stop.shift? (-(days * dayMicros)) = some start)
    (wellFormed : ((ofLastDays h days stop).all fun m => m.toJson.isWellFormed) = true)
    (now : Moment) (issued : Nat) :
    ((restore History.store now (.ok (document (written h start stop)).text)).runOn
      ⟨[], issued⟩).value =
      (.ok (written h start stop).length, ⟨written h start stop, issued⟩) := by
  -- The texts are well formed, so that the document is read back.
  have portable := portable_written isExact stop_aware first wellFormed
  have named : ∀ m ∈ written h start stop, m.hasId = true := fun m mem =>
    isExact.named m (mem_written mem)
  rw [value_restore_document now portable named]
  rfl

end LastDays

/-- A backup holds each measurement of the last days once and nothing else, the oldest first, and
what is restored from it is what was written, in every field. If a text of one of them holds half of
a surrogate pair, there is no backup. -/
theorem backup_comes_back {h : History} (isExact : h.IsExact) {days : Int} {stop : Moment}
    (stop_aware : stop.isAware = true)
    (inCalendar : (stop.shift? (-(days * dayMicros))).isSome = true) (now : Moment)
    (issued : Nat) :
    if (ofLastDays h days stop).all fun m => m.toJson.isWellFormed then
      ∃ out text, out.Perm (ofLastDays h days stop) ∧
        out.Pairwise (fun a b => a.date.key ≤ b.date.key) ∧
        Json.read text = .ok (.arr (out.map Measurement.toJson)) ∧
        ((write History.store (fun _ => .ok ()) days stop).runOn h).value =
          (.ok ⟨out.length, text⟩, h) ∧
        ((restore History.store now (.ok text)).runOn ⟨[], issued⟩).value =
          (.ok out.length, ⟨out, issued⟩)
    else
      ((write History.store (fun _ => .ok ()) days stop).runOn h).value =
        (.error .unwritable, h) := by
  obtain ⟨start, first⟩ := Option.isSome_iff_exists.mp inCalendar
  have value := value_write_of_isExact isExact stop_aware first
  -- Two cases: every text can be written, or one of them cannot.
  split
  · rename_i wellFormed
    have portable := portable_written isExact stop_aware first wellFormed
    refine ⟨written h start stop, (document (written h start stop)).text,
      written_perm isExact stop_aware first, ?_, read_document portable, ?_,
      value_restore_written isExact stop_aware first wellFormed now issued⟩
    · exact List.pairwise_reverse.mpr (History.pairwise_sortByDateDescending _)
    · rw [value, if_pos wellFormed]
      rfl
  · rename_i illFormed
    rw [value, if_neg illFormed]

/-- A measurement of a station with one concentration. -/
def measured (id : String) (name : Option Text) (date : Moment) : Measurement where
  id := some id
  stationId := 7
  stationName := name
  date := date
  levels := ⟨some .good, none, none, none, none⟩
  values := ⟨some 12.5, none, none, none, none, none⟩
  createdAt := date

/-- Such a measurement can be told exactly by a document. -/
theorem isExact_measured (id : String) (name : Option Text) {date : Moment}
    (whole : date.isWholeMinutes = true) : (measured id name date).IsExact where
  stationId_lt := Nat.lt_of_lt_of_le (show 7 < 10 by decide) (Nat.le_self_pow (by decide) 10)
  finite := by
    intro q x h
    cases q <;> cases h
    decide
  date_whole := whole
  createdAt_whole := whole

/-- A history of two such measurements, with identifiers and with offsets in whole minutes. -/
theorem isExact_pair {id id' : String} {name name' : Option Text} {date date' : Moment}
    (named : (measured id name date).hasId = true ∧ (measured id' name' date').hasId = true)
    (whole : date.isWholeMinutes = true ∧ date'.isWholeMinutes = true)
    (aware : date.isAware = true ∧ date'.isAware = true) (issued : Nat) :
    History.IsExact ⟨[measured id name date, measured id' name' date'], issued⟩ := by
  constructor
  all_goals
    intro m mem
    rcases List.mem_pair.mp mem with rfl | rfl
  · exact isExact_measured id name whole.1
  · exact isExact_measured id' name' whole.2
  · exact named.1
  · exact named.2
  · exact aware.1
  · exact aware.2

open History (noonOfMay)

/-- Two measurements, saved in another order than that of their dates. -/
def twoDays (name : Option Text) : History :=
  ⟨[measured "b" name (noonOfMay 1), measured "a" none (noonOfMay 0)], 0⟩

/-- Both measurements can be told exactly. -/
theorem isExact_twoDays (name : Option Text) : (twoDays name).IsExact :=
  isExact_pair ⟨rfl, rfl⟩ ⟨rfl, rfl⟩ ⟨rfl, rfl⟩ 0

/-- Both are of the last five days. -/
theorem ofLastDays_twoDays (name : Option Text) :
    ofLastDays (twoDays name) 5 (noonOfMay 2) = (twoDays name).records := by
  refine List.filter_eq_self.mpr fun m mem => ?_
  rcases List.mem_pair.mp mem with rfl | rfl
  · have dated : (measured "b" name (noonOfMay 1)).date.key = (noonOfMay 1).key := rfl
    rw [dated]
    decide
  · have dated : (measured "a" none (noonOfMay 0)).date.key = (noonOfMay 0).key := rfl
    rw [dated]
    decide

/-- The texts of the two measurements are well formed if the name is. -/
theorem all_isWellFormed_twoDays (name : Option Text) :
    ((twoDays name).records.all fun m => m.toJson.isWellFormed) = name.all Text.isWellFormed := by
  simp [twoDays, Measurement.isWellFormed_toJson, measured, Text.isWellFormed_ofString]

/-- A station with a name beyond Basic Latin. -/
def krakow : Text := "Kraków"

/-- A name beyond Basic Latin is written and read back. -/
theorem backup_comes_back_twoDays :
    (twoDays krakow).IsExact ∧ (noonOfMay 2).isAware = true ∧
    ((noonOfMay 2).shift? (-((5 : Int) * dayMicros))).isSome = true ∧
    ∃ out text, out.Perm (twoDays krakow).records ∧
      ((write History.store (fun _ => .ok ()) 5 (noonOfMay 2)).runOn (twoDays krakow)).value =
        (.ok ⟨2, text⟩, twoDays krakow) ∧
      ((restore History.store (noonOfMay 3) (.ok text)).runOn .empty).value = (.ok 2, ⟨out, 0⟩) := by
  have inCalendar : ((noonOfMay 2).shift? (-((5 : Int) * dayMicros))).isSome = true := by decide
  have wellFormed : (some krakow).all Text.isWellFormed = true := Text.isWellFormed_ofString "Kraków"
  -- The general statement, in the case of texts that are well formed.
  have back := backup_comes_back (isExact_twoDays krakow) rfl inCalendar (noonOfMay 3) 0
  rw [ofLastDays_twoDays, if_pos ((all_isWellFormed_twoDays krakow).trans wellFormed)] at back
  obtain ⟨out, text, perm, -, -, wrote, restored⟩ := back
  rw [show out.length = 2 from perm.length_eq] at wrote restored
  exact ⟨isExact_twoDays krakow, rfl, inCalendar, out, text, perm, wrote, restored⟩

/-- A name that is half of a surrogate pair. -/
def half : Text := ⟨[.half 0]⟩

/-- A name with half of a surrogate pair is not written, nor is anything else. -/
theorem half_is_not_written :
    (twoDays half).IsExact ∧ (twoDays half).records ≠ [] ∧
    ((write History.store (fun _ => .ok ()) 5 (noonOfMay 2)).runOn (twoDays half)).value =
      (.error .unwritable, twoDays half) := by
  have isExact := isExact_twoDays half
  refine ⟨isExact, List.cons_ne_nil _ _, ?_⟩
  obtain ⟨start, first⟩ : ∃ start, (noonOfMay 2).shift? (-((5 : Int) * dayMicros)) = some start :=
    Option.isSome_iff_exists.mp (by decide)
  -- The name is half of a pair, so that the other case applies.
  have illFormed : ((twoDays half).records.all fun m => m.toJson.isWellFormed) = false :=
    all_isWellFormed_twoDays half
  rw [value_write_of_isExact isExact rfl first, ofLastDays_twoDays, illFormed]
  rfl

end Backup

end AirQuality
