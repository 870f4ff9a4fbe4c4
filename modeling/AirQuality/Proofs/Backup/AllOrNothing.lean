import AirQuality.Proofs.Backup.RoundTrip
import AirQuality.Proofs.Record.Integers
import AirQuality.Proofs.Store.Changes
import AirQuality.Proofs.TimeSeries.Agreement

/-!
# Restoring is all or nothing

A file is restored as a whole, or nothing of it is. Its entries are checked before anything is saved,
and what is saved goes to the database in one call: if that call fails, the fault is passed on, and if
the file is spoilt, the call is never made.

What a file holds is said without the import: its text is a JSON document, an array, and the items of
the array are records of measurements.

## Key results

- `Backup.Holds`: what a file holds
- `Backup.loaded_eq_ok_iff`: the files that are loaded are those that hold records
- `Backup.imported_restore`: what becomes of the history in memory
- `Backup.handed_restore`: what becomes of the database, and what is handed over to it
- `Backup.restore_all_or_nothing`: both together
-/

namespace AirQuality

open Time (Moment)

namespace TimeSeries

/-- Points that were handed over in one call, and whether they were taken. -/
structure NotedWrite where
  points : List Point
  taken : Bool

namespace Client

variable {σ α : Type}

/-- A call that hands over points. -/
def noting (points : List Point) (act : Act σ Unit) : Act (σ × List NotedWrite) Unit :=
  ExceptT.mk (StateT.mk fun (database, writes) => do
    let (r, database) ← act.runOn database
    return (r, (database, writes ++ [⟨points, r.isOk⟩])))

/-- A call that hands over nothing. -/
def passing (act : Act σ α) : Act (σ × List NotedWrite) α :=
  ExceptT.mk (StateT.mk fun (database, writes) => do
    let (r, database) ← act.runOn database
    return (r, (database, writes)))

/-- The client with a list of what is handed over to the database, the last call at the end. -/
def watched (c : Client σ) : Client (σ × List NotedWrite) where
  write points := noting points (c.write points)
  select selection := passing (c.select selection)
  remove removal := passing (c.remove removal)
  close := passing c.close

/-- The list gets the points and whether they were taken, and the database goes on as ever. -/
theorem value_write_watched (c : Client σ) (points : List Point) (database : σ)
    (writes : List NotedWrite) :
    ((c.watched.write points).runOn (database, writes)).value =
      (((c.write points).runOn database).value.1,
        (((c.write points).runOn database).value.2,
          writes ++ [⟨points, ((c.write points).runOn database).value.1.isOk⟩])) := rfl

end Client

end TimeSeries

namespace Backup

open History (KeptAs forall₂_assignIds)
open TimeSeries (Client NotedWrite Point Session)

/-! ## What a file holds -/

/-- The items of a document: those of an array. An object without pairs and a text without characters
have none. -/
inductive HasItems : Json → List Json → Prop where
  | array (items : List Json) : HasItems (.arr items) items
  | noPairs : HasItems (.obj []) []
  | noCharacters : HasItems (.str ⟨[]⟩) []

/-- A file holds items, each of which is the record of a measurement. -/
def Holds (now : Moment) (file : Except Fault String) (items : List Json)
    (ms : List Measurement) : Prop :=
  ∃ text root, file = .ok text ∧ Json.read text = .ok root ∧ HasItems root items ∧
    List.Forall₂ (fun v m => Measurement.ofJson now v = .valid m) items ms

variable {now : Moment} {file : Except Fault String} {items : List Json} {ms : List Measurement}

/-- A text is parsed if it is read, and else the error is only named in another way. -/
theorem parse_eq_ok_iff {text : String} {root : Json} :
    parse text = .ok root ↔ Json.read text = .ok root := by
  rw [parse]
  cases Json.read text with
  | ok v => simp
  | error e => cases e <;> simp

/-- A text is no record. -/
private theorem eq_nil_of_texts {α : Type} {as : List α} {f : α → Text}
    (each : List.Forall₂ (fun v m => Measurement.ofJson now v = .valid m)
      (as.map fun a => .str (f a)) ms) : as = [] := by
  cases as with
  | nil => rfl
  | cons a as =>
    -- The first entry would be a text, and no text is valid.
    obtain ⟨m, ms', valid, -, -⟩ := List.forall₂_cons_left_iff.mp each
    cases valid

/-- If all entries of a document are records, they are its items. -/
theorem hasItems_iff {root : Json}
    (each : List.Forall₂ (fun v m => Measurement.ofJson now v = .valid m) items ms) :
    HasItems root items ↔ entries root = .ok items := by
  constructor
  · rintro (_ | _ | _) <;> rfl
  · intro listed
    -- An array is what it lists. Other documents have entries that are texts, or none at all.
    cases root with
    | arr found =>
      obtain rfl := Except.ok.inj listed
      exact .array _
    | obj pairs =>
      -- The entries of an object are its keys.
      obtain rfl := Except.ok.inj listed
      obtain rfl := eq_nil_of_texts each
      exact .noPairs
    | str t =>
      -- The entries of a text are its characters.
      obtain ⟨points⟩ := t
      obtain rfl := Except.ok.inj listed
      obtain rfl := eq_nil_of_texts each
      exact .noCharacters
    | _ => cases listed

/-- A file is loaded if it holds records of measurements. -/
theorem loaded_eq_ok_iff : loaded now file = .ok ms ↔ ∃ items, Holds now file items ms := by
  -- The import and the description name the same steps, in another order.
  simp only [loaded, bind_eq_ok_iff, Holds, Measurement.ofJsons, mapM_orFault_eq_ok_iff,
    parse_eq_ok_iff]
  constructor
  · rintro ⟨text, given, items, ⟨root, read, listed⟩, each⟩
    exact ⟨items, text, root, given, read, (hasItems_iff each).mpr listed, each⟩
  · rintro ⟨items, text, root, given, read, listed, each⟩
    exact ⟨text, given, items, ⟨root, read, (hasItems_iff each).mp listed⟩, each⟩

/-- A file that cannot be loaded holds no records. -/
private theorem not_holds_of_loaded {fault : Fault} (fails : loaded now file = .error fault)
    (items : List Json) (ms : List Measurement) : ¬Holds now file items ms := by
  intro holds
  rw [loaded_eq_ok_iff.mpr ⟨items, holds⟩] at fails
  cases fails

/-- There is one measurement for each item. -/
theorem Holds.length_eq (holds : Holds now file items ms) : ms.length = items.length := by
  obtain ⟨_, _, _, _, _, each⟩ := holds
  exact each.length_eq.symm

/-- A file holds the same measurements whenever it is looked at. -/
theorem Holds.unique {items' : List Json} {ms' : List Measurement} (holds : Holds now file items ms)
    (holds' : Holds now file items' ms') : ms' = ms := by
  have loaded := loaded_eq_ok_iff.mpr ⟨items, holds⟩
  rw [loaded_eq_ok_iff.mpr ⟨items', holds'⟩] at loaded
  exact Except.ok.inj loaded

/-- The stations of a file have numerals, because the integers of a document do. -/
theorem Holds.hasNumeral (holds : Holds now file items ms) :
    ∀ m ∈ ms, Number.hasNumeral m.stationId = true := by
  intro m mem
  obtain ⟨text, root, -, read, listed, each⟩ := holds
  obtain ⟨v, there, valid⟩ := exists_of_forall₂ each.flip mem
  have numerals := Json.hasNumerals_of_readWithin read
  refine Measurement.hasNumeral_of_ofJson valid ?_
  -- The number of a station is read from an item, and items have numerals as the document has.
  cases listed with
  | array =>
    cases numerals with
    | items all => exact all v there
  | noPairs => cases there
  | noCharacters => cases there

/-! ## What becomes of a history -/

/-- Measurements as they are kept: each with its identifier, or with a generated one. -/
structure AreKeptAs (ms kept : List Measurement) : Prop where
  each : List.Forall₂ KeptAs ms kept
  named : ∀ m ∈ kept, m.hasId = true

/-- What the import of a file answers, and what becomes of a history: everything in the file is kept
behind what is there, or nothing has happened. -/
inductive Imported (now : Moment) (file : Except Fault String) (h : History) :
    Except Fault Nat → History → Prop where
  | all {items : List Json} {ms kept : List Measurement} {issued : Nat}
      (holds : Holds now file items ms) (keeps : AreKeptAs ms kept) :
      Imported now file h (.ok items.length) ⟨h.records ++ kept, issued⟩
  | nothing {fault : Fault} (spoilt : ∀ items ms, ¬Holds now file items ms) :
      Imported now file h (.error fault) h

/-- Identifiers are given where there are none, and nothing else is changed. -/
private theorem areKeptAs_assignIds (issued : Nat) (ms : List Measurement) :
    AreKeptAs ms (assignIds issued ms).1 :=
  ⟨forall₂_assignIds issued ms, hasId_of_mem_assignIds⟩

/-- A history takes the whole of a file, or it stays as it is. -/
theorem imported_restore (now : Moment) (file : Except Fault String) (h : History) :
    ∃ result next, ((restore History.store now file).runOn h).value = (result, next) ∧
      Imported now file h result next := by
  rw [value_restore]
  cases read : loaded now file with
  -- Loading has failed, and then nothing is saved.
  | error fault => exact ⟨_, _, rfl, .nothing (not_holds_of_loaded read)⟩
  | ok ms =>
    obtain ⟨items, holds⟩ := loaded_eq_ok_iff.mp read
    have keeps := areKeptAs_assignIds h.issued ms
    exact ⟨_, _, rfl, holds.length_eq ▸ .all holds keeps⟩

/-! ## What becomes of a database -/

/-- What the import of a file answers, what becomes of a database, and what has been handed over to
it. -/
inductive HandedOver {σ : Type} (c : Client σ) (now : Moment) (file : Except Fault String)
    (database : σ) (writes : List NotedWrite) : Except Fault Nat → σ → List NotedWrite → Prop where
  /-- Everything in the file is handed over in one call, and taken. -/
  | all {items : List Json} {ms kept : List Measurement} {points : List Point} {next : σ}
      (some : items ≠ []) (holds : Holds now file items ms) (keeps : AreKeptAs ms kept)
      (written : List.Forall₂ (fun m p => Point.of m = .ok p) kept points)
      (taken : ((c.write points).runOn database).value = (.ok (), next)) :
      HandedOver c now file database writes (.ok items.length) next (writes ++ [⟨points, true⟩])
  /-- The file has no entries, and no call is made. -/
  | empty (holds : Holds now file [] []) :
      HandedOver c now file database writes (.ok 0) database writes
  /-- The file is spoilt, and no call is made. -/
  | nothing {fault : Fault} (spoilt : ∀ items ms, ¬Holds now file items ms) :
      HandedOver c now file database writes (.error fault) database writes
  /-- Everything in the file is handed over in one call, and it is the call that fails. -/
  | refused {items : List Json} {ms kept : List Measurement} {points : List Point} {fault : Fault}
      {next : σ} (some : items ≠ []) (holds : Holds now file items ms) (keeps : AreKeptAs ms kept)
      (written : List.Forall₂ (fun m p => Point.of m = .ok p) kept points)
      (fails : ((c.write points).runOn database).value = (.error fault, next)) :
      HandedOver c now file database writes (.error fault) next (writes ++ [⟨points, false⟩])

/-- Measurements are saved by one call with all of their points, if there are any. -/
private theorem value_saveAll_session {σ : Type} (c : Client σ) (ms : List Measurement)
    (s : Session σ) :
    ((Session.saveAll c ms).runOn s).value =
      match assignIds s.issued ms with
      | ([], issued) => (.ok [], ⟨issued, s.database⟩)
      | (m :: rest, issued) =>
        match (m :: rest).mapM Point.of with
        | .error fault => (.error fault, ⟨issued, s.database⟩)
        | .ok points =>
          match ((c.write points).runOn s.database).value with
          | (.ok _, next) => (.ok (m :: rest), ⟨issued, next⟩)
          | (.error fault, next) => (.error fault, ⟨issued, next⟩) := by
  rw [Session.saveAll, Act.value_runOn_bind, TimeSeries.value_identify]
  rcases assignIds s.issued ms with ⟨kept, issued⟩
  dsimp only
  -- Without measurements there is no call; else all points are made before the call.
  cases kept with
  | nil => rfl
  | cons m rest =>
    simp only [List.isEmpty_cons, Bool.false_eq_true, if_false]
    rw [Act.value_runOn_bind, Act.value_runOn_reporting, Act.value_runOn_bind]
    simp only [Act.runOn_ofExcept, Traced.value_pure]
    cases (m :: rest).mapM Point.of with
    | error fault => rfl
    | ok points =>
      simp only [TimeSeries.value_call]
      rcases ((c.write points).runOn s.database).value with ⟨result, next⟩
      cases result <;> rfl

/-- What is kept of a file has points, since the stations stay the same. -/
private theorem Holds.exists_points {kept : List Measurement} (holds : Holds now file items ms)
    (keeps : AreKeptAs ms kept) : ∃ points, kept.mapM Point.of = .ok points := by
  refine exists_mapM_eq_ok fun k mem => ?_
  -- What is kept has the station of what it was made of.
  obtain ⟨m, there, same⟩ := exists_of_forall₂ keeps.each.flip mem
  have numeral : Number.hasNumeral k.stationId = true := by
    rw [KeptAs.stationId_eq same]
    exact holds.hasNumeral m there
  exact ⟨_, Point.of_eq_ok_iff.mpr ⟨numeral, rfl⟩⟩

/-- Either the whole of a file is handed over to the database in one call, or nothing of it. -/
theorem handed_restore {σ : Type} (c : Client σ) (clock now : Moment) (file : Except Fault String)
    (issued : Nat) (database : σ) (writes : List NotedWrite) :
    ∃ result issued' next after,
      ((restore (Session.store c.watched clock) now file).runOn
        ⟨issued, (database, writes)⟩).value = (result, ⟨issued', (next, after)⟩) ∧
      HandedOver c now file database writes result next after := by
  rw [value_restore_of]
  cases read : loaded now file with
  | error fault => exact ⟨_, _, _, _, rfl, .nothing (not_holds_of_loaded read)⟩
  | ok ms =>
    obtain ⟨items, holds⟩ := loaded_eq_ok_iff.mp read
    have keeps := areKeptAs_assignIds issued ms
    obtain ⟨points, made⟩ := holds.exists_points keeps
    have saving : (Session.store c.watched clock).saveAll ms = Session.saveAll c.watched ms := rfl
    dsimp only
    rw [saving, value_saveAll_session]
    dsimp only
    generalize assignIds issued ms = assigned at keeps made
    obtain ⟨kept, issued'⟩ := assigned
    have length : kept.length = items.length := keeps.each.length_eq.symm.trans holds.length_eq
    cases kept with
    | nil =>
      -- Nothing is kept of a file without entries only, and then no call is made.
      cases keeps.each
      obtain rfl := List.length_eq_zero_iff.mp length.symm
      exact ⟨_, _, _, _, rfl, .empty holds⟩
    | cons m rest =>
      have some : items ≠ [] := List.ne_nil_of_length_pos (length ▸ Nat.succ_pos rest.length)
      dsimp only at keeps made ⊢
      have written := mapM_eq_ok_iff.mp made
      simp only [made, Client.value_write_watched]
      -- There is one call, and whether it fails decides between the last two cases.
      rcases call : ((c.write points).runOn database).value with ⟨result, next⟩
      cases result with
      | ok _ => exact ⟨_, _, _, _, rfl, length ▸ .all some holds keeps written call⟩
      | error fault => exact ⟨_, _, _, _, rfl, .refused some holds keeps written call⟩

/-! ## The whole statement -/

/-- The import of a file is all or nothing. A history in memory is as before if the import fails;
else every item of the file is kept behind what is there, in the order of the file, and they are as
many as the import answers. If an import into a database fails, nothing was handed over to it, unless
it is the call that hands over the whole file that fails; else the whole file was handed over in one
call and taken. -/
theorem restore_all_or_nothing (now : Moment) (file : Except Fault String) :
    (∀ h : History, ∃ result next,
      ((restore History.store now file).runOn h).value = (result, next) ∧
        Imported now file h result next) ∧
    ∀ {σ : Type} (c : Client σ) (clock : Moment) (issued : Nat) (database : σ)
      (writes : List NotedWrite), ∃ result issued' next after,
      ((restore (Session.store c.watched clock) now file).runOn
        ⟨issued, (database, writes)⟩).value = (result, ⟨issued', (next, after)⟩) ∧
        HandedOver c now file database writes result next after :=
  ⟨imported_restore now file, fun c clock => handed_restore c clock now file⟩

/-! ## Three records -/

/-- If a file holds records, a history takes all of them. -/
private theorem Imported.of_holds {h next : History} {result : Except Fault Nat}
    (imported : Imported now file h result next) (holds : Holds now file items ms) :
    ∃ kept issued, AreKeptAs ms kept ∧ result = .ok items.length ∧
      next = ⟨h.records ++ kept, issued⟩ := by
  -- The measurements are those that the file holds, as it holds no others.
  cases imported with
  | all holds' keeps =>
    obtain rfl := holds.unique holds'
    exact ⟨_, _, keeps, by rw [← holds'.length_eq, holds.length_eq], rfl⟩
  | nothing spoilt => exact absurd holds (spoilt items ms)

/-- If a file holds records and the database takes their points, they are handed over in one call. -/
private theorem HandedOver.of_holds {σ : Type} {c : Client σ} {database next : σ}
    {writes after : List NotedWrite} {result : Except Fault Nat}
    (handed : HandedOver c now file database writes result next after)
    (holds : Holds now file items ms) (some : items ≠ [])
    (takes : ∀ kept points, AreKeptAs ms kept →
      List.Forall₂ (fun m p => Point.of m = .ok p) kept points →
      ∃ taken, ((c.write points).runOn database).value = (.ok (), taken)) :
    ∃ kept points, AreKeptAs ms kept ∧ List.Forall₂ (fun m p => Point.of m = .ok p) kept points ∧
      ((c.write points).runOn database).value = (.ok (), next) ∧ result = .ok items.length ∧
      after = writes ++ [⟨points, true⟩] := by
  -- Of the four cases only the first one is left: there are records, and their points are taken.
  cases handed with
  | all _ holds' keeps written taken =>
    obtain rfl := holds.unique holds'
    exact ⟨_, _, keeps, written, taken, by rw [← holds'.length_eq, holds.length_eq], rfl⟩
  | empty holds' =>
    obtain rfl := holds.unique holds'
    exact absurd (List.length_eq_zero_iff.mp holds.length_eq.symm) some
  | nothing spoilt => exact absurd holds (spoilt items ms)
  | refused _ holds' keeps written fails =>
    obtain rfl := holds.unique holds'
    obtain ⟨taken, same⟩ := takes _ _ keeps written
    rw [fails] at same
    cases same

/-- A file of three records: one with an identifier, one with an empty identifier and the number of
the station as a text, and another one. -/
def threeRecords (last : String) : String :=
  "[\x7b\"id\": \"a\", \"station_id\": 7, \"measurement_date\": \"2026-05-01T12:00:00Z\"\x7d, " ++
    "\x7b\"id\": \"\", \"station_id\": \"8\", \"measurement_date\": " ++
    "\"2026-05-01T14:00:00+02:00\", \"pm10_value\": 12.5\x7d, " ++ last ++ "]"

/-- A record without an identifier. -/
def unnamedRecord : String := "\x7b\"station_id\": 7.0, \"measurement_date\": \"2026-05-01\"\x7d"

/-- What is loaded from a file: identifiers, stations, values of particulate matter, and whether the
dates exist at UTC. -/
def overview (now : Moment) (text : String) :
    Option (List (Option Text × Int × Option Float × Bool)) :=
  (loaded now (.ok text)).toOption.map fun ms =>
    ms.map fun m => (m.id, m.stationId, m.values.pm10, m.date.toUtc?.isSome)

/-- A file has an overview if it holds measurements, and it is theirs. -/
private theorem holds_iff_overview {text : String}
    {entries : List (Option Text × Int × Option Float × Bool)} :
    overview now text = some entries ↔ ∃ items ms, Holds now (.ok text) items ms ∧
      (ms.map fun m => (m.id, m.stationId, m.values.pm10, m.date.toUtc?.isSome)) = entries := by
  rw [overview, Option.map_eq_some_iff]
  -- Both sides say that the file is loaded.
  constructor
  · rintro ⟨ms, read, same⟩
    have loads : loaded now (.ok text) = .ok ms := by
      cases all : loaded now (.ok text) <;> simp_all [Except.toOption]
    obtain ⟨items, holds⟩ := loaded_eq_ok_iff.mp loads
    exact ⟨items, ms, holds, same⟩
  · rintro ⟨items, ms, holds, same⟩
    rw [loaded_eq_ok_iff.mpr ⟨items, holds⟩]
    exact ⟨ms, rfl, same⟩

/-- The overview says which dates exist at UTC. -/
private theorem dated_of_overview {entries : List (Option Text × Int × Option Float × Bool)}
    (same : (ms.map fun m => (m.id, m.stationId, m.values.pm10, m.date.toUtc?.isSome)) = entries)
    (all : ∀ entry ∈ entries, entry.2.2.2 = true) : ∀ m ∈ ms, m.date.toUtc?.isSome = true := by
  intro m mem
  exact all _ (same ▸ List.mem_map.mpr ⟨m, mem, rfl⟩)

/-- Dates that exist at UTC make points that have lines. -/
private theorem exists_lines {kept : List Measurement} {points : List Point}
    (dated : ∀ m ∈ ms, m.date.toUtc?.isSome = true) (keeps : AreKeptAs ms kept)
    (written : List.Forall₂ (fun m p => Point.of m = .ok p) kept points) :
    ∀ p ∈ points, ∃ line, p.line = .ok line := by
  intro p mem
  -- Each point is that of a measurement of the file, with its date.
  obtain ⟨k, there, made⟩ := exists_of_forall₂ written.flip mem
  obtain ⟨m, source, same⟩ := exists_of_forall₂ keeps.each.flip there
  obtain ⟨-, rfl⟩ := Point.of_eq_ok_iff.mp made
  refine Point.line_eq_ok_iff.mpr ?_
  change k.date.toUtc?.isSome = true
  rw [KeptAs.date_eq same]
  exact dated m source

open History (noonOfMay)

/-- Three records are taken by a history, behind two others, and by a database in one call. If the
third item of the file is a number, the history stays as it is. -/
theorem restore_threeRecords :
    ∃ items ms, Holds (noonOfMay 1) (.ok (threeRecords unnamedRecord)) items ms ∧
      (ms.map fun m => (m.id, m.stationId, m.values.pm10, m.date.toUtc?.isSome)) =
        [(some (Text.ofString "a"), 7, none, true), (some (Text.ofString ""), 8, some 12.5, true),
          (none, 7, none, true)] ∧
      (∃ kept issued, AreKeptAs ms kept ∧
        ((restore History.store (noonOfMay 1) (.ok (threeRecords unnamedRecord))).runOn
          (twoDays none)).value = (.ok 3, ⟨(twoDays none).records ++ kept, issued⟩)) ∧
      (∃ points issued, points.length = 3 ∧
        ((restore (Session.store (TimeSeries.listed (noonOfMay 1)).watched (noonOfMay 1))
          (noonOfMay 1) (.ok (threeRecords unnamedRecord))).runOn ⟨0, ([], [])⟩).value =
            (.ok 3, ⟨issued, (points, [⟨points, true⟩])⟩)) ∧
      ∃ fault, ((restore History.store (noonOfMay 1) (.ok (threeRecords "3"))).runOn
        (twoDays none)).value = (.error fault, twoDays none) := by
  -- What the file holds is computed; how it is taken is the general statement.
  obtain ⟨items, ms, holds, entries⟩ := holds_iff_overview.mp
    (show overview (noonOfMay 1) (threeRecords unnamedRecord) =
      some [(some (Text.ofString "a"), 7, none, true), (some (Text.ofString ""), 8, some 12.5, true),
        (none, 7, none, true)] by decide +kernel)
  have length : items.length = 3 := by
    rw [← holds.length_eq]
    simpa using congrArg List.length entries
  have dated := dated_of_overview entries (by simp)
  obtain ⟨inMemory, inDatabase⟩ :=
    restore_all_or_nothing (noonOfMay 1) (.ok (threeRecords unnamedRecord))
  refine ⟨items, ms, holds, entries, ?_, ?_, ?_⟩
  · obtain ⟨result, next, run, imported⟩ := inMemory (twoDays none)
    obtain ⟨kept, issued, keeps, rfl, rfl⟩ := imported.of_holds holds
    exact ⟨kept, issued, keeps, length ▸ run⟩
  · obtain ⟨result, issued, next, after, run, handed⟩ :=
      inDatabase (TimeSeries.listed (noonOfMay 1)) (noonOfMay 1) 0 [] []
    have some : items ≠ [] := List.ne_nil_of_length_pos (by omega)
    obtain ⟨kept, points, keeps, written, taken, rfl, rfl⟩ :=
      handed.of_holds holds some fun kept points keeps written =>
        ⟨_, TimeSeries.value_write_listed _ (exists_lines dated keeps written)⟩
    rw [TimeSeries.value_write_listed _ (exists_lines dated keeps written)] at taken
    obtain rfl : points = next := (Prod.mk.inj taken).2
    refine ⟨points, issued, ?_, length ▸ run⟩
    rw [← written.length_eq, ← keeps.each.length_eq, holds.length_eq, length]
  · obtain ⟨result, next, run, imported⟩ :=
      (restore_all_or_nothing (noonOfMay 1) (.ok (threeRecords "3"))).1 (twoDays none)
    cases imported with
    | all holds' =>
      -- The third item is no record, so that the file holds none.
      have nothing : overview (noonOfMay 1) (threeRecords "3") = none := by decide +kernel
      rw [holds_iff_overview.mpr ⟨_, _, holds', rfl⟩] at nothing
      cases nothing
    | nothing => exact ⟨_, run⟩

end Backup

end AirQuality
