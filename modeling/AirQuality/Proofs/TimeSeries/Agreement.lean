import AirQuality.Proofs.Feed.Containment
import AirQuality.Proofs.Store.Ties
import AirQuality.Proofs.TimeSeries.Range
import AirQuality.Proofs.TimeSeries.RoundTrip

/-!
# Latest and recent measurements in the database

The history in the database looks for the latest measurement of a station up to the present, and for
recent ones before it; the history in memory looks at all measurements. So both say the same of the
measurements of the past. Of the database no more is assumed than that it keeps a point of each
station and time, and that it answers selections with these points.

## Key results

- `Client.KeepsPoints`: what is assumed of the database
- `value_saveAll`: what it keeps after measurements have been saved
- `value_hasRecent`, `value_latest`: what it answers about a station
- `histories_agree`: both histories about measurements of the past
- `histories_differ`: a measurement of the future
-/

namespace AirQuality

open Time (Moment UtcOffset)

namespace History

/-- The history without what is dated at a moment or after it. -/
def before (h : History) (t : Moment) : History :=
  ⟨h.records.filter fun m => m.date.key < t.key, h.issued⟩

/-- The history without what is dated after a moment. -/
def upTo (h : History) (t : Moment) : History :=
  ⟨h.records.filter fun m => m.date.key ≤ t.key, h.issued⟩

end History

/-- A condition that every measurement of a station satisfies leaves all of them. -/
private theorem History.recordsOf_filter {h : History} {p : Measurement → Bool} {id : Int}
    (all : ∀ m ∈ h.records, m.stationId = id → p m = true) (n : Nat) :
    History.recordsOf ⟨h.records.filter p, n⟩ id = h.recordsOf id := by
  rw [recordsOf, List.filter_filter, recordsOf]
  -- Only the measurements of the station matter, and the condition is no restriction for them.
  refine List.filter_congr fun m mem => ?_
  by_cases own : m.stationId = id
  · simp [own, all m mem own]
  · simp [own]

/-- Whether a measurement is another one as it is read: the same but for the offset of its date. -/
def Measurement.ReadAs (m read : Measurement) : Prop :=
  ∃ time : Moment, time.isAware = true ∧ time.key = m.date.key ∧ read = { m with date := time }

/-- Whether no two measurements of a station have the same date. -/
def DistinctByStation (ms : List Measurement) : Prop :=
  ms.Pairwise fun a b => a.stationId = b.stationId → a.date.key ≠ b.date.key

namespace TimeSeries

/-! ## What a database keeps -/

/-- Whether two points are of one station and time. The database keeps one of such points. -/
def Point.Clashes (p q : Point) : Prop := p.stationId = q.stationId ∧ p.time.key = q.time.key

/-- Whether a point has an identifier. -/
def Point.isIdentified (p : Point) : Bool := (p.fields.lookup "record_id").isSome

/-- Whether a selection that is made now is one of a point. Without an end it ends now. -/
def Selection.selects (now : Moment) (sel : Selection) (p : Point) : Bool :=
  (sel.start.key ≤ p.time.key && p.time.key < (sel.stop.getD now).key) &&
    sel.station.all (p.stationId == ·)

/-- Whether the times of a selection are of years with four digits. -/
def Selection.isLegible (sel : Selection) : Bool :=
  1000 ≤ sel.start.year && sel.stop.all (1000 ≤ ·.year)

/-- Whether a point may come before another one in an answer. -/
def Point.comesBefore (newestFirst : Bool) (p q : Point) : Bool :=
  if newestFirst then q.time.key ≤ p.time.key else p.time.key ≤ q.time.key

/-- Whether tables answer a selection among some points: with rows that show the points that are
selected, in the order and up to the limit that are wanted, or with any row at all if there is an
identifier among them. -/
def Selection.AnsweredBy (now : Moment) (ps : List Point) (sel : Selection) (tables : List Table) :
    Prop :=
  match sel.wanted with
  | .records newestFirst limit =>
    ∃ sorted, sorted.Perm (ps.filter (sel.selects now)) ∧
      sorted.Pairwise (fun p q => p.comesBefore newestFirst q = true) ∧
      List.Forall₂ (fun r p => ∃ time, Row.Shows r p time) tables.flatten
        (limit.elim sorted sorted.take)
  | .anyIdentifier =>
    (tables.any fun table => !table.isEmpty) = (ps.filter (sel.selects now)).any Point.isIdentified

/-- Whether a database keeps points, `holds` says which: it takes points that have a line, of stations
and times that it has none of, and answers selections now. -/
structure Client.KeepsPoints {σ : Type} (c : Client σ) (holds : σ → List Point → Prop)
    (now : Moment) : Prop where
  write : ∀ database old new, holds database old → (∀ p ∈ new, ∃ line, p.line = .ok line) →
    (old ++ new).Pairwise (fun p q => ¬ p.Clashes q) →
    ∃ next, ((c.write new).runOn database).value = (.ok (), next) ∧ holds next (old ++ new)
  select : ∀ database ps sel, holds database ps → sel.isLegible = true →
    ∃ tables, ((c.select sel).runOn database).value = (.ok tables, database) ∧
      sel.AnsweredBy now ps tables

/-! ## Points of measurements -/

/-- Whether the database can keep what a measurement says. -/
structure IsWritable (m : Measurement) : Prop where
  aware : m.date.isAware = true
  dated : m.date.toUtc?.isSome = true
  sinceEpoch : epoch.key ≤ m.date.key
  finite : ∀ q x, m.values.get q = some x → x.isFinite = true
  readable : m.createdAt.offset.all UtcOffset.isReadable = true
  numeral : Number.hasNumeral m.stationId = true

/-- The point that a measurement is written as. -/
def Point.written (m : Measurement) : Point := ⟨m.date, m.stationId, Point.fieldsOf m⟩

section Written

variable {m : Measurement}

/-- A measurement that can be written has the point that it is written as. -/
private theorem of_eq_written (isWritable : IsWritable m) : Point.of m = .ok (Point.written m) :=
  Point.of_eq_ok_iff.mpr ⟨isWritable.numeral, rfl⟩

/-- Every measurement with an identifier has the field of the identifier. -/
private theorem isIdentified_written (named : m.hasId = true) :
    (Point.written m).isIdentified = true := by
  have field : (Point.fieldsOf m).lookup "record_id" = m.id.map .text :=
    Point.lookup_fieldsOf (by simp [Point.namedFields])
  rw [Point.isIdentified, Point.written, field, Option.isSome_map]
  -- With an identifier the field is there, and without one nothing is claimed.
  cases id : m.id with
  | none => simp [Measurement.hasId, id] at named
  | some t => rfl

/-- From a row that shows a measurement the measurement is read. -/
private theorem readAs_of_shows (isWritable : IsWritable m) {r : Row} {time : Moment}
    (shows : r.Shows (Point.written m) time) :
    ∃ read, r.measurement = pure read ∧ m.ReadAs read := by
  refine ⟨{ m with date := time }, ?_, time, shows.aware, ?_, rfl⟩
  · rw [Row.measurement_of_shows shows isWritable.finite isWritable.numeral,
      Moment.asRead_of_readable isWritable.readable]
  · exact shows.instant

end Written

/-! ## Saving -/

/-- A call to the database changes the database and not the numbers given so far. -/
theorem value_call {σ α : Type} (act : Act σ α) (s : Session σ) :
    ((Session.call act).runOn s).value =
      ((act.runOn s.database).value.1, ⟨s.issued, (act.runOn s.database).value.2⟩) := rfl

variable {σ : Type} {c : Client σ} {holds : σ → List Point → Prop} {now : Moment} {database : σ}
  {ms kept : List Measurement} {issued : Nat}

/-- Identifiers are given without a call to the database. -/
theorem value_identify (s : Session σ) :
    ((Session.identify ms).runOn s).value =
      (.ok (assignIds s.issued ms).1, ⟨(assignIds s.issued ms).2, s.database⟩) := by
  simp only [Session.identify, Act.value_runOn_bind, Act.runOn_state, Act.runOn_setState,
    Act.runOn_pure, Traced.value_pure]

/-- The points of measurements of distinct dates do not clash. -/
private theorem pairwise_written (distinct : DistinctByStation kept) :
    (kept.map Point.written).Pairwise fun p q => ¬ p.Clashes q := by
  -- A clash of points would be a clash of measurements.
  rw [List.pairwise_map]
  exact distinct.imp fun apart clash => apart clash.1 clash.2

/-- After measurements have been saved, the database keeps their points. -/
theorem value_saveAll (keeps : c.KeepsPoints holds now) (empty : holds database [])
    (isWritable : ∀ m ∈ (assignIds issued ms).1, IsWritable m)
    (distinct : DistinctByStation (assignIds issued ms).1) :
    ∃ next, ((Session.saveAll c ms).runOn ⟨issued, database⟩).value =
        (.ok (assignIds issued ms).1, ⟨(assignIds issued ms).2, next⟩) ∧
      holds next ((assignIds issued ms).1.map Point.written) := by
  rw [Session.saveAll, Act.value_runOn_bind, value_identify]
  generalize assignIds issued ms = assigned at isWritable distinct ⊢
  obtain ⟨saved, issued'⟩ := assigned
  dsimp only at isWritable distinct ⊢
  cases saved with
  -- If there is nothing to save, the database is not called.
  | nil => exact ⟨database, rfl, empty⟩
  | cons m rest =>
    -- Each point can be made and has a line, so that the database takes all of them.
    have points : (m :: rest).mapM Point.of = .ok ((m :: rest).map Point.written) := by
      rw [mapM_eq_ok_iff, List.forall₂_map_right_iff, List.forall₂_same]
      exact fun m' mem => of_eq_written (isWritable m' mem)
    have lines : ∀ p ∈ (m :: rest).map Point.written, ∃ line, p.line = .ok line := by
      intro p mem
      obtain ⟨m', mem', rfl⟩ := List.mem_map.mp mem
      exact Point.line_eq_ok_iff.mpr (isWritable m' mem').dated
    obtain ⟨next, wrote, holdsAll⟩ := keeps.write database [] ((m :: rest).map Point.written) empty
      lines (pairwise_written distinct)
    refine ⟨next, ?_, holdsAll⟩
    simp only [List.isEmpty_cons, Bool.false_eq_true, if_false, Act.value_runOn_bind,
      Act.value_runOn_reporting, Act.runOn_ofExcept, points, Traced.value_pure, value_call, wrote,
      Act.runOn_pure]

/-! ## Selections of measurements -/

/-- The points that are selected are those of the measurements in the range. -/
private theorem filter_selects (kept : List Measurement) (sel : Selection) :
    (kept.map Point.written).filter (sel.selects now) =
      (kept.filter fun m => (sel.start.key ≤ m.date.key && m.date.key < (sel.stop.getD now).key) &&
        sel.station.all (m.stationId == ·)).map Point.written := by
  rw [List.filter_map]
  rfl

/-! ## Recent measurements -/

/-- A moment with an offset is placed at UTC by itself. -/
private theorem atUtc_of_toUtc? {m utc : Moment} (aware : m.isAware = true)
    (found : m.toUtc? = some utc) :
    atUtc m = .ok utc := by
  have offset : m.offset.isNone = false := by
    rw [Moment.isAware] at aware
    simpa using aware
  simp [atUtc, offset, found, orFault]

/-- The database has a recent measurement of a station if there is one of the past. -/
theorem value_hasRecent (issued : Nat) (keeps : c.KeepsPoints holds now)
    (held : holds database (kept.map Point.written)) (isWritable : ∀ m ∈ kept, IsWritable m)
    (named : ∀ m ∈ kept, m.hasId = true) (id : Int) {threshold utc : Moment}
    (aware : threshold.isAware = true) (found : threshold.toUtc? = some utc)
    (legible : 1000 ≤ utc.year) :
    ∃ answer, (((Session.store c now).hasRecent id threshold).runOn ⟨issued, database⟩).value =
        (.ok answer, ⟨issued, database⟩) ∧
      ((⟨kept, issued⟩ : History).before now).hasRecent? id threshold = .ok answer := by
  -- The selection begins with the threshold and ends now, as no end is given.
  have selection : Selection.recent id threshold = .ok ⟨utc, none, some id, .anyIdentifier⟩ := by
    rw [Selection.recent, atUtc_of_toUtc? aware found]
    rfl
  obtain ⟨tables, selected, answered⟩ :=
    keeps.select database _ ⟨utc, none, some id, .anyIdentifier⟩ held (by simp [Selection.isLegible,
      legible])
  have comparable : ∀ m ∈ kept, threshold.comparable m.date = true := fun m mem =>
    Moment.comparable_of_aware aware (isWritable m mem).aware
  have answer : (tables.any fun table => !table.isEmpty) =
      (((⟨kept, issued⟩ : History).before now).recordsOf id).any (·.isSince threshold) := by
    -- What the tables say is what the points say, and these stand for the measurements.
    have identified : (tables.any fun table => !table.isEmpty) = _ := answered
    rw [identified, filter_selects, List.any_map, History.recordsOf, History.before,
      List.any_filter, List.any_filter, List.any_filter, Bool.eq_iff_iff, List.any_eq_true,
      List.any_eq_true]
    refine exists_congr fun m => and_congr_right fun mem => ?_
    -- The instants are the same, and each point has an identifier.
    simp [isIdentified_written (named m mem), Measurement.isSince, Moment.le?, comparable m mem,
      Moment.key_of_toUtc? found]
    tauto
  have comparable' : ∀ m ∈ ((⟨kept, issued⟩ : History).before now).recordsOf id,
      threshold.comparable m.date = true := fun m mem =>
    comparable m (List.mem_filter.mp (List.mem_filter.mp mem).1).1
  refine ⟨tables.any fun table => !table.isEmpty, ?_, ?_⟩
  -- The database is asked once; the history in memory looks at dates that can be compared.
  · simp only [Session.store, Act.value_runOn_bind, Act.runOn_ofExcept, selection,
      Traced.value_pure, value_call, selected, Act.runOn_pure]
  · rw [History.hasRecent?, History.anyNotBefore_of_comparable comparable', answer]

/-! ## The latest measurement -/

/-- The measurements of a station that are not of the future. -/
def past (kept : List Measurement) (now : Moment) (id : Int) : List Measurement :=
  ((⟨kept, 0⟩ : History).upTo now).recordsOf id

/-- What belongs to the past of a station. -/
private theorem mem_past {id : Int} {m : Measurement} :
    m ∈ past kept now id ↔ m ∈ kept ∧ m.date.key ≤ now.key ∧ m.stationId = id := by
  simp only [past, History.recordsOf, History.upTo, List.mem_filter, decide_eq_true_eq, beq_iff_eq,
    and_assoc]

/-- Up to the least step behind the present, the points of a station are selected that are not of the
future. -/
private theorem filter_selects_past (isWritable : ∀ m ∈ kept, IsWritable m) {next : Moment}
    (behind : next.key = now.key + step) (id : Int) (wanted : Wanted) :
    (kept.map Point.written).filter (Selection.selects now ⟨epoch, some next, some id, wanted⟩) =
      (past kept now id).map Point.written := by
  rw [filter_selects, past, History.recordsOf, History.upTo, List.filter_filter]
  congr 1
  refine List.filter_congr fun m mem => ?_
  -- Nothing is older than the beginning of the selection, and its end is just behind the present.
  have old := (isWritable m mem).sinceEpoch
  have ends : m.date.key < next.key ↔ m.date.key ≤ now.key := by
    rw [behind, step]
    omega
  simp [old, ends, Bool.and_comm]

/-- The measurements of one station have dates of their own. -/
private theorem distinctDates_past (distinct : DistinctByStation kept) (id : Int) :
    History.DistinctDates (past kept now id) := by
  have apart : DistinctByStation (past kept now id) := (distinct.filter _).filter _
  refine apart.imp_of_mem fun {a b} memA memB apart => apart ?_
  rw [(mem_past.mp memA).2.2, (mem_past.mp memB).2.2]

/-- Of points that are sorted by time, the newest first, the first one is that of the latest
measurement. -/
private theorem isLatest_of_sorted (distinct : DistinctByStation kept) {id : Int} {q : Point}
    {rest : List Point}
    (perm : (q :: rest).Perm ((past kept now id).map Point.written))
    (sorted : (q :: rest).Pairwise fun p q => p.comesBefore true q = true) :
    ∃ m ∈ kept, q = Point.written m ∧ History.IsLatest (past kept now id) m := by
  obtain ⟨m, mem, rfl⟩ := List.mem_map.mp (perm.subset List.mem_cons_self)
  refine ⟨m, (mem_past.mp mem).1, rfl,
    History.isLatest_of_distinct (distinctDates_past distinct id) mem fun m' mem' => ?_⟩
  -- A measurement stands at the place of its point, and its date is the time of the point.
  change (Point.written m').time.key ≤ (Point.written m).time.key
  rcases List.mem_cons.mp (perm.symm.subset (List.mem_map_of_mem mem')) with same | later
  · exact Int.le_of_eq (congrArg (fun p : Point => p.time.key) same)
  · simpa [Point.comesBefore] using List.rel_of_pairwise_cons sorted later

/-- The database finds the latest measurement of a station that is not of the future. -/
theorem value_latest (issued : Nat) (keeps : c.KeepsPoints holds now)
    (held : holds database (kept.map Point.written)) (isWritable : ∀ m ∈ kept, IsWritable m)
    (distinct : DistinctByStation kept) (utc : now.offset = some .zero) (inside : now.isLast = false)
    (late : 1000 ≤ now.year) (id : Int) :
    ∃ latest found, (((Session.store c now).latest id).runOn ⟨issued, database⟩).value =
        (.ok found, ⟨issued, database⟩) ∧
      ((⟨kept, issued⟩ : History).upTo now).latest? id = .ok latest ∧
      Option.Rel Measurement.ReadAs latest found := by
  obtain ⟨next, nextUtc, behind, selection⟩ :=
    Selection.exists_selection (rfl : epoch.offset = some .zero) utc inside (some id) true (some 1)
  -- The end of the selection has a year with four digits, since it is not before the present.
  have later := year_mono utc nextUtc (by rw [behind, step]; omega)
  have legible : Selection.isLegible ⟨epoch, some next, some id, .records true (some 1)⟩ = true := by
    simp only [Selection.isLegible, Option.all_some, Bool.and_eq_true, decide_eq_true_eq]
    exact ⟨by decide, by omega⟩
  obtain ⟨tables, selected, sorted, perm, order, rows⟩ := keeps.select database _ _ held legible
  rw [filter_selects_past isWritable behind] at perm
  -- Whatever the rows are read as, the first of them is the answer.
  have asked (read : Except Fault (List Measurement))
      (reads : (tables.flatten.mapM Row.measurement).run.value = read) :
      (((Session.store c now).latest id).runOn ⟨issued, database⟩).value =
        (read.map List.head?, ⟨issued, database⟩) := by
    simp only [Session.store, Session.select, Act.value_runOn_bind, Act.runOn_ofExcept, selection,
      Traced.value_pure, Act.value_runOn_reporting, value_call, selected, Act.runOn_ofAsk,
      Traced.value_map, reads]
    cases read <;> rfl
  have aware : ∀ m ∈ past kept now id, m.date.isAware = true := fun m mem =>
    (isWritable m (mem_past.mp mem).1).aware
  -- Without a point there is no row, and with one the first row is the latest measurement.
  cases sorted with
  | nil =>
    have nothing : past kept now id = [] := by simpa using perm
    have noRows : tables.flatten = [] := List.forall₂_nil_right_iff.mp rows
    refine ⟨none, none, asked (.ok []) ?_, History.latest?_of_nil nothing, .none⟩
    rw [noRows]
    rfl
  | cons q rest =>
    obtain ⟨m, mem, rfl, isLatest⟩ := isLatest_of_sorted distinct perm order
    -- The limit leaves one row, and it shows the latest measurement.
    obtain ⟨r, more, ⟨time, shows⟩, noMore, all⟩ := List.forall₂_cons_right_iff.mp rows
    obtain rfl := List.forall₂_nil_right_iff.mp noMore
    obtain ⟨read, reads, readAs⟩ := readAs_of_shows (isWritable m mem) shows
    refine ⟨some m, some read, asked (.ok [read]) ?_,
      (History.latest?_eq_some_iff aware).mpr isLatest, .some readAs⟩
    rw [all, List.mapM_cons, reads]
    rfl

/-! ## Both histories -/

/-- Identifiers do not matter for what can be written. -/
private theorem isWritable_unnamed (m : Measurement) : IsWritable m.unnamed ↔ IsWritable m :=
  ⟨fun ⟨aware, dated, sinceEpoch, finite, readable, numeral⟩ =>
      ⟨aware, dated, sinceEpoch, finite, readable, numeral⟩,
    fun ⟨aware, dated, sinceEpoch, finite, readable, numeral⟩ =>
      ⟨aware, dated, sinceEpoch, finite, readable, numeral⟩⟩

/-- The same measurements are saved in both histories. About each station the database answers then
what the history in memory does of the past: whether there is a recent measurement before now, and
what the latest one up to now is. Only measurements of the future can make a difference. -/
theorem histories_agree (keeps : c.KeepsPoints holds now) (empty : holds database [])
    (isWritable : ∀ m ∈ ms, IsWritable m) (distinct : DistinctByStation ms)
    (utc : now.offset = some .zero) (inside : now.isLast = false) (late : 1000 ≤ now.year)
    (issued : Nat) :
    ∃ saved next h,
      (((Session.store c now).saveAll ms).runOn ⟨issued, database⟩).value = (.ok saved, next) ∧
      ((History.store.saveAll ms).runOn ⟨[], issued⟩).value = (.ok saved, h) ∧
      ∀ id,
        (∀ threshold, threshold.isAware = true →
          (∃ utc, threshold.toUtc? = some utc ∧ 1000 ≤ utc.year) → ∃ answer,
            (((Session.store c now).hasRecent id threshold).runOn next).value = (.ok answer, next) ∧
            (h.before now).hasRecent? id threshold = .ok answer ∧
            ((∀ m ∈ ms, m.stationId = id → m.date.key < now.key) →
              h.hasRecent? id threshold = .ok answer)) ∧
        ∃ latest found,
          (((Session.store c now).latest id).runOn next).value = (.ok found, next) ∧
          (h.upTo now).latest? id = .ok latest ∧ Option.Rel Measurement.ReadAs latest found ∧
          ((∀ m ∈ ms, m.stationId = id → m.date.key ≤ now.key) → h.latest? id = .ok latest) := by
  -- What is saved differs from what is given in its identifiers only.
  have savable : ∀ m ∈ (assignIds issued ms).1, IsWritable m :=
    (forall_assignIds isWritable_unnamed).mpr isWritable
  have apart : DistinctByStation (assignIds issued ms).1 :=
    (pairwise_assignIds fun _ _ => Iff.rfl).mpr distinct
  obtain ⟨next, saved, held⟩ := value_saveAll keeps empty savable apart
  refine ⟨_, _, ⟨(assignIds issued ms).1, (assignIds issued ms).2⟩, saved, ?_, fun id =>
    ⟨fun threshold aware ⟨utc, found, legible⟩ => ?_, ?_⟩⟩
  · rw [History.store, History.value_runOn_saving]
    rfl
  -- Both answers are those of the two lemmas, and without a future the past is everything.
  · obtain ⟨answer, asked, told⟩ := value_hasRecent _ keeps held savable
      (fun m mem => hasId_of_mem_assignIds m mem) id aware found legible
    refine ⟨answer, asked, told, fun past => ?_⟩
    have past : ∀ m ∈ (assignIds issued ms).1, m.stationId = id → m.date.key < now.key :=
      (forall_assignIds fun _ => Iff.rfl).mpr past
    rw [History.hasRecent?, History.before, History.recordsOf_filter (by simpa using past)] at told
    exact told
  · obtain ⟨latest, found, asked, told, same⟩ :=
      value_latest _ keeps held savable apart utc inside late id
    refine ⟨latest, found, asked, told, same, fun past => ?_⟩
    have past : ∀ m ∈ (assignIds issued ms).1, m.stationId = id → m.date.key ≤ now.key :=
      (forall_assignIds fun _ => Iff.rfl).mpr past
    rw [History.latest?, History.upTo, History.recordsOf_filter (by simpa using past)] at told
    exact told

/-! ## A list as a database -/

/-- What a list of points answers to a selection. -/
def Selection.tables (now : Moment) (ps : List Point) (sel : Selection) : List Table :=
  let selected := ps.filter (sel.selects now)
  match sel.wanted with
  | .records newestFirst limit =>
    let sorted := selected.mergeSort (Point.comesBefore newestFirst)
    [(limit.elim sorted sorted.take).map Row.ofPoint]
  | .anyIdentifier => [((selected.filter Point.isIdentified).take 1).map Row.ofPoint]

/-- A list as a database. New points are put behind the others, if each of them has a line. -/
def listed (now : Moment) : Client (List Point) where
  write new := do
    let _ ← Act.ofExcept (new.mapM Point.line)
    Act.setState ((← Act.state) ++ new)
  select sel := do return sel.tables now (← Act.state)
  remove _ := return ()
  close := return ()

/-- Whether a list holds some points, whose times exist at UTC. -/
def IsListed (list ps : List Point) : Prop := list = ps ∧ ∀ p ∈ ps, p.time.toUtc?.isSome = true

/-- A limit takes elements away and adds none. -/
private theorem mem_of_limit {α : Type} {limit : Option Nat} {sorted : List α} {a : α}
    (mem : a ∈ limit.elim sorted sorted.take) : a ∈ sorted := by
  cases limit with
  | none => exact mem
  | some n => exact List.mem_of_mem_take mem

/-- A list answers a selection as a database that keeps points has to. -/
private theorem answeredBy_tables {ps : List Point} (dated : ∀ p ∈ ps, p.time.toUtc?.isSome = true)
    (sel : Selection) : sel.AnsweredBy now ps (sel.tables now ps) := by
  rw [Selection.AnsweredBy, Selection.tables]
  have selected : ∀ p ∈ ps.filter (sel.selects now), p.time.toUtc?.isSome = true :=
    fun p mem => dated p (List.mem_filter.mp mem).1
  generalize ps.filter (sel.selects now) = points at selected ⊢
  cases sel.wanted with
  | records newestFirst limit =>
    -- Sorting is a permutation, and the comparison is total and transitive.
    refine ⟨_, List.mergeSort_perm _ (Point.comesBefore newestFirst), ?_, ?_⟩
    · apply List.pairwise_mergeSort
      · intro p q r
        cases newestFirst <;> simp [Point.comesBefore] <;> omega
      · intro p q
        cases newestFirst <;> simp [Point.comesBefore] <;> omega
    · simp only [List.flatten_cons, List.flatten_nil, List.append_nil, List.forall₂_map_left_iff,
        List.forall₂_same]
      intro p mem
      obtain ⟨utc, atUtc⟩ :=
        Option.isSome_iff_exists.mp (selected p (List.mem_mergeSort.mp (mem_of_limit mem)))
      exact ⟨utc, Row.shows_ofPoint atUtc⟩
  | anyIdentifier =>
    -- There is a row if and only if one of the points has an identifier.
    rw [Bool.eq_iff_iff, List.any_eq_true]
    cases identified : points.filter Point.isIdentified with
    | nil => simp_all
    | cons p rest =>
      have first : p ∈ points.filter Point.isIdentified := identified ▸ List.mem_cons_self
      simpa using ⟨p, List.mem_filter.mp first⟩

/-- Points that have lines are put behind the others. -/
theorem value_write_listed (now : Moment) {old new : List Point}
    (lines : ∀ p ∈ new, ∃ line, p.line = .ok line) :
    (((listed now).write new).runOn old).value = (.ok (), old ++ new) := by
  obtain ⟨written, each⟩ := exists_mapM_eq_ok lines
  simp only [listed, Act.value_runOn_bind, Act.runOn_ofExcept, each, Traced.value_pure,
    Act.runOn_state, Act.runOn_setState]

/-- The list is one of the databases that the theorems are about. -/
private theorem keepsPoints_listed (now : Moment) : (listed now).KeepsPoints IsListed now where
  -- New points are behind the others, and those with a line exist at UTC.
  write := by
    rintro _ old new ⟨rfl, dated⟩ lines -
    refine ⟨_, value_write_listed now lines, rfl, fun p mem => ?_⟩
    exact (List.mem_append.mp mem).elim (dated p) fun mem => Point.line_eq_ok_iff.mp (lines p mem)
  select := by
    rintro _ ps sel ⟨rfl, dated⟩ -
    exact ⟨_, rfl, answeredBy_tables dated sel⟩

open History (noonOfMay)

/-- The measurements of the examples can be written. -/
private theorem isWritable_noon (day : Fin 9) {id : Int} (digit : id.natAbs < 10) :
    IsWritable (escaped id (noonOfMay day) (noonOfMay day)) where
  aware := rfl
  dated := by
    rw [show (escaped id (noonOfMay day) (noonOfMay day)).date = noonOfMay day from rfl,
      Moment.toUtc?_of_utc rfl]
    rfl
  sinceEpoch := by
    change epoch.key ≤ (noonOfMay day).key
    revert day
    decide
  finite := finite_escaped id _ _
  readable := rfl
  numeral := hasNumeral_of_digit digit

/-- Two measurements of one station, and one of another station at the same time. -/
def ofTwoStations : List Measurement :=
  [escaped 7 (noonOfMay 0) (noonOfMay 0), escaped 7 (noonOfMay 1) (noonOfMay 1),
    escaped 8 (noonOfMay 0) (noonOfMay 0)]

/-- On the third day both histories say the same of the first two. -/
theorem histories_agree_twoStations :
    (listed (noonOfMay 2)).KeepsPoints IsListed (noonOfMay 2) ∧ IsListed [] [] ∧
    (∀ m ∈ ofTwoStations, IsWritable m) ∧ DistinctByStation ofTwoStations ∧
    (noonOfMay 2).offset = some .zero ∧ (noonOfMay 2).isLast = false ∧ 1000 ≤ (noonOfMay 2).year ∧
    ∃ saved next h, (((Session.store (listed (noonOfMay 2)) (noonOfMay 2)).saveAll
        ofTwoStations).runOn ⟨0, []⟩).value = (.ok saved, next) ∧
      ((History.store.saveAll ofTwoStations).runOn .empty).value = (.ok saved, h) ∧
      (∃ answer, (((Session.store (listed (noonOfMay 2)) (noonOfMay 2)).hasRecent 7
          (noonOfMay 1)).runOn next).value = (.ok answer, next) ∧
        h.hasRecent? 7 (noonOfMay 1) = .ok answer) ∧
      ∃ latest found, (((Session.store (listed (noonOfMay 2)) (noonOfMay 2)).latest 7).runOn
          next).value = (.ok found, next) ∧
        h.latest? 7 = .ok latest ∧ Option.Rel Measurement.ReadAs latest found := by
  have empty : IsListed [] [] := ⟨rfl, by simp⟩
  have isWritable : ∀ m ∈ ofTwoStations, IsWritable m := by
    intro m mem
    simp only [ofTwoStations, List.mem_cons, List.not_mem_nil, or_false] at mem
    rcases mem with rfl | rfl | rfl
    · exact isWritable_noon 0 (by decide)
    · exact isWritable_noon 1 (by decide)
    · exact isWritable_noon 0 (by decide)
  have distinct : DistinctByStation ofTwoStations := by
    -- The first two differ in their dates, and the third one is of another station.
    have dates : (noonOfMay 0).key ≠ (noonOfMay 1).key := by decide
    simp [DistinctByStation, ofTwoStations, escaped, dates]
  have past : ∀ m ∈ ofTwoStations, m.stationId = 7 → m.date.key < (noonOfMay 2).key := by
    have first : (noonOfMay 0).key < (noonOfMay 2).key := by decide
    have second : (noonOfMay 1).key < (noonOfMay 2).key := by decide
    simp [ofTwoStations, escaped, first, second]
  obtain ⟨saved, next, h, inDatabase, inMemory, about⟩ :=
    histories_agree (keepsPoints_listed (noonOfMay 2)) empty isWritable distinct rfl (by decide)
      (by decide) 0
  -- The general statement, at the station of the two measurements.
  obtain ⟨recent, latest, found, asked, -, same, told⟩ := about 7
  obtain ⟨answer, askedRecent, -, toldRecent⟩ :=
    recent (noonOfMay 1) rfl ⟨noonOfMay 1, Moment.toUtc?_of_utc rfl, by decide⟩
  exact ⟨keepsPoints_listed _, empty, isWritable, distinct, rfl, by decide, by decide, saved, next, h,
    inDatabase, inMemory, ⟨answer, askedRecent, toldRecent past⟩, latest, found, asked,
    told fun m mem own => Int.le_of_lt (past m mem own), same⟩

/-- A measurement of the future, and nothing else. -/
def ofTomorrow : List Measurement := [escaped 7 (noonOfMay 2) (noonOfMay 2)]

/-- Of a measurement that is dated tomorrow the database knows nothing today, neither as a recent one
nor as the latest one. The history in memory knows it. -/
theorem histories_differ :
    (listed (noonOfMay 1)).KeepsPoints IsListed (noonOfMay 1) ∧ IsListed [] [] ∧
    (∀ m ∈ ofTomorrow, IsWritable m) ∧ DistinctByStation ofTomorrow ∧
    ∃ saved next h m, (((Session.store (listed (noonOfMay 1)) (noonOfMay 1)).saveAll
        ofTomorrow).runOn ⟨0, []⟩).value = (.ok saved, next) ∧
      ((History.store.saveAll ofTomorrow).runOn .empty).value = (.ok saved, h) ∧
      (((Session.store (listed (noonOfMay 1)) (noonOfMay 1)).hasRecent 7 (noonOfMay 0)).runOn
        next).value = (.ok false, next) ∧
      h.hasRecent? 7 (noonOfMay 0) = .ok true ∧
      (((Session.store (listed (noonOfMay 1)) (noonOfMay 1)).latest 7).runOn next).value =
        (.ok none, next) ∧
      h.latest? 7 = .ok (some m) := by
  have keeps := keepsPoints_listed (noonOfMay 1)
  have empty : IsListed [] [] := ⟨rfl, by simp⟩
  have isWritable : ∀ m ∈ ofTomorrow, IsWritable m := by
    simp only [ofTomorrow, List.forall_mem_singleton]
    exact isWritable_noon 2 (by decide)
  have distinct : DistinctByStation ofTomorrow := List.pairwise_singleton _ _
  obtain ⟨next, saved, held⟩ : ∃ next, ((Session.saveAll (listed (noonOfMay 1)) ofTomorrow).runOn
        ⟨0, []⟩).value = (.ok ofTomorrow, ⟨0, next⟩) ∧
      IsListed next (ofTomorrow.map Point.written) := value_saveAll keeps empty isWritable distinct
  have named : ∀ m ∈ ofTomorrow, m.hasId = true := by
    simp only [ofTomorrow, List.forall_mem_singleton]
    rfl
  obtain ⟨answer, recent, told⟩ := value_hasRecent 0 keeps held isWritable named 7
    (rfl : (noonOfMay 0).isAware = true) (Moment.toUtc?_of_utc rfl) (by decide)
  -- The computed history before today has no recent measurement, and up to today it has none at
  -- all.
  obtain rfl : answer = false := (Except.ok.inj told).symm
  obtain ⟨latest, found, asked, told, same⟩ :=
    value_latest 0 keeps held isWritable distinct rfl (by decide) (by decide) 7
  obtain rfl : latest = none := (Except.ok.inj told).symm
  cases same
  exact ⟨keeps, empty, isWritable, distinct, _, _, _, _, saved, rfl, recent, rfl, asked, rfl⟩

end TimeSeries

end AirQuality
