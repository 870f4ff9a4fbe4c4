import AirQuality.Proofs.Backup.RoundTrip
import AirQuality.Proofs.Sync.Gate
import AirQuality.Proofs.Sync.Order
import AirQuality.Proofs.Sync.Verdict
import AirQuality.Proofs.Time.Utc

/-!
# Offsets of the dates in a history

What a pass saves is dated at UTC or by the clock, and so with an offset. A file that is restored may
bring dates without one. From then on the history answers no question about a range, and it cannot
get rid of them: a removal fails as well, and keeps everything.

## Key results

- `Feed.aware_of_index`: a live index has a date with an offset, whatever comes back for its request
- `Sync.Run.areAware_iff`: a pass does not decide whether all dates have offsets
- `Reached`: the histories that come of passes, files and removals
- `answers_iff_brought_aware`: such a history answers if no file has brought a date without offset
-/

namespace AirQuality

open Time (Moment dayMicros)

/-! ## Dates of the feed -/

namespace Feed

/-- A date of the feed that can be read has an offset, since it is moved to UTC. -/
private theorem aware_of_readFeed {text : Text} {zone : Option Time.Zone} {m : Moment}
    (read : Time.readFeed text zone = .ok m) : m.isAware = true := by
  rw [Moment.isAware, Time.offset_of_readFeed read]
  rfl

variable {c : Client} {id : Int} {i : LiveIndex}

/-- An index that is put together has a date with an offset: that of the feed or of the clock. -/
private theorem aware_of_indexOf (clock : c.clock.isAware = true) {l : ListedIndex}
    (found : c.indexOf id l = .ok i) : i.calculationDate.isAware = true := by
  simp only [Client.indexOf] at found
  split at found
  · -- A date that is listed is read, unless its text is empty.
    split at found
    · obtain rfl := Except.ok.inj found
      exact clock
    · obtain ⟨date, read, same⟩ := bind_eq_ok_iff.mp found
      obtain rfl := Except.ok.inj same
      exact aware_of_readFeed read
  · obtain rfl := Except.ok.inj found
    exact clock

/-- So has an index that is found in an answer. -/
private theorem aware_of_indexIn (clock : c.clock.isAware = true) {root : Json}
    (found : c.indexIn id root = .ok (some i)) : i.calculationDate.isAware = true := by
  -- The answer is taken apart in the order in which it is read.
  obtain ⟨node?, _, found⟩ := bind_eq_ok_iff.mp found
  dsimp only at found
  split at found
  · obtain ⟨listed, _, found⟩ := bind_eq_ok_iff.mp found
    split at found
    · cases found
    · obtain ⟨live, placed, same⟩ := bind_eq_ok_iff.mp found
      obtain rfl := Option.some.inj (Except.ok.inj same)
      exact aware_of_indexOf clock placed
  · cases found

/-- A live index has a date with an offset, whatever comes back for its request. -/
theorem aware_of_index (clock : c.clock.isAware = true)
    (found : (c.index id).run.value = .ok (some i)) : i.calculationDate.isAware = true := by
  rw [Client.index, Ask.value_run_catching, Ask.value_run_bind] at found
  -- The request may have failed already, and then there is no index at all.
  cases came : (c.json (Client.indexPath id)).run.value with
  | error fault => simp [came, anyFault] at found
  | ok root =>
    simp only [came, Ask.value_run_ofExcept] at found
    cases placed : c.indexIn id root with
    | error fault => simp [placed, anyFault] at found
    | ok answer =>
      simp only [placed, Except.ok.injEq] at found
      exact aware_of_indexIn clock (placed.trans (congrArg _ found))

/-- Where there is an answer about a station, it is that to the question itself. -/
private theorem value_of_about {α : Type} {ask : Ask α} {a : α}
    (found : (Client.about id ask).run.value = .ok a) : ask.run.value = .ok a := by
  rw [Client.about] at found
  split at found
  · exact found
  · cases found

end Feed

/-! ## Histories -/

/-- Whether the dates of some measurements have offsets. -/
def AreAware (ms : List Measurement) : Prop := ∀ m ∈ ms, m.date.isAware = true

/-- Offsets are asked of each part of a list on its own. -/
private theorem areAware_append {ms more : List Measurement} :
    AreAware (ms ++ more) ↔ AreAware ms ∧ AreAware more := List.forall_mem_append

namespace History

/-- Identifiers have no part in dates. -/
private theorem areAware_saveAll (h : History) (ms : List Measurement) :
    AreAware (h.saveAll ms).2.records ↔ AreAware h.records ∧ AreAware ms := by
  rw [records_saveAll, areAware_append]
  exact and_congr_right fun _ => forall_assignIds fun _ => Iff.rfl

/-- Dates can be compared with a threshold that has an offset if they have one themselves. -/
theorem allComparable_iff {h : History} {threshold : Moment} (aware : threshold.isAware = true) :
    h.allComparable threshold = true ↔ AreAware h.records := by
  simp [allComparable, AreAware, Moment.comparable, aware]

/-- A removal does not decide whether all dates have offsets: if one of them has none, it fails. -/
private theorem areAware_deleteOlder {threshold : Moment} (aware : threshold.isAware = true)
    (h : History) :
    AreAware ((store.deleteOlder threshold).runOn h).value.2.records ↔ AreAware h.records := by
  rw [value_deleteOlder, deleteOlder?_eq]
  by_cases all : h.allComparable threshold = true
  -- All of them have offsets, and so do those that stay.
  · have before : AreAware h.records := (allComparable_iff aware).mp all
    simp only [all, if_true]
    exact iff_of_true (fun m mem => before m (List.mem_filter.mp mem).1) before
  · simp [all]

/-- The questions about a range and the removal, all of which have answers. -/
structure Answers (h : History) (start stop : Moment) : Prop where
  between : ∃ out, h.between? start stop = .ok out
  ranking : ∀ limit, ∃ out, h.ranking? start stop limit = .ok out
  ofStation : ∀ id, ∃ out, h.ofStation? id start stop = .ok out
  statistics : ∀ id, ∃ out, h.statistics? id start stop = .ok out
  hasRecent : ∀ id, ∃ out, h.hasRecent? id start = .ok out
  deleteOlder : ∃ next, h.deleteOlder? start = .ok next

/-- The questions about a range of all stations and the removal, none of which has an answer. -/
structure Refuses (h : History) (start stop : Moment) : Prop where
  between : h.between? start stop = .error .wrongKind
  ranking : ∀ limit, h.ranking? start stop limit = .error .wrongKind
  deleteOlder : h.deleteOlder? start = .error .wrongKind

section Questions

variable {h : History} {start stop : Moment}

/-- Where all dates have offsets, every question about a range that has offsets is answered. -/
private theorem answers_of_areAware (aware : AreAware h.records) (first : start.isAware = true)
    (last : stop.isAware = true) : h.Answers start stop := by
  -- Each question looks at dates and compares them with bounds of the same kind.
  have between := between?_of_aware aware first last
  have ofStation := ofStation?_of_aware aware first last
  constructor
  · exact ⟨_, between⟩
  · exact fun limit => ⟨_, by rw [ranking?, between]; rfl⟩
  · exact fun id => ⟨_, ofStation id⟩
  · exact fun id => ⟨_, by rw [statistics?, ofStation]; rfl⟩
  · intro id
    refine ⟨_, anyNotBefore_of_comparable fun m mem => ?_⟩
    exact Moment.comparable_of_aware first (aware m (List.mem_filter.mp mem).1)
  · exact ⟨_, by rw [deleteOlder?_eq, if_pos ((allComparable_iff first).mpr aware)]⟩

/-- A single date without offset is in the way of every question about all stations. -/
private theorem refuses_of_not_areAware (naive : ¬ AreAware h.records)
    (first : start.isAware = true) :
    h.Refuses start stop := by
  obtain ⟨m, mem, noOffset⟩ : ∃ m ∈ h.records, m.date.isAware = false := by
    simpa [AreAware] using naive
  -- Nothing that the query looks at before it gets to this date makes it stop for another reason.
  have apart : start.comparable m.date = false := by simp [Moment.comparable, first, noOffset]
  have placed : inRange start stop m.date = .error .wrongKind := by
    simp [inRange, notAfter_of_not_comparable apart, bind, Except.bind]
  have between : h.between? start stop = .error .wrongKind := by
    rw [between?, select_eq_error mem placed fun _ _ _ fails => fault_of_inRange fails]
    rfl
  constructor
  · exact between
  · exact fun limit => by rw [ranking?, between]; rfl
  -- The removal compares every date with the threshold, which has an offset.
  · rw [deleteOlder?_eq, if_neg (mt (allComparable_iff first).mp naive)]

end Questions

end History

/-! ## Passes -/

namespace Sync

/-- An environment of a pass on a history: a client of the feed, whatever comes back for its
requests, and clocks that know their offsets. -/
structure Env.IsLive (env : Env History) : Prop where
  store : env.store = History.store
  clock : env.clock.isAware = true
  provider : ∃ client : Feed.Client, client.clock.isAware = true ∧ env.provider = client.provider

/-- A live environment gives dates with offsets. -/
theorem Env.IsLive.dates {env : Env History} (live : env.IsLive) {id : Int} {i : LiveIndex}
    (found : (env.provider.index id).run.value = .ok (some i)) :
    i.calculationDate.isAware = true := by
  obtain ⟨client, clock, provider⟩ := live.provider
  simp only [provider, Feed.Client.provider] at found
  exact Feed.aware_of_index clock (Feed.value_of_about found)

variable {env : Env History} {envs : Env History → Prop} {plan : Plan}

/-- What is saved of a station has the date that is carried, or that of its live index. -/
private theorem dated_of_verdict {dated : Moment → Prop} {s : Station} {h : History} {p : Phase}
    (dates : ∀ i, (env.provider.index s.id).run.value = .ok (some i) → dated i.calculationDate)
    (carries : p.Carries dated s) : ∀ m ∈ (env.verdict s h p).2, dated m.date := by
  -- The later phases come first, since an earlier one goes on with what they give.
  have sensors {i : LiveIndex} (isDated : dated i.calculationDate) :
      ∀ m ∈ (env.verdictOfSensors s i).2, dated m.date := by
    intro m mem
    simp only [Env.verdictOfSensors] at mem
    split at mem
    · rwa [List.mem_singleton.mp mem]
    · cases mem
  have index : ∀ m ∈ (env.verdictOfIndex s).2, dated m.date := by
    intro m mem
    simp only [Env.verdictOfIndex] at mem
    split at mem
    · exact sensors (dates _ ‹_›) m mem
    · cases mem
    · cases mem
  cases p with
  | freshness =>
    intro m mem
    simp only [Env.verdict] at mem
    split at mem
    · cases mem
    · exact index m mem
    · cases mem
  | index => exact index
  | sensors i => exact sensors carries
  | saving m =>
    intro m' mem
    rw [List.mem_singleton.mp mem]
    exact carries.2

/-- The removal at the end of a pass does not decide about offsets. -/
private theorem areAware_cleanUp (live : env.IsLive) (h : History) :
    AreAware ((cleanUp env plan).runOn h).value.2.records ↔ AreAware h.records := by
  rw [value_cleanUp, live.store]
  cases shifted : env.clock.shift? (-plan.retention) with
  | none => rfl
  | some threshold =>
    have aware : threshold.isAware = true := (Moment.isAware_of_shift? shifted).trans live.clock
    have removed := History.areAware_deleteOlder aware h
    dsimp only
    generalize ((History.store.deleteOlder threshold).runOn h).value = answer at removed ⊢
    -- It makes no difference whether the store has answered.
    obtain ⟨_ | _, next⟩ := answer <;> exact removed

/-- A step saves dates with offsets only. -/
theorem Step.areAware_iff (live : ∀ env, envs env → env.IsLive) {x y : Course × History}
    (step : Step envs plan x y)
    (carries : ∀ e ∈ x.1.running, e.2.Carries (·.isAware = true) e.1) :
    AreAware y.2.records ↔ AreAware x.2.records := by
  -- Only the last phase of a task and the removal change the history.
  cases step with
  | goOn met _ phase => rw [(verdict_of_next (live _ met).store phase).1]
  | @finish _ _ _ _ _ _ s p _ met running phase =>
    -- What is saved is dated by the index that the task carries, if it has come to one.
    obtain ⟨-, rfl⟩ := verdict_of_done (live _ met).store phase
    have carried : p.Carries (·.isAware = true) s := carries (s, p) (by simp [running])
    rw [History.areAware_saveAll]
    exact and_iff_left (dated_of_verdict (fun _ found => (live _ met).dates found) carried)
  | @cleanUp env _ st _ _ met _ answer =>
    have removed :
        AreAware ((Sync.cleanUp env plan).runOn st).value.2.records ↔ AreAware st.records :=
      areAware_cleanUp (live env met) st
    rwa [answer] at removed
  | _ => rfl

/-- A pass does not decide whether all dates have offsets, in any order of the steps. -/
theorem Run.areAware_iff (live : ∀ env, envs env → env.IsLive) {h : History} {y : Course × History}
    (run : Run envs plan (.start, h) y) : AreAware y.2.records ↔ AreAware h.records := by
  -- On the steps: what the tasks carry at each of them comes from the run that is behind.
  induction run with
  | refl => rfl
  | @tail x _ before step ih =>
    have carries : ∀ e ∈ x.1.running, e.2.Carries (·.isAware = true) e.1 :=
      Run.carries (fun env met _ _ found => (live env met).dates found) before
    exact (step.areAware_iff live carries).trans ih

end Sync

/-! ## Histories that are reached -/

/-- The measurements that a file brings: all of it or nothing. -/
def Backup.broughtBy (now : Moment) (file : Except Fault String) : List Measurement :=
  match loaded now file with
  | .ok ms => ms
  | .error _ => []

/-- A file that is restored brings its own dates, and one that is not brings none. -/
private theorem Backup.areAware_restore (now : Moment) (file : Except Fault String) (h : History) :
    AreAware ((restore History.store now file).runOn h).value.2.records ↔
      AreAware h.records ∧ AreAware (broughtBy now file) := by
  rw [value_restore, broughtBy]
  cases loaded now file with
  | ok ms => exact h.areAware_saveAll ms
  | error fault => exact (and_iff_left (List.forall_mem_nil _)).symm

/-- The histories that come of passes, files and removals, with what the files have brought. -/
inductive Reached : List Measurement → History → Prop where
  | empty : Reached [] .empty
  /-- A pass, in any order of its steps and whatever comes back for its requests. -/
  | pass {brought : List Measurement} {h h' : History} {envs : Sync.Env History → Prop}
      {plan : Sync.Plan} {c : Sync.Course} (before : Reached brought h)
      (live : ∀ env, envs env → env.IsLive) (run : Sync.Run envs plan (.start, h) (c, h')) :
      Reached brought h'
  /-- A file is restored, or cannot be. -/
  | restore {brought : List Measurement} {h : History} (before : Reached brought h) (now : Moment)
      (file : Except Fault String) :
      Reached (brought ++ Backup.broughtBy now file)
        ((Backup.restore History.store now file).runOn h).value.2
  /-- Old measurements are removed, or cannot be. -/
  | deleteOlder {brought : List Measurement} {h : History} {threshold : Moment}
      (before : Reached brought h) (aware : threshold.isAware = true) :
      Reached brought ((History.store.deleteOlder threshold).runOn h).value.2

/-- What a file makes of an empty history. -/
def History.ofFile (now : Moment) (file : Except Fault String) : History :=
  ((Backup.restore store now file).runOn .empty).value.2

/-- The history of a single file is reached. -/
private theorem reached_ofFile (now : Moment) (file : Except Fault String) :
    Reached (Backup.broughtBy now file) (.ofFile now file) := Reached.empty.restore now file

/-- A computed pass leads from a reached history to a reached one. -/
theorem Reached.runPass {brought : List Measurement} {h : History} (before : Reached brought h)
    {env : Sync.Env History} (live : env.IsLive) (plan : Sync.Plan) :
    Reached brought ((Sync.runPass env plan).runOn h).value.2 := by
  obtain ⟨c, run, -⟩ := Sync.runPass_isRun env plan h
  refine before.pass ?_ run
  rintro _ rfl
  exact live

/-- All dates have offsets if those that files have brought do. -/
theorem Reached.areAware_iff {brought : List Measurement} {h : History}
    (reached : Reached brought h) : AreAware h.records ↔ AreAware brought := by
  -- On the way in which the history was reached, with a case for each of its steps.
  induction reached with
  | empty => rfl
  | pass _ live run ih => exact (run.areAware_iff live).trans ih
  | restore _ now file ih =>
    rw [Backup.areAware_restore, ih, areAware_append]
  | deleteOlder _ aware ih => exact (History.areAware_deleteOlder aware _).trans ih

/-- A history that comes of passes, files and removals answers every question about a range with
offsets, and removes what is old, if all dates that files have brought have offsets. If one has none,
no question about all stations has an answer ever after, and nothing is removed. -/
theorem answers_iff_brought_aware {brought : List Measurement} {h : History}
    (reached : Reached brought h) {start stop : Moment} (first : start.isAware = true)
    (last : stop.isAware = true) :
    (AreAware h.records ↔ AreAware brought) ∧
    (AreAware brought → h.Answers start stop) ∧ (¬ AreAware brought → h.Refuses start stop) := by
  have same := reached.areAware_iff
  refine ⟨same, fun aware => ?_, fun naive => ?_⟩
  · exact History.answers_of_areAware (same.mpr aware) first last
  · exact History.refuses_of_not_areAware (mt same.mp naive) first

open Backup (measured)
open History (noonOfMay)

namespace Backup

/-- Files with one measurement at a whole minute can be read back. -/
private theorem isPortable_measured {date : Moment} (whole : date.isWholeMinutes = true) :
    ∀ m ∈ [measured "a" none date], m.IsPortable := by
  intro m mem
  obtain rfl := List.mem_singleton.mp mem
  refine { isExact_measured "a" none whole with wellFormed := ?_ }
  simp [Measurement.isWellFormed_toJson, measured, Text.isWellFormed_ofString]

/-- What a file with one measurement brings. -/
private theorem broughtBy_measured {date : Moment} (whole : date.isWholeMinutes = true)
    (now : Moment) :
    broughtBy now (.ok (document [measured "a" none date]).text) = [measured "a" none date] := by
  rw [broughtBy, loaded_document now (isPortable_measured whole)]

end Backup

/-- A client of a feed that lists a station and knows nothing else. -/
def oneStation : Feed.Client where
  baseUrl := "/"
  zone := none
  keys := .known
  clock := noonOfMay 1
  stack := .shared
  fetch path :=
    if path = Feed.Client.stationsPath then .answer 200 "[\x7b\"id\": 7\x7d]".toUTF8.toList
    else .answer 404 []

/-- The environment of a pass with this client. -/
def atNoon : Sync.Env History :=
  ⟨oneStation.provider, History.store, noonOfMay 1, Sync.usualPlan.freshness⟩

/-- The client of one station is part of a live environment. -/
private theorem isLive_atNoon : atNoon.IsLive := ⟨rfl, rfl, oneStation, rfl, rfl⟩

/-- After a file, a pass and a removal, a range of three days can be asked for. -/
theorem answers_after_pass :
    ∃ file h, h = ((History.store.deleteOlder (noonOfMay 0)).runOn
        ((Sync.runPass atNoon Sync.usualPlan).runOn
          (.ofFile (noonOfMay 1) file)).value.2).value.2 ∧
      Reached [measured "a" none (noonOfMay 0)] h ∧
      (noonOfMay 0).isAware = true ∧ (noonOfMay 2).isAware = true ∧
      AreAware [measured "a" none (noonOfMay 0)] ∧ h.Answers (noonOfMay 0) (noonOfMay 2) := by
  -- The file is read, the pass is run, and the removal comes last.
  have read := reached_ofFile (noonOfMay 1)
    (.ok (Backup.document [measured "a" none (noonOfMay 0)]).text)
  rw [Backup.broughtBy_measured rfl] at read
  have passed := read.runPass isLive_atNoon Sync.usualPlan
  have removed := passed.deleteOlder (rfl : (noonOfMay 0).isAware = true)
  have aware : AreAware [measured "a" none (noonOfMay 0)] := by
    intro m mem
    obtain rfl := List.mem_singleton.mp mem
    rfl
  obtain ⟨-, answers, -⟩ := answers_iff_brought_aware removed
    (rfl : (noonOfMay 0).isAware = true) (rfl : (noonOfMay 2).isAware = true)
  exact ⟨_, _, rfl, removed, rfl, rfl, aware, answers aware⟩

/-- Noon by a clock that does not know its offset. -/
def noonSomewhere : Moment := ⟨(noonOfMay 0).wall, none⟩

/-- A file with a single date without offset is taken. No question about a range of all stations is
answered after it, and nothing can be removed. -/
theorem refuses_after_file :
    ∃ text, ((Backup.restore History.store (noonOfMay 1) (.ok text)).runOn .empty).value =
        (.ok 1, .ofFile (noonOfMay 1) (.ok text)) ∧
      Reached [measured "a" none noonSomewhere] (.ofFile (noonOfMay 1) (.ok text)) ∧
      (noonOfMay 0).isAware = true ∧ (noonOfMay 2).isAware = true ∧
      (History.ofFile (noonOfMay 1) (.ok text)).Refuses (noonOfMay 0) (noonOfMay 2) := by
  have read := reached_ofFile (noonOfMay 1)
    (.ok (Backup.document [measured "a" none noonSomewhere]).text)
  rw [Backup.broughtBy_measured rfl] at read
  have naive : ¬ AreAware [measured "a" none noonSomewhere] := by
    simp [AreAware, measured, noonSomewhere, Moment.isAware]
  -- The record has a number, so that the file brings it back as it is.
  have named : ∀ m ∈ [measured "a" none noonSomewhere], m.hasId = true := by
    intro m mem
    obtain rfl := List.mem_singleton.mp mem
    rfl
  refine ⟨_, ?_, read, rfl, rfl, ?_⟩
  · rw [History.ofFile,
      Backup.value_restore_document (noonOfMay 1) (Backup.isPortable_measured rfl) named .empty]
    rfl
  · exact History.refuses_of_not_areAware (mt read.areAware_iff.mp naive) rfl

end AirQuality
