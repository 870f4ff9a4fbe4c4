import AirQuality.Proofs.Sync.Order
import AirQuality.Proofs.Sync.Verdict
import Mathlib.Data.List.Nodup

/-!
# The order of the steps does not matter

With a history as the store and stations of different numbers, all runs of a pass come to the same
end, whichever order their steps are taken in: the report of the pass that works on the stations one
after the other, and the same measurements up to their order and their identifiers. What carries
this is that every task carries out the verdict on its station that could be told at the beginning,
because the other tasks save nothing of this station.

## Key results

- `Env.Grown`: a history has grown by what the verdicts on some stations save;
  `Env.Grown.saveAll`: it goes on to grow by that of another station
- `Course.Follows`: what a pass has come to before it removes old measurements, by the verdicts;
  `Run.follows`: it holds in any order of the steps
- `Env.Grown.runEach`, `value_runEach_eq`: the verdicts say what stations come to that are worked
  on in order
- `pass_confluent`: the whole statement
-/

namespace AirQuality.Sync

variable {env : Env History} {plan : Plan} {stations : List Station} {old h : History}

/-! ## What the verdicts say of several stations -/

/-- What is saved of some stations, by the verdicts on them. -/
def Env.savings (env : Env History) (old : History) (stations : List Station) : List Measurement :=
  stations.flatMap fun s => (env.verdict s old .freshness).2

/-- What becomes of some stations, by the verdicts on them. -/
def Env.outcomes (env : Env History) (old : History) (stations : List Station) : List Outcome :=
  stations.map fun s => (env.verdict s old .freshness).1

/-- Savings do not depend on the order of the stations, but for their own order. -/
private theorem savings_perm {ss ss' : List Station} (perm : ss.Perm ss') :
    (env.savings old ss).Perm (env.savings old ss') := perm.flatMap_right _

/-- Whatever is saved is a measurement of one of the stations. -/
private theorem stationId_of_mem_savings {ss : List Station} {m : Measurement}
    (hm : m ∈ env.savings old ss) : ∃ s ∈ ss, m.stationId = s.id := by
  obtain ⟨s, hs, hm⟩ := List.mem_flatMap.mp hm
  exact ⟨s, hs, (saved_of_verdict hm).1⟩

/-- What is saved has no identifier yet. -/
private theorem map_unnamed_verdict (s : Station) :
    (env.verdict s old .freshness).2.map Measurement.unnamed =
      (env.verdict s old .freshness).2 := by
  refine (List.map_congr_left fun m hm => ?_).trans (List.map_id _)
  have unnamed := (saved_of_verdict hm).2
  cases m
  -- The two records agree in all fields but the identifier, which the first one lacks.
  simp only [Measurement.unnamed, id_eq, Measurement.mk.injEq, and_true]
  exact unnamed.symm

/-- What is saved of a station is saved under its number. -/
private theorem filter_verdict (s : Station) :
    (env.verdict s old .freshness).2.filter (fun m => m.stationId == s.id) =
      (env.verdict s old .freshness).2 := by
  rw [List.filter_eq_self]
  intro m hm
  exact beq_iff_eq.mpr (saved_of_verdict hm).1

/-- Nothing is saved under a number that is none of the stations'. -/
private theorem savings_of_other {ss : List Station} {id : Int} (other : id ∉ ss.map Station.id) :
    (env.savings old ss).filter (fun m => m.stationId == id) = [] := by
  rw [List.filter_eq_nil_iff]
  intro m hm same
  obtain ⟨s, hs, number⟩ := stationId_of_mem_savings hm
  rw [beq_iff_eq, number] at same
  exact other (same ▸ List.mem_map_of_mem hs)

/-- Under the number of a station only what its own verdict says is saved. -/
private theorem savings_of_mem {ss : List Station} (distinct : (ss.map Station.id).Nodup)
    {s : Station} (hs : s ∈ ss) :
    (env.savings old ss).filter (fun m => m.stationId == s.id) =
      (env.verdict s old .freshness).2 := by
  -- The list is taken apart at the station: before it and after it the number does not occur again.
  obtain ⟨before, after, rfl⟩ := List.append_of_mem hs
  rw [List.map_append, List.map_cons, List.nodup_middle, List.nodup_cons, List.mem_append,
    not_or] at distinct
  obtain ⟨⟨notBefore, notAfter⟩, _⟩ := distinct
  have split : env.savings old (before ++ s :: after) =
      env.savings old before ++ ((env.verdict s old .freshness).2 ++ env.savings old after) := by
    simp only [Env.savings, List.flatMap_append, List.flatMap_cons]
  rw [split, List.filter_append, List.filter_append, savings_of_other notBefore,
    savings_of_other notAfter, filter_verdict, List.nil_append, List.append_nil]

/-- Stations that fail save nothing. -/
private theorem savings_without_failed (ss : List Station) :
    env.savings old (ss.filter fun s => (env.verdict s old .freshness).1 ≠ .failed) =
      env.savings old ss := by
  -- On the stations: one that fails is left out, and its verdict saves nothing.
  induction ss with
  | nil => rfl
  | cons s rest ih =>
    by_cases failed : (env.verdict s old .freshness).1 = .failed
    · have nothing : (env.verdict s old .freshness).2 = [] :=
        verdict_nothing_saved (by rw [failed]; decide)
      rw [List.filter_cons_of_neg (by simpa using failed), ih]
      simp only [Env.savings, List.flatMap_cons, nothing, List.nil_append]
    · rw [List.filter_cons_of_pos (by simpa using failed)]
      simp only [Env.savings, List.flatMap_cons] at ih ⊢
      rw [ih]

/-! ## Growth by the verdicts -/

/-- A history has grown by what is saved of some stations, in some order. -/
def Env.Grown (env : Env History) (old : History) (stations : List Station) (h : History) : Prop :=
  ∃ news, h.records = old.records ++ news ∧
    (news.map Measurement.unnamed).Perm (env.savings old stations)

namespace Env.Grown

variable {ss ss' : List Station}

/-- Before any station is done the history has not grown. -/
theorem nil : env.Grown old [] old := ⟨[], (List.append_nil _).symm, .refl _⟩

/-- It does not matter in which order the stations have been worked on. -/
theorem perm (grown : env.Grown old ss h) (same : ss.Perm ss') : env.Grown old ss' h := by
  obtain ⟨news, growth, saved⟩ := grown
  exact ⟨news, growth, saved.trans (savings_perm same)⟩

/-- Another station brings what its verdict saves. -/
theorem saveAll (grown : env.Grown old ss h) (s : Station) :
    env.Grown old (ss ++ [s]) (h.saveAll (env.verdict s old .freshness).2).2 := by
  obtain ⟨news, growth, saved⟩ := grown
  refine ⟨news ++ (h.saveAll (env.verdict s old .freshness).2).1, ?_, ?_⟩
  -- The records are those of before, what had been added, and what this station adds.
  · rw [History.records_saveAll, growth, List.append_assoc]
  · rw [List.map_append, History.map_unnamed_saveAll, map_unnamed_verdict, Env.savings,
      List.flatMap_append, List.flatMap_singleton]
    exact saved.append_right _

/-- Of other stations nothing has been saved. -/
private theorem recordsOf_eq (grown : env.Grown old ss h) {id : Int}
    (other : id ∉ ss.map Station.id) :
    h.recordsOf id = old.recordsOf id := by
  obtain ⟨news, growth, saved⟩ := grown
  refine History.recordsOf_of_others growth fun m hm same => ?_
  -- A new measurement is that of one of the stations, up to its identifier.
  have mem : m.unnamed ∈ env.savings old ss := saved.subset (List.mem_map_of_mem hm)
  obtain ⟨s, hs, number⟩ := stationId_of_mem_savings mem
  rw [Measurement.unnamed_stationId, same] at number
  exact other (number ▸ List.mem_map_of_mem hs)

/-- The verdict on another station can still be told from the history as it is now. -/
private theorem verdict_eq (grown : env.Grown old ss h) {s : Station}
    (other : s.id ∉ ss.map Station.id) (p : Phase) : env.verdict s h p = env.verdict s old p :=
  -- The verdict reads only the station's own records, which are the old ones.
  verdict_congr (.refl env s) (grown.recordsOf_eq other) p

/-- The measurements of a station that has been worked on are those that there would be if it had
been worked on alone. -/
private theorem recordsOf_perm (grown : env.Grown old ss h) (distinct : (ss.map Station.id).Nodup)
    {s : Station} (hs : s ∈ ss) :
    ((h.recordsOf s.id).map Measurement.unnamed).Perm
      (((old.saveAll (env.verdict s old .freshness).2).2.recordsOf s.id).map
        Measurement.unnamed) := by
  obtain ⟨news, growth, saved⟩ := grown
  have alone := History.records_saveAll old (env.verdict s old .freshness).2
  -- Both sides become the old records of the station and what its verdict saves.
  rw [History.map_unnamed_recordsOf growth, History.map_unnamed_recordsOf alone,
    History.map_unnamed_saveAll, map_unnamed_verdict, filter_verdict, ← savings_of_mem distinct hs]
  exact .append_left _ (saved.filter _)

/-- Histories that have grown by the same savings are alike. -/
theorem alike {g : History} (grown : env.Grown old ss g) (grown' : env.Grown old ss' h)
    (same : (env.savings old ss).Perm (env.savings old ss')) :
    History.Alike old.records g h := by
  obtain ⟨news, growth, saved⟩ := grown
  obtain ⟨news', growth', saved'⟩ := grown'
  exact ⟨old.records, news, news', .refl _, growth, growth', saved.trans (same.trans saved'.symm)⟩

/-- Stations of different numbers that are worked on one after the other come to what the verdicts
at the beginning say. -/
theorem runEach (memory : env.store = History.store) (grown : env.Grown old ss h)
    (distinct : ((ss ++ stations).map Station.id).Nodup) (report : Report) :
    (env.runEach report stations h).value.1 = (env.outcomes old stations).foldl .record report ∧
      env.Grown old (ss ++ stations) (env.runEach report stations h).value.2 := by
  -- On the stations still to come; those before `s` join the ones that are done.
  induction stations generalizing ss report h with
  | nil => exact ⟨rfl, by rwa [List.append_nil]⟩
  | cons s rest ih =>
    -- The verdict on `s` is still the one from the beginning, as its number has not come before.
    have other : s.id ∉ ss.map Station.id := by
      rw [List.map_append, List.map_cons, List.nodup_middle, List.nodup_cons, List.mem_append,
        not_or] at distinct
      exact distinct.1.1
    have regroup : ss ++ s :: rest = ss ++ [s] ++ rest := by
      rw [List.append_assoc, List.singleton_append]
    rw [regroup] at distinct ⊢
    rw [Env.value_runEach_cons, value_syncStation_eq_verdict memory, grown.verdict_eq other]
    exact ih (grown.saveAll s) distinct _

end Env.Grown

/-- So it is for a pass that works on its stations one after the other. -/
theorem value_runEach_eq (memory : env.store = History.store)
    (distinct : (stations.map Station.id).Nodup) (old : History) :
    (env.runEach .start stations old).value.1 = .ofOutcomes (env.outcomes old stations) ∧
      env.Grown old stations (env.runEach .start stations old).value.2 :=
  Env.Grown.nil.runEach memory distinct .start

/-! ## Any order of the steps -/

/-- What a pass has come to before it removes old measurements: a station under way is about to
carry out its verdict, one that is done has carried it out, and nothing else is saved. -/
structure Course.Follows (env : Env History) (old : History) (c : Course) (h : History) : Prop where
  running : ∀ e ∈ c.running, env.verdict e.1 old e.2 = env.verdict e.1 old .freshness
  outcomes : ∀ e ∈ c.finished ++ c.counted, e.2 = (env.verdict e.1 old .freshness).1
  grown : env.Grown old c.done h

/-- At the start no station is under way, and nothing has been saved. -/
private theorem Course.follows_start : Course.start.Follows env old old :=
  ⟨by simp [Course.start], by simp [Course.start], .nil⟩

/-- A station under way is none of those that are done. -/
private theorem not_done_of_running {c : Course} (distinct : (c.held.map Station.id).Nodup)
    {e : Station × Phase} (he : e ∈ c.running) : e.1.id ∉ c.done.map Station.id := by
  -- The stations held are waiting, under way or done, and those of two parts are different.
  rw [Course.held, List.map_append, List.map_append] at distinct
  have disjoint := List.disjoint_of_nodup_append distinct.of_append_right
  exact disjoint (List.mem_map_of_mem (List.mem_map_of_mem he))

/-- The stations that are done are of different numbers. -/
private theorem nodup_done {c : Course} (distinct : (c.held.map Station.id).Nodup) :
    (c.done.map Station.id).Nodup := by
  rw [Course.held, List.map_append, List.map_append] at distinct
  exact distinct.of_append_right.of_append_right

/-- A step of a pass that is not over after it carries out a verdict or none. -/
theorem Step.follows (memory : env.store = History.store) {x y : Course × History}
    (step : Step (· = env) plan x y) (distinct : (x.1.held.map Station.id).Nodup)
    (notEnded : ∀ result, y.1.duty ≠ .ended result) (follows : x.1.Follows env old x.2) :
    y.1.Follows env old y.2 := by
  obtain ⟨running, outcomes, grown⟩ := follows
  -- The step says what is moved; only `goOn` and `finish` look at the history.
  cases step with
  | ask _ _ _ => exact ⟨running, outcomes, grown⟩
  | askInVain _ _ _ => exact ⟨running, outcomes, grown⟩
  | takeUp _ _ =>
    refine ⟨fun e he => ?_, outcomes, grown⟩
    rcases List.mem_append.mp he with earlier | new
    · exact running e earlier
    -- A station that is taken up begins with the check of freshness.
    · rw [List.mem_singleton.mp new]
  | @goOn env c h _ before after s p next met split phase =>
    subst met
    have present : (s, p) ∈ c.running := split ▸ List.mem_append_right before List.mem_cons_self
    have others := (List.sublist_cons_self (s, p) after).append_left before
    -- The phase keeps the verdict on the history as it is now, and so the one from the beginning.
    obtain ⟨rfl, kept⟩ := verdict_of_next memory phase
    rw [grown.verdict_eq (not_done_of_running distinct present),
      grown.verdict_eq (not_done_of_running distinct present)] at kept
    refine ⟨fun e he => ?_, outcomes, grown⟩
    rcases List.mem_append.mp he with other | moved
    · exact running e (split ▸ others.subset other)
    · rw [List.mem_singleton.mp moved]
      exact kept.trans (running (s, p) present)
  | @finish env c h _ before after s p o met split phase =>
    subst met
    have present : (s, p) ∈ c.running := split ▸ List.mem_append_right before List.mem_cons_self
    have others := (List.sublist_cons_self (s, p) after).append_left before
    -- The phase saves what the verdict on the history as it is now says.
    obtain ⟨outcome, rfl⟩ := verdict_of_done memory phase
    have told : env.verdict s h p = env.verdict s old .freshness :=
      (grown.verdict_eq (not_done_of_running distinct present) p).trans (running (s, p) present)
    rw [told] at outcome ⊢
    have moved :
        (c.finished ++ [(s, o)] ++ c.counted).Perm (c.finished ++ c.counted ++ [(s, o)]) := by
      rw [List.append_assoc, List.append_assoc]
      exact .append_left _ List.perm_append_comm
    -- Those still under way are as before, and the new one has the outcome of its verdict.
    refine ⟨fun e he => running e (split ▸ others.subset he), fun e he => ?_, ?_⟩
    · rcases List.mem_append.mp (moved.subset he) with earlier | new
      · exact outcomes e earlier
      · rw [List.mem_singleton.mp new]
        exact outcome
    · -- The station that is done now brings what its verdict saves.
      have added : ((c.finished ++ [(s, o)] ++ c.counted).map Prod.fst).Perm (c.done ++ [s]) := by
        simpa [Course.done] using moved.map Prod.fst
      exact (grown.saveAll s).perm added.symm
  | @count c _ before after e _ split =>
    -- Counting moves a station from one part of those that are done to the other.
    have moved : (before ++ after ++ (c.counted ++ [e])).Perm (c.finished ++ c.counted) := by
      rw [split]
      simpa using perm_moved e before after c.counted []
    exact ⟨running, fun e' he => outcomes e' (moved.subset he),
      grown.perm (moved.map Prod.fst).symm⟩
  | join _ _ => exact ⟨running, outcomes, grown⟩
  | cleanUp _ _ _ => exact absurd rfl (notEnded _)

/-- A pass holds stations of different numbers, in any order of its steps. -/
private theorem Run.nodup_held (answer : env.provider.stations.run.value = .ok stations)
    (distinct : (stations.map Station.id).Nodup) {y : Course × History}
    (run : Run (· = env) plan (.start, old) y) : (y.1.held.map Station.id).Nodup := by
  have held := Run.held_known (fun _ met => met ▸ answer) run Course.accounted_start (.refl _)
  refine ((held.map Station.id).nodup_iff).mpr ?_
  unfold Course.known
  split
  · exact List.nodup_nil
  · exact distinct

/-- A pass that is not over has carried out verdicts and nothing else, in any order of its steps. -/
theorem Run.follows (memory : env.store = History.store)
    (answer : env.provider.stations.run.value = .ok stations)
    (distinct : (stations.map Station.id).Nodup) {y : Course × History}
    (run : Run (· = env) plan (.start, old) y) (notEnded : ∀ result, y.1.duty ≠ .ended result) :
    y.1.Follows env old y.2 := by
  -- On the steps of the run, each of which starts from a pass that is not over.
  induction run with
  | refl => exact Course.follows_start
  | tail before step ih =>
    have accounted := Run.accounted before Course.accounted_start
    exact step.follows memory (Run.nodup_held answer distinct before) notEnded
      (ih (step.not_ended accounted))

/-! ## The end of a pass -/

/-- The removal answers the same for histories that are alike, and leaves them alike. -/
private theorem cleanUp_alike (memory : env.store = History.store) (plan : Plan)
    {records : List Measurement} {g h : History} (alike : History.Alike records g h) :
    ((cleanUp env plan).runOn g).value.1 = ((cleanUp env plan).runOn h).value.1 ∧
      History.Alike records ((cleanUp env plan).runOn g).value.2
        ((cleanUp env plan).runOn h).value.2 := by
  rw [value_cleanUp, value_cleanUp, memory]
  -- Both sides compute the same threshold, or fail to.
  cases env.clock.shift? (-plan.retention) with
  | none => exact ⟨rfl, alike⟩
  | some threshold =>
    simp only [History.value_deleteOlder]
    rcases alike.deleteOlder? threshold with ⟨g', h', left, right, alike'⟩ | ⟨left, right⟩
    · rw [left, right]
      exact ⟨rfl, alike'⟩
    · rw [left, right]
      exact ⟨rfl, alike⟩

/-- A pass that has counted all of its stations reports what the verdicts say. -/
private theorem Course.Follows.report_eq {c : Course} (follows : c.Follows env old h)
    (noneFinished : c.finished = []) (all : c.done.Perm stations) :
    c.report = .ofOutcomes (env.outcomes old stations) := by
  -- The counted outcomes are those of the verdicts, station by station.
  have told : c.counted.map Prod.snd = env.outcomes old c.done := by
    rw [Env.outcomes, Course.done, noneFinished, List.nil_append, List.map_map]
    refine List.map_congr_left fun e he => ?_
    exact follows.outcomes e (List.mem_append_right _ he)
  rw [Course.report, told]
  exact Report.ofOutcomes_perm (all.map _)

/-- A pass that is over has followed the verdicts up to the removal of old measurements. -/
private theorem Run.follows_of_ended (memory : env.store = History.store)
    (answer : env.provider.stations.run.value = .ok stations)
    (distinct : (stations.map Station.id).Nodup) {c : Course} {h' : History}
    {result : Except Fault Report} (run : Run (· = env) plan (.start, old) (c, h'))
    (ended : c.duty = .ended result) :
    ∃ (worked : Course) (g : History) (removal : Except Fault Bool),
      worked.Follows env old g ∧ worked.finished = [] ∧ worked.done.Perm stations ∧
      ((cleanUp env plan).runOn g).value = (removal, h') ∧
      c = { worked with duty := .ended (worked.report.withRemoval removal) } := by
  obtain ⟨_, worked, g, removal, rfl, before, cleaning, removed, same⟩ :=
    -- The last step is the removal, so that everything before it follows the verdicts.
    run.removal_of_ended Course.accounted_start (by simp [Course.start]) ended
  have follows := before.follows memory answer distinct (by simp [cleaning])
  have held := before.held_known (fun _ met => met ▸ answer) Course.accounted_start (.refl _)
  -- All tasks are counted when the removal begins, so that the stations done are all of them.
  obtain ⟨noneWaiting, noneRunning, noneFinished⟩ :=
    (before.accounted Course.accounted_start).nothing_left (by simp [cleaning])
  dsimp only at noneWaiting noneRunning noneFinished
  have all : worked.done.Perm stations := by
    simpa [Course.held, Course.known, noneWaiting, noneRunning, cleaning] using held
  exact ⟨worked, g, removal, follows, noneFinished, all, removed, same⟩

/-- A station that is done has the outcome that its verdict says, also when the pass is over. -/
private theorem Run.outcome_eq (memory : env.store = History.store)
    (answer : env.provider.stations.run.value = .ok stations)
    (distinct : (stations.map Station.id).Nodup) {c : Course} {h' : History}
    (run : Run (· = env) plan (.start, old) (c, h')) {e : Station × Outcome}
    (he : e ∈ c.finished ++ c.counted) : e.2 = (env.verdict e.1 old .freshness).1 := by
  by_cases ended : ∃ result, c.duty = .ended result
  · -- The removal has changed nothing but the duty.
    obtain ⟨result, ended⟩ := ended
    obtain ⟨worked, g, removal, follows, _, _, _, rfl⟩ :=
      run.follows_of_ended memory answer distinct ended
    exact follows.outcomes e he
  · have notEnded : ∀ result, c.duty ≠ .ended result := fun result duty => ended ⟨result, duty⟩
    exact (run.follows memory answer distinct notEnded).outcomes e he

/-- A pass that is over has the result of working on the stations one after the other. -/
private theorem Run.result_of_ended (memory : env.store = History.store)
    (answer : env.provider.stations.run.value = .ok stations)
    (distinct : (stations.map Station.id).Nodup) {c : Course} {h' : History}
    {result : Except Fault Report} (run : Run (· = env) plan (.start, old) (c, h'))
    (ended : c.duty = .ended result) : result = (env.passInOrder plan stations old).1 := by
  obtain ⟨worked, g, removal, follows, noneFinished, all, removed, rfl⟩ :=
    run.follows_of_ended memory answer distinct ended
  obtain rfl := Duty.ended.inj ended
  obtain ⟨counted, grown⟩ := value_runEach_eq memory distinct old
  -- Both histories have grown by the same savings, so that the removal answers the same.
  have answers := (cleanUp_alike memory plan (follows.grown.alike grown (savings_perm all))).1
  rw [removed] at answers
  rw [Env.passInOrder, counted, ← answers, follows.report_eq noneFinished all]

/-- A pass that is over has come to a history like that of working on some stations one after the
other, if the verdicts on these save the same. -/
private theorem Run.alike_of_ended (memory : env.store = History.store)
    (answer : env.provider.stations.run.value = .ok stations)
    (distinct : (stations.map Station.id).Nodup) {c : Course} {h' : History}
    {result : Except Fault Report} (run : Run (· = env) plan (.start, old) (c, h'))
    (ended : c.duty = .ended result) {inOrder : List Station}
    (distinct' : (inOrder.map Station.id).Nodup)
    (same : env.savings old inOrder = env.savings old stations) :
    History.Alike old.records h' (env.passInOrder plan inOrder old).2 := by
  obtain ⟨worked, g, removal, follows, _, all, removed, rfl⟩ :=
    run.follows_of_ended memory answer distinct ended
  have grown := (value_runEach_eq memory distinct' old).2
  have saved : (env.savings old worked.done).Perm (env.savings old inOrder) := by
    rw [same]
    exact savings_perm all
  have alike := (cleanUp_alike memory plan (follows.grown.alike grown saved)).2
  rwa [removed] at alike

/-- A pass over stations of different numbers, with a history as the store, comes to the same end in
any order of its steps. It does come to its end. Then its report is the one of working on the
stations one after the other, and so are the measurements, up to the order and the identifiers of
those that were saved; stations that fail could as well not have been there. Already before that,
what becomes of a station and what is kept of it is what would become of it alone, whatever the
provider answers for the others. -/
theorem pass_confluent (memory : env.store = History.store)
    (answer : env.provider.stations.run.value = .ok stations)
    (distinct : (stations.map Station.id).Nodup) {c : Course} {h' : History}
    (run : Run (· = env) plan (.start, h) (c, h')) :
    ((∀ result, c.duty ≠ .ended result) → ∃ y, Step (· = env) plan (c, h') y) ∧
    Acc (fun y x : Course × History => Step (· = env) plan x y) (c, h') ∧
    (∀ result, c.duty = .ended result →
      result = (env.passInOrder plan stations h).1 ∧
      History.Alike h.records h' (env.passInOrder plan stations h).2 ∧
      History.Alike h.records h' (env.passInOrder plan
        (stations.filter fun s => (env.syncStation s h).value.1 ≠ .failed) h).2) ∧
    ∀ s o, (s, o) ∈ c.finished ++ c.counted → ∀ env', env.AgreesAt env' s →
      o = (env'.syncStation s h).value.1 ∧
      ((∀ result, c.duty ≠ .ended result) →
        ((h'.recordsOf s.id).map Measurement.unnamed).Perm
          (((env'.syncStation s h).value.2.recordsOf s.id).map Measurement.unnamed)) := by
  have accounted := run.accounted Course.accounted_start
  refine ⟨fun notEnded => ?_, wellFounded_step.apply _, fun result ended => ⟨?_, ?_, ?_⟩,
    fun s o done env' agree => ?_⟩
  -- A pass that is not over can go on, in the one environment that there is.
  · have met : (· = env) env := rfl
    exact @Course.Accounted.exists_step _ (· = env) _ _ accounted _ met notEnded h'
  · exact run.result_of_ended memory answer distinct ended
  · exact run.alike_of_ended memory answer distinct ended distinct rfl
  · -- Leaving out the stations that fail leaves out nothing that is saved.
    have failed : (fun s => decide ((env.syncStation s h).value.1 ≠ .failed)) =
        fun s => decide ((env.verdict s h .freshness).1 ≠ .failed) := by
      funext s
      rw [value_syncStation_eq_verdict memory]
    rw [failed]
    exact run.alike_of_ended memory answer distinct ended
      (distinct.sublist (List.filter_sublist.map _)) (savings_without_failed stations)
  -- Of the station the other environment tells the same verdict.
  · have told : env'.verdict s h .freshness = env.verdict s h .freshness :=
      verdict_congr agree rfl .freshness
    rw [value_syncStation_eq_verdict (agree.store.trans memory), told]
    refine ⟨run.outcome_eq memory answer distinct done, fun notEnded => ?_⟩
    have follows := run.follows memory answer distinct notEnded
    exact follows.grown.recordsOf_perm (nodup_done (run.nodup_held answer distinct))
      (List.mem_map_of_mem done)

/-- The pass over two stations that are worked on at the same time ends as the pass that works on
them one after the other. -/
theorem pass_confluent_twoStations :
    (twoStations History.store).store = History.store ∧
    (twoStations History.store).provider.stations.run.value = .ok [numbered 1, numbered 2] ∧
    ([numbered 1, numbered 2].map Station.id).Nodup ∧
    ∃ c h', Run (· = twoStations History.store) usualPlan (.start, yearOldHistory) (c, h') ∧
      c.duty = .ended ((twoStations History.store).passInOrder usualPlan [numbered 1, numbered 2]
        yearOldHistory).1 ∧
      History.Alike yearOldHistory.records h' ((twoStations History.store).passInOrder usualPlan
        [numbered 1, numbered 2] yearOldHistory).2 := by
  have distinct : ([numbered 1, numbered 2].map Station.id).Nodup := by decide
  -- The computed pass is a run, so that the general statement is about its end.
  obtain ⟨c, run, ended⟩ := runPass_isRun (twoStations History.store) usualPlan yearOldHistory
  obtain ⟨_, _, atEnd, _⟩ := pass_confluent rfl rfl distinct run
  obtain ⟨same, alike, _⟩ := atEnd _ ended
  exact ⟨rfl, rfl, distinct, c, _, run, same ▸ ended, alike⟩

end AirQuality.Sync
