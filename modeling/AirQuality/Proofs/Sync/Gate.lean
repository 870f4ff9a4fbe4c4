import AirQuality.Proofs.Store.History
import AirQuality.Proofs.Sync.Course
import AirQuality.Store.Watched

/-!
# The freshness check as a gate

A measurement that is recent enough keeps the gate of its station closed: the check either finds it,
or it fails, or its threshold is outside of the calendar. The tasks that are past the gate carry
what they are about to save. The history notes its calls, so that it can be told what was saved.

## Key results

- `phase_cases`, `Step.saves`: what a phase saves, and what a step saves
- `Run.carries`: what the tasks under way carry
- `gate_closed`: a station with a recent measurement does not pass the gate
- `mem_of_cleanUp`: a measurement from the retention period stays
-/

namespace AirQuality

open Time (Moment)

/-- The measurement that a call has saved. -/
def NotedCall.saved? : NotedCall → Option Measurement
  | ⟨.save m, true⟩ => some m
  | _ => none

/-- The measurements that some calls have saved, in order. -/
def savedIn (calls : List NotedCall) : List Measurement := calls.filterMap NotedCall.saved?

/-- What is saved in calls that follow each other adds up. -/
@[simp] theorem savedIn_append (calls more : List NotedCall) :
    savedIn (calls ++ more) = savedIn calls ++ savedIn more := List.filterMap_append

/-- A call that is noted and saves nothing makes no difference. -/
private theorem savedIn_of_quiet {call : StoreCall}
    (quiet : ∀ answered, NotedCall.saved? ⟨call, answered⟩ = none) (calls : List NotedCall)
    (answered : Bool) : savedIn (calls ++ [⟨call, answered⟩]) = savedIn calls := by
  have none : savedIn [⟨call, answered⟩] = [] := by simp [savedIn, quiet]
  rw [savedIn_append, none, List.append_nil]

namespace Sync

/-- Work at a time and by a plan, on a history that notes its calls. The provider may be any. -/
structure Env.WorksAt (env : Env (History × List NotedCall)) (t : Moment) (plan : Plan) : Prop where
  clock : env.clock = t
  freshness : env.freshness = plan.freshness
  store : env.store = History.store.watched

/-- A date is not older than a period at a time. This says nothing of a date that cannot be compared
with the time. -/
def IsWithin (period : Int) (t date : Moment) : Prop :=
  t.comparable date = true → t.key ≤ date.key + period

/-- What is within a period is within a longer one. -/
theorem IsWithin.mono {period longer : Int} {t date : Moment} (within : IsWithin period t date)
    (le : period ≤ longer) : IsWithin longer t date := by
  intro comparable
  have := within comparable
  omega

/-- What is within a period at a time is within it at an earlier time. -/
theorem IsWithin.earlier {period : Int} {t t' date : Moment} (within : IsWithin period t date)
    (earlier : t'.le? t = some true) : IsWithin period t' date := by
  intro comparable
  -- The earlier time can be compared with the date, as the later one can.
  unfold Moment.le? at earlier
  split at earlier
  · rename_i both
    have key : t'.key ≤ t.key := by simpa using earlier
    have inPeriod := within (by simp_all [Moment.comparable])
    omega
  · cases earlier

variable {plan : Plan} {t : Moment} {env : Env (History × List NotedCall)}

/-! ## What a phase saves -/

/-- A phase saves the measurement that it carries, or it leaves the history as it is. -/
theorem phase_cases (memory : env.store = History.store.watched) {s : Station} {p : Phase}
    {progress : Progress} {h h' : History} {calls calls' : List NotedCall}
    (phase : (env.step s p (h, calls)).value = (progress, (h', calls'))) :
    (∃ m, p = .saving m ∧ progress = .done .saved ∧ h' = (h.saveAll [m]).2 ∧
      savedIn calls' = savedIn calls ++ [m]) ∨
    (h' = h ∧ savedIn calls' = savedIn calls) := by
  -- Only saving puts a measurement behind those of the history.
  cases p with
  | freshness =>
    right
    rw [Env.value_step_freshness, memory] at phase
    split at phase
    · cases phase
      exact ⟨rfl, rfl⟩
    · rename_i threshold _
      -- The check is noted with its answer, and so it saves nothing.
      simp only [Store.watched, Store.value_runOn_noting, History.value_hasRecent] at phase
      generalize h.hasRecent? s.id threshold = answer at phase
      rcases answer with _ | _ | _ <;> cases phase <;>
        exact ⟨rfl, savedIn_of_quiet (fun _ => rfl) calls _⟩
  | index =>
    right
    rw [Env.value_step_index] at phase
    split at phase <;> cases phase <;> exact ⟨rfl, rfl⟩
  | sensors i =>
    right
    rw [Env.value_step_sensors] at phase
    split at phase <;> cases phase <;> exact ⟨rfl, rfl⟩
  | saving m =>
    left
    obtain ⟨saved, answer⟩ := History.value_save m h
    rw [Env.value_step_saving, memory] at phase
    simp only [Store.watched, Store.value_runOn_noting, answer] at phase
    cases phase
    exact ⟨m, rfl, rfl, rfl, savedIn_append _ _⟩

/-- The removal of old measurements saves nothing. -/
theorem savedIn_of_cleanUp (memory : env.store = History.store.watched)
    {x x' : History × List NotedCall} {removal : Except Fault Bool}
    (removed : ((cleanUp env plan).runOn x).value = (removal, x')) : savedIn x'.2 = savedIn x.2 := by
  obtain ⟨h, calls⟩ := x
  rw [value_cleanUp, memory] at removed
  cases shifted : env.clock.shift? (-plan.retention) with
  | none =>
    rw [shifted] at removed
    cases removed
    rfl
  | some threshold =>
    simp only [shifted, Store.watched, Store.value_runOn_noting, History.value_deleteOlder]
      at removed
    generalize h.deleteOlder? threshold = answer at removed
    -- The removal is one more call, whether it is answered or not.
    rcases answer with _ | _ <;> cases removed <;>
      exact savedIn_of_quiet (fun _ => rfl) calls _

/-- A step saves the measurement of a task under way, or it saves nothing. -/
theorem Step.saves {envs : Env (History × List NotedCall) → Prop}
    (memory : ∀ env, envs env → env.store = History.store.watched)
    {x y : Course × (History × List NotedCall)} (step : Step envs plan x y) :
    savedIn y.2.2 = savedIn x.2.2 ∨
      ∃ s m, (s, .saving m) ∈ x.1.running ∧ savedIn y.2.2 = savedIn x.2.2 ++ [m] := by
  -- A task that goes on is not saved yet; one that is done may be.
  cases step with
  | goOn met running phase =>
    rcases phase_cases (memory _ met) phase with ⟨_, _, last, _⟩ | ⟨_, same⟩
    · cases last
    · exact .inl same
  | @finish _ _ _ _ _ _ s _ _ met running phase =>
    rcases phase_cases (memory _ met) phase with ⟨m, rfl, _, _, appended⟩ | ⟨_, same⟩
    · exact .inr ⟨s, m, by simp [running], appended⟩
    · exact .inl same
  | cleanUp met _ answer => exact .inl (savedIn_of_cleanUp (memory _ met) answer)
  | _ => exact .inl rfl

/-! ## What a task carries -/

/-- What a station past the gate carries has the number of the station, and a date of some kind. -/
def Phase.Carries (dated : Moment → Prop) (s : Station) : Phase → Prop
  | .sensors i => dated i.calculationDate
  | .saving m => m.stationId = s.id ∧ dated m.date
  | _ => True

section Carries

variable {σ : Type} {envs : Env σ → Prop} {dated : Moment → Prop}

/-- A phase hands on what it carries; the date is that of the live index. -/
private theorem carries_of_step {env : Env σ} {s : Station} {p q : Phase} {st st' : σ}
    (dates : ∀ i, (env.provider.index s.id).run.value = .ok (some i) → dated i.calculationDate)
    (h : p.Carries dated s) (phase : (env.step s p st).value = (.next q, st')) :
    q.Carries dated s := by
  -- A case per phase: what it carries comes from the answer that it has just had.
  cases p with
  | freshness =>
    have left := left_of_step phase
    cases q <;> simp [Phase.left] at left
    trivial
  | index =>
    rw [Env.value_step_index] at phase
    split at phase <;> cases phase
    -- The index that goes on to the sensors is the one that was answered.
    exact dates _ ‹_›
  | sensors i =>
    rw [Env.value_step_sensors] at phase
    split at phase <;> cases phase
    -- The measurement takes its number from the station and its date from the index.
    exact ⟨rfl, h⟩
  | saving m =>
    rw [Env.value_step_saving] at phase
    split at phase <;> cases phase

/-- What the tasks carry is handed on by every step. -/
theorem Step.carries (dates : ∀ env, envs env → ∀ id i,
      (env.provider.index id).run.value = .ok (some i) → dated i.calculationDate)
    {x y : Course × σ} (step : Step envs plan x y)
    (h : ∀ e ∈ x.1.running, e.2.Carries dated e.1) :
    ∀ e ∈ y.1.running, e.2.Carries dated e.1 :=
  step.forall_running h (fun _ => trivial) fun _ met _ _ _ _ carries phase =>
    carries_of_step (dates _ met _) carries phase

/-- The tasks under way carry dates of live indexes, in any order of the steps. -/
theorem Run.carries (dates : ∀ env, envs env → ∀ id i,
      (env.provider.index id).run.value = .ok (some i) → dated i.calculationDate)
    {st : σ} {y : Course × σ} (run : Run envs plan (.start, st) y) :
    ∀ e ∈ y.1.running, e.2.Carries dated e.1 := by
  -- On the steps of the run.
  induction run with
  | refl => simp [Course.start]
  | tail _ step ih => exact step.carries dates ih

end Carries

/-! ## The gate -/

/-- A history has a measurement of a station that is dated within a period at a time. -/
def Barred (period : Int) (t : Moment) (id : Int) (h : History) : Prop :=
  ∃ m ∈ h.records, m.stationId = id ∧ IsWithin period t m.date

/-- A station of which the history has a recent measurement does not pass the gate. -/
theorem gate_closed (at_t : env.WorksAt t plan) {s : Station} {h : History}
    (barred : Barred plan.freshness t s.id h) {q : Phase} {calls : List NotedCall}
    {st' : History × List NotedCall} :
    (env.step s .freshness (h, calls)).value ≠ (.next q, st') := by
  intro phase
  obtain ⟨m, mem, own, recent⟩ := barred
  -- The check is the one with the window less than the clock.
  rw [Env.value_step_freshness, at_t.store, at_t.clock, at_t.freshness] at phase
  cases shifted : t.shift? (-plan.freshness) with
  | none => simp [shifted] at phase
  | some threshold =>
    simp only [shifted, Store.watched, Store.value_runOn_noting, History.value_hasRecent] at phase
    -- Only a check that has found nothing leads on.
    have gate : h.hasRecent? s.id threshold = .ok false := by
      rcases answer : h.hasRecent? s.id threshold with _ | _ | _ <;> simp [answer] at phase ⊢
    -- The measurement is one of the station, so that the check has looked at it.
    have among : m ∈ h.recordsOf s.id := List.mem_filter.mpr ⟨mem, by simp [own]⟩
    obtain ⟨comparable, notSince⟩ := History.forall_of_anyNotBefore gate m among
    have key := Moment.key_of_shift? shifted
    have inWindow := recent (by rw [← comparable, Moment.comparable_of_shift? shifted])
    simp [Measurement.isSince, Moment.le?, comparable] at notSince
    omega

/-- A measurement that was just saved keeps the gate of its station closed. -/
theorem barred_saveAll {period : Int} {m : Measurement} (recent : IsWithin period t m.date)
    (h : History) : Barred period t m.stationId (h.saveAll [m]).2 := by
  obtain ⟨saved, grown, station, date⟩ := h.exists_saved m
  refine ⟨saved, ?_, station, ?_⟩
  · rw [grown]
    exact List.mem_append_right _ List.mem_cons_self
  · rw [date]
    exact recent

/-! ## What stays in the history -/

/-- A measurement from the retention period stays when old measurements are removed. -/
theorem mem_of_cleanUp (at_t : env.WorksAt t plan) {x x' : History × List NotedCall}
    {removal : Except Fault Bool} (removed : ((cleanUp env plan).runOn x).value = (removal, x'))
    {m : Measurement} (mem : m ∈ x.1.records) (kept : IsWithin plan.retention t m.date) :
    m ∈ x'.1.records := by
  obtain ⟨h, calls⟩ := x
  rw [value_cleanUp, at_t.store, at_t.clock] at removed
  cases shifted : t.shift? (-plan.retention) with
  | none =>
    rw [shifted] at removed
    cases removed
    exact mem
  | some threshold =>
    simp only [shifted, Store.watched, Store.value_runOn_noting, History.value_deleteOlder,
      History.deleteOlder?_eq] at removed
    by_cases all : h.allComparable threshold = true
    · -- The measurement can be compared with the threshold, as all of them can.
      have comparable : threshold.comparable m.date = true := List.all_eq_true.mp all m mem
      have key := Moment.key_of_shift? shifted
      have inPeriod := kept (by rw [← comparable, Moment.comparable_of_shift? shifted])
      simp only [all, if_true] at removed
      cases removed
      refine List.mem_filter.mpr ⟨mem, ?_⟩
      simp [Measurement.isSince, Moment.le?, comparable]
      omega
    · -- A removal that fails keeps everything.
      simp only [all] at removed
      cases removed
      exact mem

/-- A phase of a station takes no measurement away. -/
theorem mem_of_phase (memory : env.store = History.store.watched) {s : Station} {p : Phase}
    {progress : Progress} {h h' : History} {calls calls' : List NotedCall}
    (phase : (env.step s p (h, calls)).value = (progress, (h', calls'))) {m : Measurement}
    (mem : m ∈ h.records) : m ∈ h'.records := by
  rcases phase_cases memory phase with ⟨_, _, _, rfl, _⟩ | ⟨rfl, _⟩
  · rw [History.records_saveAll]
    exact List.mem_append_left _ mem
  · exact mem

variable {envs : Env (History × List NotedCall) → Prop}

/-- No step takes a measurement from the retention period away. -/
theorem Step.mem_records (at_t : ∀ env, envs env → env.WorksAt t plan)
    {x y : Course × (History × List NotedCall)} (step : Step envs plan x y) {m : Measurement}
    (mem : m ∈ x.2.1.records) (kept : IsWithin plan.retention t m.date) : m ∈ y.2.1.records := by
  -- Only the removal takes measurements away, and not those from the retention period.
  cases step with
  | goOn met _ phase => exact mem_of_phase (at_t _ met).store phase mem
  | finish met _ phase => exact mem_of_phase (at_t _ met).store phase mem
  | cleanUp met _ answer => exact mem_of_cleanUp (at_t _ met) answer mem kept
  | _ => exact mem

/-- No run takes a measurement from the retention period away. -/
theorem Run.mem_records (at_t : ∀ env, envs env → env.WorksAt t plan)
    {x y : Course × (History × List NotedCall)} (run : Run envs plan x y) {m : Measurement}
    (mem : m ∈ x.2.1.records) (kept : IsWithin plan.retention t m.date) : m ∈ y.2.1.records := by
  induction run with
  | refl => exact mem
  | tail _ step ih => exact step.mem_records at_t ih kept

end Sync

end AirQuality
