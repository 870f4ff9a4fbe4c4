import AirQuality.Proofs.Sync.Gate
import AirQuality.Proofs.Sync.Order

/-!
# Stations that are named more than once

Tasks of one station may pass the gate together, before one of them has saved its measurement; then
each of them saves one. There are no more of these tasks than the station is named, and no more than
may be worked on at a time: once a measurement is saved, the gate is closed for the others.

## Key results

- `Run.countOf_le_done`: each measurement of a station is that of a task that is done
- `Step.bounded`: what is saved and what is past the gate together find room at one time
- `saved_at_most`: how many measurements of a station a pass saves
- `saved_twice_together`: two tasks of one station that pass the gate together
-/

namespace AirQuality.Sync

open Time (Moment)

variable {plan : Plan} {t : Moment} {envs : Env (History × List NotedCall) → Prop} {id : Int}

/-- How many of some measurements are of a station. -/
def countOf (id : Int) (ms : List Measurement) : Nat := ms.countP fun m => m.stationId == id

/-! ## Tasks that are done -/

/-- How many of the tasks that are done are of a station. -/
def Course.doneOf (c : Course) (id : Int) : Nat := c.done.countP fun s => s.id == id

/-- A step that saves a measurement of a station brings a task of it to its end. -/
theorem Step.countOf_le_done (at_t : ∀ env, envs env → env.WorksAt t plan)
    {x y : Course × (History × List NotedCall)} (step : Step envs plan x y)
    (carries : ∀ e ∈ x.1.running, e.2.Carries (fun _ => True) e.1)
    (h : countOf id (savedIn x.2.2) ≤ x.1.doneOf id) :
    countOf id (savedIn y.2.2) ≤ y.1.doneOf id := by
  cases step with
  | goOn met _ phase =>
    -- A phase that leads to another one saves nothing.
    rcases phase_cases (at_t _ met).store phase with ⟨_, _, last, _⟩ | ⟨_, same⟩
    · cases last
    · rw [same]
      exact h
  | @finish env c st st' before after s p o met running phase =>
    simp only [Course.doneOf, Course.done, List.map_append, List.countP_append, List.map_cons,
      List.map_nil, List.countP_singleton] at h ⊢
    rcases phase_cases (at_t _ met).store phase with ⟨m, rfl, _, _, appended⟩ | ⟨_, same⟩
    · -- The measurement is of the station of the task that has come to its end.
      have station : m.stationId = s.id := (carries (s, .saving m) (by simp [running])).1
      rw [appended, countOf, List.countP_append, List.countP_singleton, station]
      unfold countOf at h
      omega
    · rw [same]
      omega
  | count _ finished =>
    simp only [Course.doneOf, Course.done, finished, List.map_append, List.countP_append,
      List.map_cons, List.countP_cons, List.map_nil, List.countP_nil] at h ⊢
    omega
  | cleanUp met _ answer =>
    rw [savedIn_of_cleanUp (at_t _ met).store answer]
    exact h
  | _ => exact h

/-- Each measurement that a pass has saved of a station is that of a task that is done. -/
theorem Run.countOf_le_done (at_t : ∀ env, envs env → env.WorksAt t plan) {h : History}
    {y : Course × (History × List NotedCall)} (run : Run envs plan (.start, (h, [])) y) :
    countOf id (savedIn y.2.2) ≤ y.1.doneOf id := by
  induction run with
  | refl => simp [countOf, savedIn]
  | tail before step ih =>
    exact step.countOf_le_done at_t (Run.carries (fun _ _ _ _ _ => trivial) before) ih

/-- No more tasks of a station are done than the station is named. -/
private theorem Run.doneOf_le {stations : List Station}
    (answer : ∀ env, envs env → env.provider.stations.run.value = .ok stations)
    {st : History × List NotedCall} {y : Course × (History × List NotedCall)}
    (run : Run envs plan (.start, st) y) :
    y.1.doneOf id ≤ stations.countP fun s => s.id == id := by
  have held := (run.held_known answer Course.accounted_start (.refl _)).countP_eq fun s => s.id == id
  have known : (y.1.known stations).countP (fun s => s.id == id) ≤
      stations.countP fun s => s.id == id := by
    unfold Course.known
    split <;> simp
  -- The tasks that are done are among those that the pass holds.
  simp only [Course.held, List.countP_append] at held
  unfold Course.doneOf
  omega

/-! ## Tasks that are past the gate -/

/-- Whether a task at a phase is past the gate. -/
def Phase.isPastGate : Phase → Bool
  | .freshness => false
  | _ => true

/-- A task that goes on is past the gate, since only the check is in front of it. -/
private theorem isPastGate_of_step {σ : Type} {env : Env σ} {s : Station} {p q : Phase} {st st' : σ}
    (phase : (env.step s p st).value = (.next q, st')) : q.isPastGate = true := by
  have left := left_of_step phase
  cases q with
  | freshness => cases p <;> simp [Phase.left] at left
  | _ => rfl

/-- How many of the tasks under way are of a station and past the gate. -/
def pastGate (id : Int) : List (Station × Phase) → Nat
  | [] => 0
  | (s, p) :: rest => (if s.id = id ∧ p.isPastGate = true then 1 else 0) + pastGate id rest

/-- Tasks past the gate are counted in each part of the list. -/
@[simp] theorem pastGate_append (running more : List (Station × Phase)) :
    pastGate id (running ++ more) = pastGate id running + pastGate id more := by
  induction running with
  | nil => simp [pastGate]
  | cons e rest ih => simp [pastGate, ih, Nat.add_assoc]

/-- No more tasks are past the gate than are under way. -/
private theorem pastGate_le_length (running : List (Station × Phase)) :
    pastGate id running ≤ running.length := by
  induction running with
  | nil => simp [pastGate]
  | cons e rest ih =>
    simp only [pastGate, List.length_cons]
    split <;> omega

/-- What is saved of a station and its tasks past the gate are together no more than the stations
that may be worked on at a time, and once something is saved of it, its gate is closed. -/
structure Bounded (plan : Plan) (t : Moment) (id : Int)
    (x : Course × (History × List NotedCall)) : Prop where
  room : x.1.running.length ≤ width plan.concurrency
  few : countOf id (savedIn x.2.2) + pastGate id x.1.running ≤ width plan.concurrency
  closed : 0 < countOf id (savedIn x.2.2) → Barred plan.freshness t id x.2.1

/-- Whether a task goes on or comes to its end, a closed gate stays closed, and the gate of a
station that is saved gets closed. -/
private theorem closed_of_phase {env : Env (History × List NotedCall)}
    (memory : env.store = History.store.watched) {s : Station} {p : Phase} {progress : Progress}
    {x x' : History × List NotedCall} (phase : (env.step s p x).value = (progress, x'))
    (carries : p.Carries (IsWithin plan.freshness t) s)
    (closed : 0 < countOf id (savedIn x.2) → Barred plan.freshness t id x.1) :
    0 < countOf id (savedIn x'.2) → Barred plan.freshness t id x'.1 := by
  intro saved
  -- A measurement that kept the gate closed is still there.
  have stays (old : 0 < countOf id (savedIn x.2)) : Barred plan.freshness t id x'.1 := by
    obtain ⟨m, mem, own, recent⟩ := closed old
    exact ⟨m, mem_of_phase memory phase mem, own, recent⟩
  -- If the phase saves something, it may be of this station or of another one.
  rcases phase_cases memory phase with ⟨m, rfl, _, after, appended⟩ | ⟨_, same⟩
  · by_cases own : m.stationId = id
    · subst own
      rw [after]
      exact barred_saveAll carries.2 x.1
    · refine stays ?_
      simpa [appended, countOf, own] using saved
  · rw [same] at saved
    exact stays saved

/-- A step leaves the number of savings and of tasks past the gate within the width. -/
theorem Step.bounded (at_t : ∀ env, envs env → env.WorksAt t plan)
    {x y : Course × (History × List NotedCall)} (step : Step envs plan x y)
    (carries : ∀ e ∈ x.1.running, e.2.Carries (IsWithin plan.freshness t) e.1)
    (notEnded : ∀ result, y.1.duty ≠ .ended result) (h : Bounded plan t id x) :
    Bounded plan t id y := by
  obtain ⟨room, few, closed⟩ := h
  have memory (env : Env (History × List NotedCall)) (met : envs env) := (at_t env met).store
  -- Taking up needs room, going on may pass the gate, and finishing may save.
  cases step with
  | @takeUp c st before after s waiting free =>
    refine ⟨by simp; omega, ?_, closed⟩
    simpa [pastGate, Phase.isPastGate] using few
  | @goOn env c st st' before after s p next met running phase =>
    rcases phase_cases (memory _ met) phase with ⟨_, _, last, _⟩ | ⟨same, unsaved⟩
    · cases last
    have past := isPastGate_of_step phase
    have room' : (before ++ after ++ [(s, next)]).length ≤ width plan.concurrency := by
      simp only [running, List.length_append, List.length_cons, List.length_nil] at room ⊢
      omega
    refine ⟨room', ?_,
      closed_of_phase (memory _ met) phase (carries (s, p) (by simp [running])) closed⟩
    dsimp only at few closed ⊢
    -- Nothing is saved in this step, so that only the tasks past the gate are counted anew.
    rw [unsaved]
    by_cases through : p.isPastGate = false ∧ s.id = id
    · -- The task has just passed the gate, so that nothing has been saved of its station.
      obtain ⟨inFront, rfl⟩ := through
      obtain rfl : p = .freshness := by cases p <;> simp [Phase.isPastGate] at inFront ⊢
      have none : countOf s.id (savedIn st.2) = 0 := by
        by_contra some
        exact gate_closed (at_t _ met) (closed (Nat.pos_of_ne_zero some)) phase
      have le : pastGate s.id (before ++ after ++ [(s, next)]) ≤ _ := pastGate_le_length _
      omega
    · -- The task was past the gate before, or it is of another station.
      have same : (s.id = id ∧ next.isPastGate = true) ↔ (s.id = id ∧ p.isPastGate = true) := by
        cases behind : p.isPastGate <;> simp_all
      simp only [running, pastGate_append, pastGate, same] at few ⊢
      omega
  | @finish env c st st' before after s p o met running phase =>
    refine ⟨?_, ?_, closed_of_phase (memory _ met) phase (carries (s, p) (by simp [running])) closed⟩
    · simp only [running, List.length_append, List.length_cons] at room ⊢
      omega
    · simp only [running, pastGate_append, pastGate] at few ⊢
      rcases phase_cases (memory _ met) phase with ⟨m, rfl, _, _, appended⟩ | ⟨_, same⟩
      · -- The task is not past the gate any more, but its measurement is saved.
        have station : m.stationId = s.id := (carries (s, .saving m) (by simp [running])).1
        simp only [Phase.isPastGate, and_true] at few
        simp only [appended, countOf, List.countP_append, List.countP_singleton, station,
          beq_iff_eq] at few ⊢
        omega
      · rw [same]
        omega
  | cleanUp _ _ _ => exact absurd rfl (notEnded _)
  | _ => exact ⟨room, few, closed⟩

/-- In any order of the steps no more is saved of a station than finds room at one time. -/
theorem Run.bounded (at_t : ∀ env, envs env → env.WorksAt t plan)
    (dates : ∀ env, envs env → ∀ id i, (env.provider.index id).run.value = .ok (some i) →
      IsWithin plan.freshness t i.calculationDate)
    {h : History} {y : Course × (History × List NotedCall)}
    (run : Run envs plan (.start, (h, [])) y) (notEnded : ∀ result, y.1.duty ≠ .ended result) :
    Bounded plan t id y := by
  induction run with
  | refl => exact ⟨Nat.zero_le _, Nat.zero_le _, by simp [countOf, savedIn]⟩
  | tail before step ih =>
    -- A pass that is over takes no step, so that it was not over before this step either.
    have earlier := ih (step.not_ended (Run.accounted before Course.accounted_start))
    exact step.bounded at_t (Run.carries dates before) notEnded earlier

/-! ## How many measurements are saved -/

/-- The measurements that a pass saves of a station are no more than the stations of its number that
are named, and no more than the stations that may be worked on at a time, in any order of the steps.
So it is one at most if each station is named once, or if one station is worked on at a time. The
live indexes are to be dated within the freshness window. -/
theorem saved_at_most (at_t : ∀ env, envs env → env.WorksAt t plan)
    (dates : ∀ env, envs env → ∀ id i, (env.provider.index id).run.value = .ok (some i) →
      IsWithin plan.freshness t i.calculationDate)
    {stations : List Station}
    (answer : ∀ env, envs env → env.provider.stations.run.value = .ok stations)
    {h h' : History} {c : Course} {calls : List NotedCall}
    (run : Run envs plan (.start, (h, [])) (c, (h', calls))) (id : Int) :
    countOf id (savedIn calls) ≤ stations.countP (fun s => s.id == id) ∧
      countOf id (savedIn calls) ≤ width plan.concurrency := by
  -- The first bound counts tasks that are done, the second one is that of the width.
  refine ⟨(run.countOf_le_done at_t).trans (run.doneOf_le answer), ?_⟩
  by_cases ended : ∃ result, c.duty = .ended result
  · -- The removal comes last and saves nothing.
    obtain ⟨result, ended⟩ := ended
    obtain ⟨env, worked, st₀, removal, met, before, cleaning, removed, _⟩ :=
      run.removal_of_ended Course.accounted_start (by simp [Course.start]) ended
    have bounded : Bounded plan t id (worked, st₀) := before.bounded at_t dates (by simp [cleaning])
    rw [show savedIn calls = savedIn st₀.2 from savedIn_of_cleanUp (at_t env met).store removed]
    exact (Nat.le_add_right _ _).trans bounded.few
  · have bounded : Bounded plan t id (c, (h', calls)) :=
      run.bounded at_t dates fun result isOver => ended ⟨result, isOver⟩
    exact (Nat.le_add_right _ _).trans bounded.few

/-! ## A station that is named twice -/

/-- Work on a station that is named twice, with a live index of the time of the pass. -/
def twins : Env (History × List NotedCall) where
  provider :=
    { stations := pure [numbered 1, numbered 1]
      index := fun _ => pure (some ⟨1, newYear2026, some "Dobry", none, none, none⟩)
      measurements := fun _ => pure [] }
  store := History.store.watched
  clock := newYear2026
  freshness := usualPlan.freshness

/-- The environment of the twins is one on a history, at the beginning of the year 2026. -/
private theorem twins_worksAt : twins.WorksAt newYear2026 usualPlan := ⟨rfl, rfl, rfl⟩

/-- The live index of the twins is of the time of the pass. -/
private theorem twins_dates (id : Int) (i : LiveIndex)
    (index : (twins.provider.index id).run.value = .ok (some i)) :
    IsWithin usualPlan.freshness newYear2026 i.calculationDate := by
  cases index
  intro _
  decide

/-- One pass over the two saves two measurements at most. -/
theorem saved_at_most_twins :
    twins.WorksAt newYear2026 usualPlan ∧
    twins.provider.stations.run.value = .ok [numbered 1, numbered 1] ∧
    ∃ c h calls, Run (· = twins) usualPlan (.start, (.empty, [])) (c, (h, calls)) ∧
      countOf 1 (savedIn calls) ≤ 2 ∧ countOf 1 (savedIn calls) ≤ 8 := by
  obtain ⟨c, run, _⟩ := runPass_isRun twins usualPlan (.empty, [])
  have at_t : ∀ env, env = twins → env.WorksAt newYear2026 usualPlan := by
    rintro _ rfl
    exact twins_worksAt
  have answer : ∀ env, env = twins →
      env.provider.stations.run.value = .ok [numbered 1, numbered 1] := by
    rintro _ rfl
    rfl
  have dates : ∀ env, env = twins → ∀ id i, (env.provider.index id).run.value = .ok (some i) →
      IsWithin usualPlan.freshness newYear2026 i.calculationDate := by
    rintro _ rfl
    exact twins_dates
  obtain ⟨named, room⟩ := saved_at_most at_t dates answer run 1
  exact ⟨twins_worksAt, rfl, c, _, _, run, named, room⟩

/-- Two stations that both pass the gate are worked on one after the other. -/
private theorem value_runQueue_pair {σ : Type} {env : Env σ} {a b : Station} {st : σ}
    (first : (env.step a .freshness st).value.1 = .next .index)
    (second : (env.step b .freshness (env.step a .freshness st).value.2).value.1 = .next .index) :
    (env.runQueue [(a, .checking), (b, .checking)] [] .start st).value.2 =
      (env.work b (env.work a (env.step b .freshness
        (env.step a .freshness st).value.2).value.2).value.2).value.2 := by
  have noneWaits : admitted [] = [] := rfl
  -- Both checks come before the first work, as the queue takes turns.
  rw [Env.value_runQueue_checking]
  rcases checked : (env.step a .freshness st).value with ⟨progress, st₁⟩
  rw [checked] at first second
  obtain rfl : progress = .next .index := first
  simp only [List.nil_append, List.cons_append]
  rw [Env.value_runQueue_checking]
  rcases checked' : (env.step b .freshness st₁).value with ⟨progress, st₂⟩
  rw [checked'] at second
  obtain rfl : progress = .next .index := second
  simp only [List.nil_append, List.cons_append]
  rw [Env.value_runQueue_working, noneWaits, List.append_nil, List.drop_nil,
    Env.value_runQueue_working, noneWaits, List.append_nil, List.drop_nil,
    Env.value_runQueue_nil]

/-- The computed pass lets both tasks pass the gate before it saves their measurements. -/
theorem saved_twice_together :
    (∀ id i, (twins.provider.index id).run.value = .ok (some i) →
      IsWithin usualPlan.freshness newYear2026 i.calculationDate) ∧
    ∃ c h calls result, Run (· = twins) usualPlan (.start, (.empty, [])) (c, (h, calls)) ∧
      c.duty = .ended result ∧ countOf 1 (savedIn calls) = 2 := by
  obtain ⟨c, run, ended⟩ := runPass_isRun twins usualPlan (.empty, [])
  -- Both checks look at an empty history, so that both of them are passed.
  refine ⟨twins_dates, c, _, _, _, run, ended, ?_⟩
  have answer : twins.provider.stations.run.value = .ok [numbered 1, numbered 1] := rfl
  have first : (twins.step (numbered 1) .freshness (.empty, [])).value.1 = .next .index := rfl
  have second : (twins.step (numbered 1) .freshness
      (twins.step (numbered 1) .freshness (.empty, [])).value.2).value.1 = .next .index := rfl
  have worked := value_runQueue_pair first second
  rw [value_runPass, answer]
  refine (congrArg (countOf 1) (savedIn_of_cleanUp rfl rfl)).trans ?_
  have saved := congrArg (fun st : History × List NotedCall => countOf 1 (savedIn st.2)) worked
  exact saved.trans rfl

end AirQuality.Sync
