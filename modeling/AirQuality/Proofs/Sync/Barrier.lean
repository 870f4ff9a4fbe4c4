import AirQuality.Proofs.Sync.Order
import AirQuality.Store.Watched

/-!
# The removal of old measurements as a barrier

The tasks of a pass ask the store whether measurements are recent and save new ones. The removal of
old measurements comes after all of that, once in every pass, whatever fails on the way.

## Key results

- `calls_of_step`, `calls_of_cleanUp`: the calls of a task and of the removal
- `Run.calls_ofTask`: before a pass is over only its tasks have called the store
- `removal_once_after_all_tasks`: the whole statement
-/

namespace AirQuality

/-- Whether the work on a station makes such a call: the check of freshness, or saving. -/
def StoreCall.isOfTask : StoreCall → Bool
  | .hasRecent _ _ => true
  | .save _ => true
  | _ => false

namespace Sync

open Time (Moment)

variable {σ : Type} {store : Store σ} {plan : Plan}
variable {envs : Env (σ × List NotedCall) → Prop}

/-- A phase adds at most calls of tasks to those that were made before. -/
theorem calls_of_step {env : Env (σ × List NotedCall)} (watched : env.store = store.watched)
    (s : Station) (p : Phase) (st : σ) (calls : List NotedCall) :
    ∃ more, (env.step s p (st, calls)).value.2.2 = calls ++ more ∧
      ∀ n ∈ more, n.call.isOfTask = true := by
  -- A case per phase: only the check of freshness and the saving reach the store at all.
  cases p with
  | freshness =>
    rw [Env.value_step_freshness, watched]
    cases env.clock.shift? (-env.freshness) with
    -- Without a threshold the check is not made.
    | none => exact ⟨[], by simp⟩
    | some threshold =>
      simp only [Store.watched, Store.value_runOn_noting]
      rcases ((store.hasRecent s.id threshold).runOn st).value with ⟨result, next⟩
      refine ⟨[⟨.hasRecent s.id threshold, result.isOk⟩], ?_, by simp [StoreCall.isOfTask]⟩
      -- The three answers of the store (a fault, no, yes) lead to different phases, but to one
      -- note.
      rcases result with _ | _ | _ <;> rfl
  | index =>
    rw [Env.value_step_index]
    exact ⟨[], by split <;> simp⟩
  | sensors i =>
    rw [Env.value_step_sensors]
    exact ⟨[], by split <;> simp⟩
  | saving m =>
    rw [Env.value_step_saving, watched]
    simp only [Store.watched, Store.value_runOn_noting]
    rcases ((store.save m).runOn st).value with ⟨result, next⟩
    refine ⟨[⟨.save m, result.isOk⟩], ?_, by simp [StoreCall.isOfTask]⟩
    -- A save that failed is noted as well.
    cases result <;> rfl

/-- The removal makes one call, and its answer is whether that call was answered. -/
theorem calls_of_cleanUp {env : Env (σ × List NotedCall)} (watched : env.store = store.watched)
    {threshold : Moment} (inCalendar : env.clock.shift? (-plan.retention) = some threshold)
    (st : σ) (calls : List NotedCall) :
    ∃ answered, ((cleanUp env plan).runOn (st, calls)).value.1 = .ok answered ∧
      ((cleanUp env plan).runOn (st, calls)).value.2.2 =
        calls ++ [⟨.deleteOlder threshold, answered⟩] := by
  -- The threshold exists, so that the branch without a call is gone.
  rw [value_cleanUp, inCalendar, watched]
  simp only [Store.watched, Store.value_runOn_noting]
  rcases ((store.deleteOlder threshold).runOn st).value with ⟨_ | _, next⟩
  · exact ⟨false, rfl, rfl⟩
  · exact ⟨true, rfl, rfl⟩

/-- A phase of a station keeps the calls to the store such that all of them are those of tasks. -/
private theorem ofTask_of_phase {env : Env (σ × List NotedCall)}
    (watched : env.store = store.watched) {s : Station} {p : Phase} {progress : Progress}
    {st st' : σ} {calls calls' : List NotedCall}
    (phase : (env.step s p (st, calls)).value = (progress, (st', calls')))
    (h : ∀ n ∈ calls, n.call.isOfTask = true) : ∀ n ∈ calls', n.call.isOfTask = true := by
  -- The phase adds its own calls at the end.
  obtain ⟨more, appended, ofTask⟩ := calls_of_step watched s p st calls
  rw [phase] at appended
  intro n hn
  rw [show calls' = calls ++ more from appended, List.mem_append] at hn
  exact hn.elim (h n) (ofTask n)

/-- Before a pass is over only its tasks call the store, in any order of the steps. -/
theorem Run.calls_ofTask (watched : ∀ env, envs env → env.store = store.watched)
    {st : σ} {y : Course × (σ × List NotedCall)} (run : Run envs plan (.start, (st, [])) y)
    (notEnded : ∀ result, y.1.duty ≠ .ended result) : ∀ n ∈ y.2.2, n.call.isOfTask = true := by
  -- On the steps of the run. A step that is not a phase leaves the notes as they are.
  induction run with
  | refl => simp
  | tail before step ih =>
    -- A pass that is over takes no step, so that it was not over before this step either.
    have earlier := ih (step.not_ended (Run.accounted before Course.accounted_start))
    cases step with
    | ask _ _ _ => exact earlier
    | askInVain _ _ _ => exact earlier
    | takeUp _ _ => exact earlier
    | goOn met _ phase => exact ofTask_of_phase (watched _ met) phase earlier
    | finish met _ phase => exact ofTask_of_phase (watched _ met) phase earlier
    | count _ _ => exact earlier
    | join _ _ => exact earlier
    -- The removal ends the pass, which is excluded.
    | cleanUp _ _ _ => exact absurd rfl (notEnded _)

/-- A pass calls the store to remove old measurements exactly once, with the time less the retention
period as the threshold, after all of its tasks: until it is over only tasks have called the store,
and it can be brought to an end; when it is over no task is left, so that the removal stays the last
call, and its report says whether that call was answered. This holds in any order of the steps,
whatever the provider and the store answer and wherever they fail. -/
theorem removal_once_after_all_tasks (watched : ∀ env, envs env → env.store = store.watched)
    (inCalendar : ∀ env, envs env → (env.clock.shift? (-plan.retention)).isSome)
    (some_env : ∃ env, envs env) {st st' : σ} {c : Course} {calls : List NotedCall}
    (run : Run envs plan (.start, (st, [])) (c, (st', calls))) :
    ((∀ result, c.duty ≠ .ended result) →
      (∀ n ∈ calls, n.call.isOfTask = true) ∧
      ∃ y result, Run envs plan (c, (st', calls)) y ∧ y.1.duty = .ended result) ∧
    ∀ result, c.duty = .ended result →
      c.waiting = [] ∧ c.running = [] ∧ c.finished = [] ∧ c.counted.length = c.tasks ∧
      ∃ env threshold work answered report, envs env ∧
        env.clock.shift? (-plan.retention) = some threshold ∧
        calls = work ++ [⟨.deleteOlder threshold, answered⟩] ∧
        (∀ n ∈ work, n.call.isOfTask = true) ∧
        result = .ok report ∧ (report.cleanupOk = true ↔ answered = true) := by
  have accounted := run.accounted Course.accounted_start
  obtain ⟨env, met⟩ := some_env
  -- Two cases: the pass is still going on, or it is over.
  refine ⟨fun notEnded => ?_, fun result ended => ?_⟩
  · exact ⟨run.calls_ofTask watched notEnded, Run.exists_ended met _ accounted⟩
  · -- The last step was the removal, and before it there were only calls of tasks.
    have joined : c.duty ≠ .counting := by simp [ended]
    obtain ⟨waiting, running, finished⟩ := accounted.nothing_left joined
    refine ⟨waiting, running, finished, accounted.joined joined, ?_⟩
    obtain ⟨env, worked, ⟨st₀, work⟩, removal, met, before, cleaning, removed, rfl⟩ :=
      run.removal_of_ended Course.accounted_start (by simp [Course.start]) ended
    have ofTask := before.calls_ofTask watched (by simp [cleaning])
    obtain ⟨threshold, shifted⟩ := Option.isSome_iff_exists.mp (inCalendar env met)
    obtain ⟨answered, answer, appended⟩ := calls_of_cleanUp (watched env met) shifted st₀ work
    rw [removed] at answer appended
    -- The store cannot make the removal fail: its fault is caught and counted as not answered.
    obtain rfl : removal = .ok answered := answer
    obtain rfl := Duty.ended.inj ended
    exact ⟨env, threshold, work, answered, _, met, shifted, appended, ofTask, rfl, Iff.rfl⟩

/-- The pass over two stations removes what is older than ninety days after all of its other calls
to the store. -/
theorem removal_once_twoStations :
    (twoStations History.store.watched).store = History.store.watched ∧
    (newYear2026.shift? (-usualPlan.retention)).isSome ∧
    ∃ c st calls result, Run (· = twoStations History.store.watched) usualPlan
        (.start, (yearOldHistory, [])) (c, (st, calls)) ∧
      c.duty = .ended result ∧ c.counted.length = c.tasks ∧
      ∃ threshold work answered report,
        newYear2026.shift? (-usualPlan.retention) = some threshold ∧
        calls = work ++ [⟨.deleteOlder threshold, answered⟩] ∧
        (∀ n ∈ work, n.call.isOfTask = true) ∧
        result = .ok report ∧ (report.cleanupOk = true ↔ answered = true) := by
  obtain ⟨c, run, ended⟩ :=
    runPass_isRun (twoStations History.store.watched) usualPlan (yearOldHistory, [])
  have inCalendar : (newYear2026.shift? (-usualPlan.retention)).isSome := by decide
  have watched : ∀ env, env = twoStations History.store.watched →
      env.store = History.store.watched := by
    rintro _ rfl
    rfl
  have always : ∀ env, env = twoStations History.store.watched →
      (env.clock.shift? (-usualPlan.retention)).isSome := by
    rintro _ rfl
    exact inCalendar
  -- The general statement, at the run that the pass itself is.
  obtain ⟨_, atEnd⟩ := removal_once_after_all_tasks watched always ⟨_, rfl⟩ run
  obtain ⟨_, _, _, counted, _, threshold, work, answered, report, rfl, rest⟩ := atEnd _ ended
  exact ⟨rfl, inCalendar, c, _, _, _, run, ended, counted, threshold, work, answered, report, rest⟩

end Sync

end AirQuality
