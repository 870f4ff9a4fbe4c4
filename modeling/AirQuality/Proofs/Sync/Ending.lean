import AirQuality.Proofs.Sync.Order
import AirQuality.Settings
import AirQuality.Sync.Guard

/-!
# How passes end

Whatever the provider and the store do, a pass ends with a report, with one exception: the threshold
of the removal of old measurements is computed outside of all handlers, and it may be beyond the
calendar. Then the call that has asked for the pass fails, and leaves the guard free all the same.

## Key results

- `withRemoval_cleanUp`: the report of a pass fails with the threshold of the removal only
- `CarriesOut`: an operation that ends as one of the runs of a pass
- `call_ends`: the whole statement
- `call_fails_millionDays`: settings for which every call fails
-/

namespace AirQuality.Sync

open Time

variable {σ : Type} {plan : Plan} {env : Env σ} {envs : Env σ → Prop}

/-- Whether the removal has a threshold: the calendar has the time less the retention period. -/
def HasThreshold (env : Env σ) (plan : Plan) : Prop :=
  0 ≤ env.clock.wall.micros - plan.retention ∧
    env.clock.wall.micros - plan.retention < (calendarMicros : Int)

/-- A threshold can be computed exactly when the settings leave one in the calendar. -/
theorem isSome_threshold_iff :
    (env.clock.shift? (-plan.retention)).isSome = true ↔ HasThreshold env plan :=
  Moment.isSome_shift?_iff

/-- A report is completed by the removal if the removal has a threshold, and else it is lost. -/
theorem withRemoval_cleanUp (report : Report) {st st' : σ} {removal : Except Fault Bool}
    (removed : ((cleanUp env plan).runOn st).value = (removal, st')) :
    ((∃ complete, report.withRemoval removal = .ok complete) ↔ HasThreshold env plan) ∧
      ∀ fault, report.withRemoval removal = .error fault → fault = .outOfRange := by
  rw [value_cleanUp] at removed
  rw [← isSome_threshold_iff]
  cases shifted : env.clock.shift? (-plan.retention) with
  | none =>
    -- The threshold is computed before the store is asked, so that the fault is that of the
    -- calendar.
    simp only [shifted] at removed
    cases removed
    simp [Report.withRemoval, Except.map]
  | some threshold =>
    -- A fault of the store is caught, so that the removal has an answer.
    obtain ⟨ok, rfl⟩ : ∃ ok, removal = .ok ok := by
      simp only [shifted] at removed
      split at removed <;> cases removed <;> exact ⟨_, rfl⟩
    simp [Report.withRemoval, Except.map]

/-! ## Calls -/

/-- An operation carries out passes: it ends as one of the runs, from any state. -/
def CarriesOut (envs : Env σ → Prop) (plan : Plan) (pass : Act σ Report) : Prop :=
  ∀ st, ∃ c, Run envs plan (.start, st) (c, (pass.runOn st).value.2) ∧
    c.duty = .ended (pass.runOn st).value.1

/-- The pass that runs one task after the other ends as one of the runs of the steps. -/
private theorem carriesOut_runPass (env : Env σ) (plan : Plan) :
    CarriesOut (· = env) plan (runPass env plan) := runPass_isRun env plan

/-- How the result of a pass depends on the environment in which its removal is made. -/
theorem CarriesOut.result {pass : Act σ Report} (carriesOut : CarriesOut envs plan pass) (st : σ) :
    ∃ env, envs env ∧
      ((∃ report, (pass.runOn st).value.1 = .ok report) ↔ HasThreshold env plan) ∧
      ∀ fault, (pass.runOn st).value.1 = .error fault → fault = .outOfRange := by
  obtain ⟨c, run, ended⟩ := carriesOut st
  -- The last step of the run is the removal, in one of the environments.
  obtain ⟨env, worked, st₀, removal, met, _, _, removed, rfl⟩ :=
    run.removal_of_ended Course.accounted_start (by simp [Course.start]) ended
  have result := Duty.ended.inj ended
  rw [← result]
  exact ⟨env, met, withRemoval_cleanUp worked.report removed⟩

/-- A call that asks for a pass is refused while another pass is running. Else it runs a pass, and
the guard is free after it, however it ends. It ends with a report if the calendar has the time of
the removal less the retention period, and only then; no other fault can end it, whatever the
provider and the store do, and in any order of the steps. -/
theorem call_ends {pass : Act σ Report} (carriesOut : CarriesOut envs plan pass) (source : Source)
    (g : Guarded σ) :
    let ending := ((Guarded.exclusively source pass).runOn g).value
    (g.isRunning = true → ending = (.ok .refused, g)) ∧
    (g.isRunning = false → ending.2.isRunning = false ∧ ∃ env, envs env ∧
      ((∃ report, ending.1 = .ok report) ↔ HasThreshold env plan) ∧
      ∀ fault, ending.1 = .error fault → fault = .outOfRange) := by
  rw [Guarded.value_runOn_exclusively]
  -- While a pass runs the guard answers on its own; an idle guard asks for the pass.
  refine ⟨fun running => by simp [running], fun idle => ?_⟩
  simp only [idle, Bool.false_eq_true, if_false]
  exact ⟨rfl, carriesOut.result g.inner⟩

/-- A call on an idle service with the usual settings has a report. -/
theorem call_ends_twoStations :
    CarriesOut (· = twoStations History.store) usualPlan
      (runPass (twoStations History.store) usualPlan) ∧
    ∃ report, ((Guarded.exclusively .manual (runPass (twoStations History.store) usualPlan)).runOn
      (.free yearOldHistory)).value.1 = .ok report := by
  have carriesOut := carriesOut_runPass (twoStations History.store) usualPlan
  obtain ⟨_, idle⟩ := call_ends carriesOut .manual (.free yearOldHistory)
  -- The only environment there is, is the one of the two stations.
  obtain ⟨_, _, rfl, answered, _⟩ := idle rfl
  have threshold : HasThreshold (twoStations History.store) usualPlan := by
    unfold HasThreshold
    decide
  exact ⟨carriesOut, answered.mpr threshold⟩

/-- A pass whose removal has no threshold fails, whatever it has done before. -/
private theorem result_runPass_of_outside (outside : env.clock.shift? (-plan.retention) = none)
    (st : σ) :
    ((runPass env plan).runOn st).value.1 = .error .outOfRange := by
  rw [value_runPass]
  simp only [value_cleanUp, outside]
  rfl

/-- Settings that keep measurements for a million days. -/
def millionDays : Settings := { Settings.initial with retentionDays := 1000000 }

/-- The settings are accepted, but with them every call on an idle service fails. -/
theorem call_fails_millionDays :
    ∃ plan, millionDays.plan = .ok plan ∧ ∀ source,
      ((Guarded.exclusively source (runPass (twoStations History.store) plan)).runOn
        (.free yearOldHistory)).value.1 = .error .outOfRange := by
  have accepted : millionDays.plan = .ok ⟨50 * minuteMicros, 1000000 * dayMicros, 8⟩ := rfl
  refine ⟨_, accepted, fun source => ?_⟩
  rw [Guarded.value_runOn_exclusively]
  -- A million days before 2026 lies before the first day of the calendar.
  have outside : newYear2026.shift? (-(1000000 * dayMicros)) = none := by decide
  exact result_runPass_of_outside outside yearOldHistory

end AirQuality.Sync
