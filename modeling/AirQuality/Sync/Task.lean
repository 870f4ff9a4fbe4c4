import AirQuality.Store.Basic
import AirQuality.Sync.Report
import AirQuality.Feed.Client

/-!
# Synchronising one station

The work on a station goes through four phases: the freshness check, which the station passes only
if the store has no recent measurement of it; the live index; the sensors; and saving. Each phase
talks to a collaborator once, and the work may be interrupted between two phases. A fault in any of
them ends the work, and is logged.

* `Env.step`: one phase
* `Env.work`: the phases after the freshness check, one after the other
-/

namespace AirQuality.Sync

open Time (Moment)
open Feed (Provider)

/-- What the work on stations goes by. -/
structure Env (σ : Type) where
  provider : Provider
  store : Store σ
  clock : Moment
  /-- How long a measurement counts as recent, in microseconds. -/
  freshness : Int

/-- What is to be done next for a station. -/
inductive Phase where
  | freshness
  | index
  | sensors (i : LiveIndex)
  | saving (m : Measurement)

/-- Where a phase leads to. -/
inductive Progress where
  | next (p : Phase)
  | done (o : Outcome)

namespace Env

variable {σ : Type}

/-- The freshness check: a station with a recent measurement is skipped. -/
def attemptFreshness (env : Env σ) (s : Station) : Act σ Progress := do
  let threshold ← Act.ofExcept (orFault (env.clock.shift? (-env.freshness)) .outOfRange)
  if ← env.store.hasRecent s.id threshold then return .done .skipped else return .next .index

/-- The live index: a station without one is skipped. -/
def attemptIndex (env : Env σ) (s : Station) : Act σ Progress := do
  match ← Act.ofAsk (env.provider.index s.id) with
  | none => return .done .skipped
  | some i => return .next (.sensors i)

/-- The sensors, from which the measurement is made. -/
def attemptSensors (env : Env σ) (s : Station) (i : LiveIndex) : Act σ Progress := do
  let sensors ← Act.ofAsk (env.provider.measurements s.id)
  let values ← Act.ofExcept (latestValues sensors)
  return .next (.saving (Measurement.ofLive env.clock s.id s.name i values))

/-- Saving. -/
def attemptSaving (env : Env σ) (m : Measurement) : Act σ Progress := do
  let _ ← env.store.save m
  return .done .saved

/-- A phase, which may fail. -/
def attempt (env : Env σ) (s : Station) : Phase → Act σ Progress
  | .freshness => env.attemptFreshness s
  | .index => env.attemptIndex s
  | .sensors i => env.attemptSensors s i
  | .saving m => env.attemptSaving m

/-- A phase; a fault ends the work on the station. -/
def step (env : Env σ) (s : Station) (p : Phase) (st : σ) : Traced (Progress × σ) := do
  match ← (env.attempt s p).runOn st with
  | (.ok progress, st) => return (progress, st)
  -- What the phase has changed before its fault stays changed.
  | (.error _, st) =>
    Traced.error ("Failed to sync data for station " ++ toString s.id)
    return (.done .failed, st)

/-! ## What the phases lead to -/

theorem value_step (env : Env σ) (s : Station) (p : Phase) (st : σ) :
    (env.step s p st).value =
      match ((env.attempt s p).runOn st).value with
      | (.ok progress, next) => (progress, next)
      | (.error _, next) => (.done .failed, next) := by
  unfold step
  rw [Traced.value_bind]
  rcases ((env.attempt s p).runOn st).value with ⟨result, next⟩
  cases result <;> rfl

theorem value_step_freshness (env : Env σ) (s : Station) (st : σ) :
    (env.step s .freshness st).value =
      match env.clock.shift? (-env.freshness) with
      | none => (.done .failed, st)
      | some threshold =>
        match ((env.store.hasRecent s.id threshold).runOn st).value with
        | (.ok true, next) => (.done .skipped, next)
        | (.ok false, next) => (.next .index, next)
        | (.error _, next) => (.done .failed, next) := by
  simp only [value_step, attempt, attemptFreshness, Act.value_runOn_bind, Act.runOn_ofExcept,
    Traced.value_pure]
  cases env.clock.shift? (-env.freshness) with
  | none => rfl
  | some threshold =>
    simp only [orFault]
    rcases ((env.store.hasRecent s.id threshold).runOn st).value with ⟨result, next⟩
    cases result with
    | error fault => rfl
    | ok recent => cases recent <;> rfl

theorem value_step_index (env : Env σ) (s : Station) (st : σ) :
    (env.step s .index st).value =
      match (env.provider.index s.id).run.value with
      | .ok (some i) => (.next (.sensors i), st)
      | .ok none => (.done .skipped, st)
      | .error _ => (.done .failed, st) := by
  simp only [value_step, attempt, attemptIndex, Act.value_runOn_bind, Act.runOn_ofAsk,
    Traced.value_map]
  cases (env.provider.index s.id).run.value with
  | error fault => rfl
  | ok found => cases found <;> rfl

theorem value_step_sensors (env : Env σ) (s : Station) (i : LiveIndex) (st : σ) :
    (env.step s (.sensors i) st).value =
      match (env.provider.measurements s.id).run.value >>= latestValues with
      | .ok values => (.next (.saving (Measurement.ofLive env.clock s.id s.name i values)), st)
      | .error _ => (.done .failed, st) := by
  simp only [value_step, attempt, attemptSensors, Act.value_runOn_bind, Act.runOn_ofAsk,
    Act.runOn_ofExcept, Traced.value_map, Traced.value_pure]
  cases (env.provider.measurements s.id).run.value with
  | error fault => rfl
  | ok sensors =>
    simp only [bind, Except.bind]
    cases latestValues sensors <;> rfl

theorem value_step_saving (env : Env σ) (s : Station) (m : Measurement) (st : σ) :
    (env.step s (.saving m) st).value =
      match ((env.store.save m).runOn st).value with
      | (.ok _, next) => (.done .saved, next)
      | (.error _, next) => (.done .failed, next) := by
  simp only [value_step, attempt, attemptSaving, Act.value_runOn_bind]
  rcases ((env.store.save m).runOn st).value with ⟨result, next⟩
  cases result <;> rfl

/-! ## All phases of a station -/

/-- Goes on with a station for a number of phases; a station that is not done by then has failed. -/
def proceed (env : Env σ) (s : Station) : Nat → Phase → σ → Traced (Outcome × σ)
  | 0, _, st => return (.failed, st)
  | n + 1, p, st => do
    match ← env.step s p st with
    | (.next p, st) => env.proceed s n p st
    | (.done o, st) => return (o, st)

theorem value_proceed_succ (env : Env σ) (s : Station) (n : Nat) (p : Phase) (st : σ) :
    (env.proceed s (n + 1) p st).value =
      match (env.step s p st).value with
      | (.next p, next) => (env.proceed s n p next).value
      | (.done o, next) => (o, next) := by
  rw [proceed, Traced.value_bind]
  rcases (env.step s p st).value with ⟨_ | _, next⟩ <;> rfl

/-- The phases after the freshness check: index, sensors and saving. -/
def work (env : Env σ) (s : Station) : σ → Traced (Outcome × σ) := env.proceed s 3 .index

/-- All phases of a station. -/
def syncStation (env : Env σ) (s : Station) : σ → Traced (Outcome × σ) := env.proceed s 4 .freshness

end Env

end AirQuality.Sync
