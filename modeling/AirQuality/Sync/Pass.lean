import AirQuality.Sync.Task

/-!
# Passes of synchronisation

A pass asks for the list of stations, works on them, and removes what is older than the retention
period. A limited number of stations is worked on at a time, in turns: the freshness of a station is
checked in one turn, and it is fetched and saved in the next. When it is done, the next waiting
station takes its place at the end of the queue.

* `Env.runQueue`: the work on the stations, in turns
* `runPass`: a whole pass
-/

namespace AirQuality.Sync

open Time (Moment)

/-- The turn that a station waits for. -/
inductive Turn where
  | checking
  | working
deriving Repr, DecidableEq

/-- How many turns are left. -/
def Turn.left : Turn → Nat
  | .checking => 2
  | .working => 1

/-- The first waiting station, as it enters the queue. -/
def admitted (waiting : List Station) : List (Station × Turn) :=
  (waiting.take 1).map fun s => (s, .checking)

/-- The turns that are left for the stations of a queue. -/
def turnsOf : List (Station × Turn) → Nat
  | [] => 0
  | (_, turn) :: queue => turn.left + turnsOf queue

@[simp] theorem turnsOf_append (queue more : List (Station × Turn)) :
    turnsOf (queue ++ more) = turnsOf queue + turnsOf more := by
  induction queue with
  | nil => simp [turnsOf]
  | cons e queue ih => simp [turnsOf, ih, Nat.add_assoc]

/-- The turns that are left for a queue and the stations that wait to enter it. -/
def turnsLeft (queue : List (Station × Turn)) (waiting : List Station) : Nat :=
  turnsOf queue + 2 * waiting.length

theorem turnsLeft_admitted (queue : List (Station × Turn)) (waiting : List Station) :
    turnsLeft (queue ++ admitted waiting) (waiting.drop 1) = turnsLeft queue waiting := by
  cases waiting with
  | nil => simp [turnsLeft, admitted]
  | cons s rest => simp [turnsLeft, admitted, turnsOf, Turn.left]; omega

/-- The number of stations that may be worked on at a time. -/
def width (concurrency : Int) : Nat := (max concurrency 1).toNat

theorem width_pos (concurrency : Int) : 0 < width concurrency := by
  unfold width
  omega

namespace Env

variable {σ : Type}

/-- The freshness check as a turn: the outcome of a station that does not pass it. -/
def checkFreshness (env : Env σ) (s : Station) (st : σ) : Traced (Option Outcome × σ) := do
  match ← env.step s .freshness st with
  | (.next _, st) => return (none, st)
  | (.done o, st) => return (some o, st)

/-- Works on the stations of a queue in turns. A station that is done makes room for one that
waits. -/
def runQueue (env : Env σ) (queue : List (Station × Turn)) (waiting : List Station)
    (report : Report) (st : σ) : Traced (Report × σ) :=
  match queue with
  | [] => return (report, st)
  | (s, .checking) :: queue => do
    match ← env.checkFreshness s st with
    | (none, st) => env.runQueue (queue ++ [(s, .working)]) waiting report st
    | (some o, st) =>
      env.runQueue (queue ++ admitted waiting) (waiting.drop 1) (report.record o) st
  | (s, .working) :: queue => do
    let (o, st) ← env.work s st
    env.runQueue (queue ++ admitted waiting) (waiting.drop 1) (report.record o) st
termination_by turnsLeft queue waiting
decreasing_by
  · simp [turnsLeft, turnsOf, Turn.left]; omega
  · rw [turnsLeft_admitted]; simp [turnsLeft, turnsOf, Turn.left]
  · rw [turnsLeft_admitted]; simp [turnsLeft, turnsOf, Turn.left]

theorem value_runQueue_nil (env : Env σ) (waiting : List Station) (report : Report) (st : σ) :
    (env.runQueue [] waiting report st).value = (report, st) := by
  rw [runQueue]
  rfl

theorem value_runQueue_checking (env : Env σ) (s : Station) (queue : List (Station × Turn))
    (waiting : List Station) (report : Report) (st : σ) :
    (env.runQueue ((s, .checking) :: queue) waiting report st).value =
      match (env.step s .freshness st).value with
      | (.next _, next) => (env.runQueue (queue ++ [(s, .working)]) waiting report next).value
      | (.done o, next) =>
        (env.runQueue (queue ++ admitted waiting) (waiting.drop 1) (report.record o) next).value := by
  rw [runQueue, Traced.value_bind, checkFreshness, Traced.value_bind]
  rcases (env.step s .freshness st).value with ⟨_ | _, next⟩ <;> rfl

theorem value_runQueue_working (env : Env σ) (s : Station) (queue : List (Station × Turn))
    (waiting : List Station) (report : Report) (st : σ) :
    (env.runQueue ((s, .working) :: queue) waiting report st).value =
      (env.runQueue (queue ++ admitted waiting) (waiting.drop 1)
        (report.record (env.work s st).value.1) (env.work s st).value.2).value := by
  rw [runQueue, Traced.value_bind]

/-- Works on some stations, a number of them at a time and at least one. -/
def runStations (env : Env σ) (concurrency : Int) (stations : List Station) (st : σ) :
    Traced (Report × σ) :=
  let width := width concurrency
  env.runQueue ((stations.take width).map fun s => (s, .checking)) (stations.drop width) .start st

/-- Works on some stations one after the other, and counts what becomes of them. -/
def runEach (env : Env σ) (report : Report) : List Station → σ → Traced (Report × σ)
  | [], st => return (report, st)
  | s :: rest, st => do
    let (o, st) ← env.syncStation s st
    env.runEach (report.record o) rest st

theorem value_runEach_cons (env : Env σ) (report : Report) (s : Station) (rest : List Station)
    (st : σ) :
    (env.runEach report (s :: rest) st).value =
      (env.runEach (report.record (env.syncStation s st).value.1) rest
        (env.syncStation s st).value.2).value := by
  rw [runEach, Traced.value_bind]

end Env

/-- The settings of passes. -/
structure Plan where
  /-- How long a measurement counts as recent, in microseconds. -/
  freshness : Int
  /-- How long measurements are kept, in microseconds. -/
  retention : Int
  /-- How many stations are worked on at a time. -/
  concurrency : Int
deriving Repr, DecidableEq

variable {σ : Type}

/-- Asks for the stations and works on them. -/
def syncStations (env : Env σ) (plan : Plan) : Act σ Report := do
  let stations ← Act.ofAsk env.provider.stations
  Act.info ("Found " ++ toString stations.length ++ " stations to sync")
  let st ← Act.state
  let (report, st) ← Act.ofTraced (env.runStations plan.concurrency stations st)
  Act.setState st
  Act.info ("Sync completed: " ++ toString report.successful ++ " successful, " ++
    toString report.failed ++ " failed, " ++ toString report.skipped ++ " skipped")
  return report

/-- Removes what is older than the retention period, and tells whether that went well. -/
def cleanUp (env : Env σ) (plan : Plan) : Act σ Bool := do
  -- A threshold beyond the calendar is not a matter of the store: the fault is not caught.
  let threshold ← Act.ofExcept (orFault (env.clock.shift? (-plan.retention)) .outOfRange)
  tryCatch
    (do
      env.store.deleteOlder threshold
      Act.info ("Cleaned up measurements older than " ++ threshold.spacedText)
      return true)
    (fun _ => do
      Act.error "Error cleaning up old measurements"
      return false)

/-- The removal is asked of the store once, and a fault of the store is told and not passed on. -/
theorem value_cleanUp (env : Env σ) (plan : Plan) (st : σ) :
    ((cleanUp env plan).runOn st).value =
      match env.clock.shift? (-plan.retention) with
      | none => (.error .outOfRange, st)
      | some threshold =>
        match ((env.store.deleteOlder threshold).runOn st).value with
        | (.ok _, next) => (.ok true, next)
        | (.error _, next) => (.ok false, next) := by
  unfold cleanUp
  cases env.clock.shift? (-plan.retention) with
  | none => simp [Act.value_runOn_bind, orFault]
  | some threshold =>
    simp only [Act.value_runOn_bind, Act.runOn_ofExcept, orFault, Traced.value_pure,
      Act.value_runOn_tryCatch]
    rcases ((env.store.deleteOlder threshold).runOn st).value with ⟨result, next⟩
    cases result <;> simp

/-- The line that starts a pass. -/
def announce : Act σ Unit := Act.info "Starting air quality data synchronization"

/-- A pass behind its first line. A fault in the work on the stations is logged, and the old
measurements are removed all the same. -/
def passBody (env : Env σ) (plan : Plan) : Act σ Report := do
  let report ← tryCatch (syncStations env plan) fun _ => do
    Act.error "Error during air quality data synchronization"
    return .start
  return { report with cleanupOk := ← cleanUp env plan }

/-- A whole pass. -/
def runPass (env : Env σ) (plan : Plan) : Act σ Report := do
  announce
  passBody env plan

/-- A pass works on the stations if it knows them, and removes the old measurements in any case. -/
theorem value_runPass (env : Env σ) (plan : Plan) (st : σ) :
    ((runPass env plan).runOn st).value =
      let worked : Report × σ :=
        match env.provider.stations.run.value with
        | .ok stations => (env.runStations plan.concurrency stations st).value
        | .error _ => (.start, st)
      let removed := ((cleanUp env plan).runOn worked.2).value
      (worked.1.withRemoval removed.1, removed.2) := by
  simp only [runPass, announce, passBody, syncStations, Act.value_runOn_bind,
    Act.value_runOn_tryCatch, Act.value_runOn_info, Act.runOn_ofAsk, Traced.value_map]
  cases env.provider.stations.run.value with
  | error fault =>
    simp only [Act.value_runOn_error, Act.runOn_pure, Traced.value_pure]
    rcases ((cleanUp env plan).runOn st).value with ⟨removal, next⟩
    cases removal <;> rfl
  | ok stations =>
    simp only [Act.runOn_state, Act.runOn_ofTraced, Act.runOn_setState, Act.runOn_pure,
      Traced.value_map, Traced.value_pure]
    rcases (env.runStations plan.concurrency stations st).value with ⟨report, worked⟩
    rcases ((cleanUp env plan).runOn worked).value with ⟨removal, next⟩
    cases removal <;> rfl

end AirQuality.Sync
