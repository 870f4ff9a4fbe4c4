import AirQuality.Sync.Pass
import Mathlib.Logic.Relation

/-!
# Interleavings of a pass

A pass makes a task of every station and waits until it has counted all of them; then it removes the
old measurements. The tasks go on by themselves, a limited number of them at a time, whatever the
pass is doing meanwhile. Which task takes its next phase, when a waiting one is taken up and which
of the finished ones is counted next is left open here: a run is any sequence of such steps. What
the provider answers and what the clock shows may differ from step to step. `runPass` computes one
of the runs.

* `Course`: a pass under way
* `Step`: a single step of it, in one of the environments that may be met
* `Run`: any number of steps
-/

namespace AirQuality.Sync

/-- What a pass does next, apart from its tasks. -/
inductive Duty where
  | asking
  | counting
  | cleaning
  | ended (result : Except Fault Report)

/-- A pass under way. -/
structure Course where
  duty : Duty
  /-- How many tasks there are. -/
  tasks : Nat
  waiting : List Station
  /-- The stations that are worked on, each with its next phase. Their order does not matter. -/
  running : List (Station × Phase)
  /-- The stations that are done and not yet counted. -/
  finished : List (Station × Outcome)
  counted : List (Station × Outcome)

namespace Course

/-- A pass that has not begun. -/
def start : Course := ⟨.asking, 0, [], [], [], []⟩

/-- The report on the stations that are counted. -/
def report (c : Course) : Report := .ofOutcomes (c.counted.map Prod.snd)

end Course

variable {σ : Type}

/-- A single step of a pass, in one of the environments that may be met. -/
inductive Step (envs : Env σ → Prop) (plan : Plan) : Course × σ → Course × σ → Prop where
  /-- The stations are known, and there is a task for each. -/
  | ask {env : Env σ} {c : Course} {st : σ} {stations : List Station} (met : envs env)
      (duty : c.duty = .asking) (answer : env.provider.stations.run.value = .ok stations) :
      Step envs plan (c, st)
        ({ c with duty := .counting, tasks := stations.length, waiting := stations }, st)
  /-- The stations remain unknown. -/
  | askInVain {env : Env σ} {c : Course} {st : σ} {fault : Fault} (met : envs env)
      (duty : c.duty = .asking) (answer : env.provider.stations.run.value = .error fault) :
      Step envs plan (c, st) ({ c with duty := .cleaning }, st)
  /-- A waiting station is taken up. -/
  | takeUp {c : Course} {st : σ} {before after : List Station} {s : Station}
      (waiting : c.waiting = before ++ s :: after)
      (room : c.running.length < width plan.concurrency) :
      Step envs plan (c, st)
        ({ c with waiting := before ++ after, running := c.running ++ [(s, .freshness)] }, st)
  /-- A station goes through a phase and has another one to go. -/
  | goOn {env : Env σ} {c : Course} {st st' : σ} {before after : List (Station × Phase)}
      {s : Station} {p next : Phase} (met : envs env)
      (running : c.running = before ++ (s, p) :: after)
      (phase : (env.step s p st).value = (.next next, st')) :
      Step envs plan (c, st) ({ c with running := before ++ after ++ [(s, next)] }, st')
  /-- A station goes through its last phase. -/
  | finish {env : Env σ} {c : Course} {st st' : σ} {before after : List (Station × Phase)}
      {s : Station} {p : Phase} {o : Outcome} (met : envs env)
      (running : c.running = before ++ (s, p) :: after)
      (phase : (env.step s p st).value = (.done o, st')) :
      Step envs plan (c, st)
        ({ c with running := before ++ after, finished := c.finished ++ [(s, o)] }, st')
  /-- A station that is done is counted. -/
  | count {c : Course} {st : σ} {before after : List (Station × Outcome)}
      {e : Station × Outcome} (duty : c.duty = .counting)
      (finished : c.finished = before ++ e :: after) :
      Step envs plan (c, st)
        ({ c with finished := before ++ after, counted := c.counted ++ [e] }, st)
  /-- As many stations are counted as there are tasks. -/
  | join {c : Course} {st : σ} (duty : c.duty = .counting)
      (all : c.counted.length = c.tasks) :
      Step envs plan (c, st) ({ c with duty := .cleaning }, st)
  /-- The old measurements are removed, and the pass ends. -/
  | cleanUp {env : Env σ} {c : Course} {st st' : σ} {removal : Except Fault Bool}
      (met : envs env) (duty : c.duty = .cleaning)
      (answer : ((cleanUp env plan).runOn st).value = (removal, st')) :
      Step envs plan (c, st)
        ({ c with duty := .ended (c.report.withRemoval removal) }, st')

/-- Any number of steps. -/
abbrev Run (envs : Env σ → Prop) (plan : Plan) : Course × σ → Course × σ → Prop :=
  Relation.ReflTransGen (Step envs plan)

end AirQuality.Sync
