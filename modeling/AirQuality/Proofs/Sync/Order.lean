import AirQuality.Proofs.Sync.Course
import AirQuality.Store.History

/-!
# The order in which a pass is computed

The computed pass takes its stations in turns from a queue. It is one of the runs that are possible
when the tasks go on by themselves; and when only one station may be worked on at a time, it works
on the stations one after the other, in the order in which they are given.

## Key results

- `run_proceed`: a station may go through all of its phases while the others wait
- `run_runQueue`: the turns of a queue are steps of a pass
- `runPass_isRun`: a computed pass is one of the runs
- `value_runQueue_single`, `value_runPass_inOrder`: one station at a time means in order
-/

namespace AirQuality.Sync

open Time

variable {σ : Type} {plan : Plan}

/-! ## A computed pass is one of the runs -/

/-- A station may go through the phases that it has to go while all others wait. -/
theorem run_proceed (plan : Plan) (env : Env σ) (s : Station) {n : Nat} {p : Phase}
    (left : p.left ≤ n) (duty : Duty) (tasks : Nat) (waiting : List Station)
    (before after : List (Station × Phase))
    (finished counted : List (Station × Outcome)) (st : σ) :
    Run (· = env) plan (⟨duty, tasks, waiting, before ++ (s, p) :: after, finished, counted⟩, st)
      (⟨duty, tasks, waiting, before ++ after,
        finished ++ [(s, (env.proceed s n p st).value.1)], counted⟩,
        (env.proceed s n p st).value.2) := by
  -- The station goes to the end of the list with its first phase, so that its place is general.
  induction n generalizing p before after st with
  | zero => cases p <;> simp [Phase.left] at left
  | succ n ih =>
    rw [Env.value_proceed_succ]
    rcases phase : (env.step s p st).value with ⟨next | o, st'⟩
    -- A phase that leads on leaves fewer, and the station has moved to the end of the list.
    · have fewer : next.left ≤ n := by
        have := left_of_step phase
        omega
      have rest := ih fewer (before ++ after) [] st'
      rw [List.append_nil] at rest
      exact .head (.goOn rfl rfl phase) rest
    · exact .single (.finish rfl rfl phase)

/-- The phase that a station goes through first in its turn. -/
def Turn.phase : Turn → Phase
  | .checking => .freshness
  | .working => .index

/-- The stations of a queue as they are worked on, each before its turn. -/
def underWay (queue : List (Station × Turn)) : List (Station × Phase) :=
  queue.map fun e => (e.1, e.2.phase)

/-- The stations of two queues are under way side by side. -/
@[simp] theorem underWay_append (queue more : List (Station × Turn)) :
    underWay (queue ++ more) = underWay queue ++ underWay more := List.map_append

/-- The first of the stations that wait is taken up when there is room for it. -/
private theorem run_admitted {queue : List (Station × Turn)}
    (room : queue.length < width plan.concurrency) (env : Env σ) (waiting : List Station)
    (tasks : Nat) (counted : List (Station × Outcome)) (st : σ) :
    Run (· = env) plan (⟨.counting, tasks, waiting, underWay queue, [], counted⟩, st)
      (⟨.counting, tasks, waiting.drop 1, underWay (queue ++ admitted waiting), [], counted⟩,
        st) := by
  -- Either nobody waits, or the first one is taken up.
  cases waiting with
  | nil =>
    simp only [admitted, List.take_nil, List.map_nil, List.append_nil, List.drop_nil]
    exact .refl
  | cons s rest =>
    have first : s :: rest = [] ++ s :: rest := rfl
    have room : (underWay queue).length < width plan.concurrency := by simpa [underWay] using room
    rw [underWay_append]
    exact .head (.takeUp first room) .refl

/-- A station that is done is counted at once, and the first waiting one takes its place. -/
private theorem run_replace {queue : List (Station × Turn)}
    (room : queue.length < width plan.concurrency) (env : Env σ) (waiting : List Station)
    (tasks : Nat) (counted : List (Station × Outcome)) (e : Station × Outcome) (st : σ) :
    Run (· = env) plan (⟨.counting, tasks, waiting, underWay queue, [e], counted⟩, st)
      (⟨.counting, tasks, waiting.drop 1, underWay (queue ++ admitted waiting), [],
        counted ++ [e]⟩, st) := by
  have only : [e] = [] ++ e :: [] := rfl
  exact .head (.count rfl only) (run_admitted room env waiting tasks (counted ++ [e]) st)

/-- No more stations are in the queue than may be worked on at a time, and none waits while the
queue is empty. -/
structure WellFilled (plan : Plan) (queue : List (Station × Turn)) (waiting : List Station) :
    Prop where
  room : queue.length ≤ width plan.concurrency
  busy : queue = [] → waiting = []

/-- Without the station at its front the queue has room. -/
private theorem WellFilled.length_lt {e : Station × Turn} {queue : List (Station × Turn)}
    {waiting : List Station} (h : WellFilled plan (e :: queue) waiting) :
    queue.length < width plan.concurrency := h.room

/-- A queue that a station leaves is filled up by the next one that waits. -/
theorem WellFilled.admitted {e : Station × Turn} {queue : List (Station × Turn)}
    {waiting : List Station} (h : WellFilled plan (e :: queue) waiting) :
    WellFilled plan (queue ++ admitted waiting) (waiting.drop 1) := by
  have room := h.room
  cases waiting with
  | nil => exact ⟨by simp [Sync.admitted] at *; omega, by simp⟩
  | cons s rest => exact ⟨by simp [Sync.admitted] at *; omega, by simp [Sync.admitted]⟩

/-- The turns of a queue are steps of a pass. At their end all stations are counted. -/
theorem run_runQueue (env : Env σ) (queue : List (Station × Turn)) (waiting : List Station)
    (report : Report) (st : σ) (filled : WellFilled plan queue waiting) (tasks : Nat)
    (counted : List (Station × Outcome)) (reported : report = .ofOutcomes (counted.map Prod.snd)) :
    ∃ all, Run (· = env) plan
        (⟨.counting, tasks, waiting, underWay queue, [], counted⟩, st)
        (⟨.counting, tasks, [], [], [], all⟩, (env.runQueue queue waiting report st).value.2) ∧
      (env.runQueue queue waiting report st).value.1 = .ofOutcomes (all.map Prod.snd) := by
  -- On the recursion of the queue: it is empty, a check comes first, or work comes first.
  induction queue, waiting, report, st using Env.runQueue.induct generalizing counted with
  | case1 waiting report st =>
    rw [Env.value_runQueue_nil, filled.busy rfl]
    exact ⟨counted, .refl, reported⟩
  | case2 waiting report st s queue goOn done =>
    rw [Env.value_runQueue_checking]
    have first : underWay ((s, .checking) :: queue) = [] ++ (s, .freshness) :: underWay queue := rfl
    rcases phase : (env.step s .freshness st).value with ⟨next | o, st'⟩
    · -- The check leads to the index, which is the first phase of the next turn.
      obtain rfl : next = .index := by
        have left := left_of_step phase
        cases next <;> simp [Phase.left] at left ⊢
      have kept : WellFilled plan (queue ++ [(s, .working)]) waiting :=
        ⟨by simpa using filled.room, by simp⟩
      obtain ⟨all, run, same⟩ := goOn st' kept counted reported
      rw [underWay_append] at run
      exact ⟨all, .head (.goOn rfl first phase) run, same⟩
    -- The station is done with its check, and the next one takes its place in the queue.
    · obtain ⟨all, run, same⟩ := done o st' filled.admitted (counted ++ [(s, o)])
        (by rw [List.map_append, reported, List.map_singleton, Report.ofOutcomes_append])
      have replaced := run_replace filled.length_lt env waiting tasks counted (s, o) st'
      exact ⟨all, .head (.finish rfl first phase) (replaced.trans run), same⟩
  | case3 waiting report st s queue done =>
    rw [Env.value_runQueue_working]
    -- The work after the check is done without a break, and the station is counted after it.
    have worked := run_proceed plan env s (Nat.le_refl Phase.index.left) .counting tasks
      waiting [] (underWay queue) [] counted st
    obtain ⟨all, run, same⟩ := done (env.work s st).value.1 (env.work s st).value.2
      filled.admitted (counted ++ [(s, (env.work s st).value.1)])
      (by rw [List.map_append, reported, List.map_singleton, Report.ofOutcomes_append])
    have replaced := run_replace filled.length_lt env waiting tasks counted
      (s, (env.work s st).value.1) (env.work s st).value.2
    exact ⟨all, worked.trans (replaced.trans run), same⟩

/-- As many stations as there is room for are taken up before any of them goes on. -/
private theorem run_fill (plan : Plan) (env : Env σ) (first rest : List Station)
    (queue : List (Station × Turn)) (room : queue.length + first.length ≤ width plan.concurrency)
    (tasks : Nat)
    (counted : List (Station × Outcome)) (st : σ) :
    Run (· = env) plan (⟨.counting, tasks, first ++ rest, underWay queue, [], counted⟩, st)
      (⟨.counting, tasks, rest, underWay (queue ++ first.map fun s => (s, .checking)), [], counted⟩,
        st) := by
  -- On the stations that are taken up, of which the queue gets one more in each step.
  induction first generalizing queue with
  | nil =>
    rw [List.map_nil, List.append_nil]
    exact .refl
  | cons s first ih =>
    rw [List.length_cons] at room
    have space : queue.length < width plan.concurrency := by omega
    have one := run_admitted space env (s :: first ++ rest) tasks counted st
    have others := ih (queue ++ [(s, .checking)]) (by simp; omega)
    rw [List.append_assoc] at others
    exact one.trans others

/-- The stations that a pass works on in turns are all counted at the end. -/
private theorem run_runStations (plan : Plan) (env : Env σ) (stations : List Station) (tasks : Nat)
    (st : σ) :
    ∃ all, Run (· = env) plan (⟨.counting, tasks, stations, [], [], []⟩, st)
        (⟨.counting, tasks, [], [], [], all⟩,
          (env.runStations plan.concurrency stations st).value.2) ∧
      (env.runStations plan.concurrency stations st).value.1 = .ofOutcomes (all.map Prod.snd) := by
  have positive := width_pos plan.concurrency
  have filled : WellFilled plan
      ((stations.take (width plan.concurrency)).map fun s => (s, .checking))
      (stations.drop (width plan.concurrency)) := by
    -- The queue is empty only if there is no station, since there is room for one at least.
    refine ⟨by simp, fun empty => ?_⟩
    have none : stations = [] := by
      rw [List.map_eq_nil_iff, List.take_eq_nil_iff] at empty
      exact empty.resolve_left (by omega)
    rw [none, List.drop_nil]
  have fill := run_fill plan env (stations.take (width plan.concurrency))
    (stations.drop (width plan.concurrency)) [] (by simp) tasks [] st
  rw [List.take_append_drop] at fill
  -- First the queue is filled, then its stations take their turns.
  obtain ⟨all, run, same⟩ := run_runQueue env _ _ .start st filled tasks [] rfl
  exact ⟨all, fill.trans run, same⟩

/-- A pass that works on the stations in turns is one of the runs. -/
theorem runPass_isRun (env : Env σ) (plan : Plan) (st : σ) :
    ∃ c, Run (· = env) plan (.start, st) (c, ((runPass env plan).runOn st).value.2) ∧
      c.duty = .ended ((runPass env plan).runOn st).value.1 := by
  rw [value_runPass]
  -- If the stations cannot be had, the pass turns to the removal at once.
  cases answer : env.provider.stations.run.value with
  | error fault =>
    have asked : Step (· = env) plan (.start, st) ({ Course.start with duty := .cleaning }, st) :=
      .askInVain rfl rfl answer
    exact ⟨_, .tail (.single asked) (.cleanUp rfl rfl rfl), rfl⟩
  | ok stations =>
    have asked : Step (· = env) plan (.start, st)
        (⟨.counting, stations.length, stations, [], [], []⟩, st) := .ask rfl rfl answer
    obtain ⟨all, work, same⟩ := run_runStations plan env stations stations.length st
    have run := Relation.ReflTransGen.head asked work
    -- The pass can join its tasks, since none of them is lost.
    have tasks := (Run.accounted run Course.accounted_start).tasks
    have joined : all.length = stations.length := by simpa using tasks.symm
    simp only [same]
    exact ⟨_, .tail (.tail run (.join rfl joined)) (.cleanUp rfl rfl rfl), rfl⟩

/-! ## One station at a time -/

/-- All phases of a station are the freshness check and, if it leads on, the work after it. -/
private theorem value_syncStation (env : Env σ) (s : Station) (st : σ) :
    (env.syncStation s st).value =
      match (env.step s .freshness st).value with
      | (.next _, next) => (env.work s next).value
      | (.done o, next) => (o, next) := by
  rw [Env.syncStation, Env.value_proceed_succ]
  rcases phase : (env.step s .freshness st).value with ⟨next | o, st'⟩
  · obtain rfl : next = .index := by
      have left := left_of_step phase
      cases next <;> simp [Phase.left] at left ⊢
    rfl
  · rfl

/-- A queue with room for one station works on the stations one after the other. -/
theorem value_runQueue_single (env : Env σ) (stations : List Station) (report : Report) (st : σ) :
    (env.runQueue (admitted stations) (stations.drop 1) report st).value =
      (env.runEach report stations st).value := by
  -- The queue never holds more than one station, which has both of its turns before the next one.
  induction stations generalizing report st with
  | nil => exact Env.value_runQueue_nil env [] report st
  | cons s rest ih =>
    have alone : admitted (s :: rest) = [(s, .checking)] := rfl
    rw [alone, Env.value_runQueue_checking, Env.value_runEach_cons, value_syncStation]
    rcases (env.step s .freshness st).value with ⟨next | o, st'⟩
    · simp only [List.nil_append, List.drop_succ_cons, List.drop_zero, Env.value_runQueue_working]
      exact ih _ _
    · exact ih _ _

/-- A pass over some stations that works on them one after the other, in the order in which they
are given. -/
def Env.passInOrder (env : Env σ) (plan : Plan) (stations : List Station) (st : σ) :
    Except Fault Report × σ :=
  let worked := (env.runEach .start stations st).value
  let removed := ((cleanUp env plan).runOn worked.2).value
  (worked.1.withRemoval removed.1, removed.2)

/-- A pass that may work on one station at a time works on the stations in order. -/
theorem value_runPass_inOrder {env : Env σ} {stations : List Station}
    (answer : env.provider.stations.run.value = .ok stations) (single : plan.concurrency ≤ 1)
    (st : σ) : ((runPass env plan).runOn st).value = env.passInOrder plan stations st := by
  -- A width below one is taken for one.
  have one : width plan.concurrency = 1 := by
    unfold width
    omega
  have inOrder : (env.runStations plan.concurrency stations st).value =
      (env.runEach .start stations st).value := by
    rw [Env.runStations, one]
    exact value_runQueue_single env stations .start st
  rw [value_runPass, answer]
  simp only [inOrder, Env.passInOrder]

/-! ## A pass over two stations -/

/-- The beginning of the year 2025, at UTC. -/
def newYear2025 : Moment := ⟨⟨(Civil.mk 2025 1 1).dayNumber * dayMicros, by decide⟩, some .zero⟩

/-- The beginning of the year 2026, at UTC. -/
def newYear2026 : Moment := ⟨⟨(Civil.mk 2026 1 1).dayNumber * dayMicros, by decide⟩, some .zero⟩

/-- A station of which only the number is known. -/
def numbered (id : Int) : Station := ⟨id, none, "", none, 0, 0⟩

/-- A provider of two stations. The first one has a live index, and the second one is out of
order. -/
def oneOutOfOrder : Feed.Provider where
  stations := pure [numbered 1, numbered 2]
  index id :=
    if id = 1 then pure (some ⟨1, newYear2026, some "Dobry", none, none, none⟩)
    else Ask.ofExcept (.error (.failure "out of order"))
  measurements _ := pure []

/-- Measurements count as recent for fifty minutes and are kept for ninety days, and up to eight
stations are worked on at a time. -/
def usualPlan : Plan := ⟨50 * minuteMicros, 90 * dayMicros, 8⟩

/-- Work on the two stations at the beginning of the year 2026. -/
def twoStations (store : Store σ) : Env σ :=
  ⟨oneOutOfOrder, store, newYear2026, usualPlan.freshness⟩

/-- A history with one measurement of the first station, a year old. -/
def yearOldHistory : History :=
  ⟨[.ofLive newYear2025 1 none ⟨1, newYear2025, none, none, none, none⟩ []], 0⟩

example : ((twoStations History.store).passInOrder usualPlan [numbered 1, numbered 2]
    yearOldHistory).1 = .ok ⟨1, 0, 1, true, false⟩ := rfl

end AirQuality.Sync
