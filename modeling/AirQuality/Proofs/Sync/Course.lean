import AirQuality.Sync.Interleaving
import Mathlib.Data.Prod.Lex

/-!
# Courses of a pass

Facts about a pass under way that hold in any order of its steps. Every task is in one place, and a
pass that does not count tasks has counted all of them. No pass stands still before it is over, and
no pass goes on for ever.

## Key results

- `Course.Accounted`: where the tasks are; `Run.accounted`: it holds throughout a run
- `Course.Accounted.nothing_left`: a pass that has joined its tasks has none under way
- `Course.Accounted.exists_step`: a pass that is not over has a next step
- `Run.held_known`: a pass holds each station that it knows once
- `Step.forall_running`: what holds of the tasks under way
- `Run.removal_of_ended`: the last step of a pass is the removal of old measurements
- `wellFounded_step`: there is no endless run
- `Run.exists_ended`: every run can be brought to an end
-/

namespace AirQuality.Sync

variable {σ : Type} {envs : Env σ → Prop} {plan : Plan}

/-! ## Phases -/

/-- How many phases a station has to go, this one counted. -/
def Phase.left : Phase → Nat
  | .freshness => 4
  | .index => 3
  | .sensors _ => 2
  | .saving _ => 1

/-- A phase leads to the one after it, if it leads to another one at all. -/
theorem left_of_step {env : Env σ} {s : Station} {p q : Phase} {st st' : σ}
    (h : (env.step s p st).value = (.next q, st')) : q.left + 1 = p.left := by
  -- A case per phase; each either leads to the next one or is the last.
  cases p with
  | freshness =>
    rw [Env.value_step_freshness] at h
    split at h
    · simp at h
    · split at h <;> simp only [Prod.mk.injEq, Progress.next.injEq, reduceCtorEq, false_and] at h
      obtain ⟨rfl, _⟩ := h
      rfl
  | index =>
    rw [Env.value_step_index] at h
    split at h <;> simp only [Prod.mk.injEq, Progress.next.injEq, reduceCtorEq, false_and] at h
    obtain ⟨rfl, _⟩ := h
    rfl
  | sensors i =>
    rw [Env.value_step_sensors] at h
    split at h <;> simp only [Prod.mk.injEq, Progress.next.injEq, reduceCtorEq, false_and] at h
    obtain ⟨rfl, _⟩ := h
    rfl
  | saving m =>
    rw [Env.value_step_saving] at h
    split at h <;> simp at h

/-! ## Where the tasks are -/

/-- Every task is in one place. There are none before the stations are known, and all of them are
counted when the pass has turned to the removal of old measurements. -/
structure Course.Accounted (c : Course) : Prop where
  tasks : c.tasks = c.waiting.length + c.running.length + c.finished.length + c.counted.length
  unasked : c.duty = .asking → c.tasks = 0
  joined : c.duty ≠ .counting → c.counted.length = c.tasks

/-- A pass starts without tasks. -/
theorem Course.accounted_start : Course.start.Accounted := ⟨rfl, fun _ => rfl, fun _ => rfl⟩

/-- No step loses a task or makes one twice. -/
theorem Step.accounted {x y : Course × σ} (step : Step envs plan x y) (h : x.1.Accounted) :
    y.1.Accounted := by
  obtain ⟨tasks, unasked, joined⟩ := h
  cases step with
  | ask _ duty _ =>
    -- There was no task before, and now all of them wait.
    have none := unasked duty
    exact ⟨by dsimp only at *; omega, by simp, by simp⟩
  | askInVain _ duty _ =>
    exact ⟨tasks, by simp, fun _ => joined (by simp [duty])⟩
  -- Each of the next steps moves a task to another place.
  | takeUp waiting _ =>
    refine ⟨?_, unasked, joined⟩
    simp only [waiting, List.length_append, List.length_cons, List.length_nil] at tasks ⊢
    omega
  | goOn _ running _ =>
    refine ⟨?_, unasked, joined⟩
    simp only [running, List.length_append, List.length_cons, List.length_nil] at tasks ⊢
    omega
  | finish _ running _ =>
    refine ⟨?_, unasked, joined⟩
    simp only [running, List.length_append, List.length_cons, List.length_nil] at tasks ⊢
    omega
  | count duty finished =>
    refine ⟨?_, by simp [duty], fun h => absurd duty h⟩
    simp only [finished, List.length_append, List.length_cons, List.length_nil] at tasks ⊢
    omega
  | join _ all => exact ⟨tasks, by simp, fun _ => all⟩
  | cleanUp _ duty _ => exact ⟨tasks, by simp, fun _ => joined (by simp [duty])⟩

/-- Tasks stay accounted for in any order of the steps. -/
theorem Run.accounted {x y : Course × σ} (run : Run envs plan x y) (h : x.1.Accounted) :
    y.1.Accounted := by
  -- On the steps of the run, each of which keeps the places.
  induction run with
  | refl => exact h
  | tail _ step ih => exact step.accounted ih

/-- A pass that does not count any more has no task under way. -/
theorem Course.Accounted.nothing_left {c : Course} (h : c.Accounted) (duty : c.duty ≠ .counting) :
    c.waiting = [] ∧ c.running = [] ∧ c.finished = [] := by
  have tasks := h.tasks
  have joined := h.joined duty
  -- The counted tasks are as many as all tasks, so that nothing is left for the other places.
  refine ⟨List.eq_nil_of_length_eq_zero ?_, List.eq_nil_of_length_eq_zero ?_,
    List.eq_nil_of_length_eq_zero ?_⟩ <;> omega

/-- A pass that is over takes no step. -/
theorem Step.not_ended {x y : Course × σ} (step : Step envs plan x y) (h : x.1.Accounted)
    (result : Except Fault Report) : x.1.duty ≠ .ended result := by
  intro ended
  have joined : x.1.duty ≠ .counting := by rw [ended]; simp
  -- No task is left that could take a step, and the steps of the pass itself need another duty.
  obtain ⟨waiting, running, _⟩ := h.nothing_left joined
  cases step with
  | ask _ duty _ => simp [duty] at ended
  | askInVain _ duty _ => simp [duty] at ended
  | takeUp some_waiting _ => simp [some_waiting] at waiting
  | goOn _ some_running _ => simp [some_running] at running
  | finish _ some_running _ => simp [some_running] at running
  | count duty _ => simp [duty] at ended
  | join duty _ => simp [duty] at ended
  | cleanUp _ duty _ => simp [duty] at ended

/-- A pass that is over has come there by the removal of old measurements. -/
theorem Run.removal_of_ended {x : Course × σ} {c : Course} {st : σ} {result : Except Fault Report}
    (run : Run envs plan x (c, st)) (accounted : x.1.Accounted)
    (notEnded : ∀ result, x.1.duty ≠ .ended result) (ended : c.duty = .ended result) :
    ∃ env worked st₀ removal, envs env ∧ Run envs plan x (worked, st₀) ∧
      worked.duty = .cleaning ∧ ((cleanUp env plan).runOn st₀).value = (removal, st) ∧
      c = { worked with duty := .ended (worked.report.withRemoval removal) } := by
  -- A run that makes no step has not ended the pass.
  cases run with
  | refl => exact absurd ended (notEnded result)
  | tail before step =>
    -- The last step has ended the pass, since it was not over before.
    have earlier := step.not_ended (Run.accounted before accounted) result
    cases step with
    | ask _ duty _ => simp at ended
    | askInVain _ duty _ => simp at ended
    | takeUp _ _ => exact absurd ended earlier
    | goOn _ _ _ => exact absurd ended earlier
    | finish _ _ _ => exact absurd ended earlier
    | count _ _ => exact absurd ended earlier
    | join _ _ => simp at ended
    | cleanUp met duty answer => exact ⟨_, _, _, _, met, before, duty, answer, rfl⟩

/-! ## Where the stations are -/

/-- The stations that are done. -/
def Course.done (c : Course) : List Station := (c.finished ++ c.counted).map Prod.fst

/-- The stations of a pass, wherever they are. -/
def Course.held (c : Course) : List Station := c.waiting ++ (c.running.map Prod.fst ++ c.done)

/-- The stations as far as a pass knows them. -/
def Course.known (c : Course) (stations : List Station) : List Station :=
  match c.duty with
  | .asking => []
  | _ => stations

/-- An element may be moved from the first part of a list to a place in the second one. -/
theorem perm_moved {α : Type} (a : α) (before after left right : List α) :
    (before ++ after ++ (left ++ a :: right)).Perm (before ++ a :: after ++ (left ++ right)) := by
  have front : (before ++ a :: after ++ (left ++ right)).Perm
      (a :: (before ++ after ++ (left ++ right))) := by
    rw [List.append_assoc, List.cons_append, List.append_assoc]
    exact List.perm_middle
  have back : (before ++ after ++ (left ++ a :: right)).Perm
      (a :: (before ++ after ++ (left ++ right))) := by
    rw [← List.append_assoc, ← List.append_assoc]
    exact List.perm_middle
  exact back.trans front.symm

/-- A pass that is not to be told its stations any more holds the stations that it held before. -/
private theorem Step.held_perm {x y : Course × σ} (step : Step envs plan x y)
    (asked : x.1.duty ≠ .asking) : y.1.held.Perm x.1.held := by
  -- Asking is excluded. Each of the other steps moves one station, or none.
  cases step with
  | ask _ duty _ => exact absurd duty asked
  | askInVain _ duty _ => exact absurd duty asked
  | @takeUp c _ before after s waiting _ =>
    have moved := perm_moved s before after (c.running.map Prod.fst) c.done
    simpa [Course.held, Course.done, waiting] using moved
  -- The station goes to the end of those under way.
  | @goOn _ c _ _ before after s p next _ running _ =>
    have moved := perm_moved s (before.map Prod.fst) (after.map Prod.fst) [] c.done
    simpa [Course.held, Course.done, running] using moved.append_left c.waiting
  | @finish _ c _ _ before after s p o _ running _ =>
    have moved := perm_moved s (before.map Prod.fst) (after.map Prod.fst)
      (c.finished.map Prod.fst) (c.counted.map Prod.fst)
    simpa [Course.held, Course.done, running] using moved.append_left c.waiting
  | @count c _ before after e _ finished =>
    have moved := perm_moved e.1 (before.map Prod.fst) (after.map Prod.fst)
      (c.counted.map Prod.fst) []
    simpa [Course.held, Course.done, finished] using
      (moved.append_left (c.running.map Prod.fst)).append_left c.waiting
  | join _ _ => exact .refl _
  | cleanUp _ _ _ => exact .refl _

/-- A pass holds the stations that the provider has named, each of them once, as soon as it knows
them. -/
theorem Step.held_known {stations : List Station}
    (answer : ∀ env, envs env → env.provider.stations.run.value = .ok stations)
    {x y : Course × σ} (step : Step envs plan x y) (accounted : x.1.Accounted)
    (h : x.1.held.Perm (x.1.known stations)) : y.1.held.Perm (y.1.known stations) := by
  by_cases asked : x.1.duty = .asking
  · -- Nothing is held yet, and the first step is to ask.
    obtain ⟨noneWaiting, noneRunning, noneFinished⟩ := accounted.nothing_left (by simp [asked])
    have noneCounted : x.1.counted = [] := by
      refine List.eq_nil_of_length_eq_zero ?_
      rw [accounted.joined (by simp [asked]), accounted.unasked asked]
    cases step with
    | @ask _ _ _ found met _ named =>
      obtain rfl : stations = found := by
        rw [answer _ met] at named
        exact Except.ok.inj named
      dsimp only at noneRunning noneFinished noneCounted
      simp [Course.held, Course.done, Course.known, noneRunning, noneFinished, noneCounted]
    | askInVain met _ failed =>
      rw [answer _ met] at failed
      cases failed
    | takeUp waiting _ => simp [waiting] at noneWaiting
    | goOn _ running _ => simp [running] at noneRunning
    | finish _ running _ => simp [running] at noneRunning
    | count duty _ => simp [duty] at asked
    | join duty _ => simp [duty] at asked
    | cleanUp _ duty _ => simp [duty] at asked
  · -- What is held is only moved, and what is known stays the same.
    have known : y.1.known stations = x.1.known stations := by
      cases step with
      | ask _ duty _ => exact absurd duty asked
      | askInVain _ duty _ => exact absurd duty asked
      | takeUp _ _ => rfl
      | goOn _ _ _ => rfl
      | finish _ _ _ => rfl
      | count _ _ => rfl
      | join duty _ => simp [Course.known, duty]
      | cleanUp _ duty _ => simp [Course.known, duty]
    rw [known]
    exact (step.held_perm asked).trans h

/-- A pass that knows its stations holds each of them once, in any order of the steps. -/
theorem Run.held_known {stations : List Station}
    (answer : ∀ env, envs env → env.provider.stations.run.value = .ok stations)
    {x y : Course × σ} (run : Run envs plan x y) (accounted : x.1.Accounted)
    (h : x.1.held.Perm (x.1.known stations)) : y.1.held.Perm (y.1.known stations) := by
  -- On the steps of the run.
  induction run with
  | refl => exact h
  | tail before step ih => exact step.held_known answer (Run.accounted before accounted) ih

/-! ## What is under way -/

/-- What holds of the tasks under way holds after a step, if it holds of a task that is taken up and
of one that goes on from the state before the step. -/
theorem Step.forall_running {P : Station × Phase → Prop} {x y : Course × σ}
    (step : Step envs plan x y) (h : ∀ e ∈ x.1.running, P e) (taken : ∀ s, P (s, .freshness))
    (gone : ∀ env, envs env → ∀ s p q st, P (s, p) → (env.step s p x.2).value = (.next q, st) →
      P (s, q)) : ∀ e ∈ y.1.running, P e := by
  -- Only three steps change what is under way.
  cases step with
  | takeUp _ _ =>
    intro e mem
    rcases List.mem_append.mp mem with old | new
    · exact h e old
    · obtain rfl := List.mem_singleton.mp new
      exact taken _
  | @goOn _ _ _ _ before after s p next met running phase =>
    rw [running] at h
    intro e mem
    rcases List.mem_append.mp mem with old | new
    · exact h e (by simp at old ⊢; tauto)
    · obtain rfl := List.mem_singleton.mp new
      exact gone _ met s p next _ (h (s, p) (by simp)) phase
  | finish _ running _ =>
    -- The tasks that are left were there before.
    rw [running] at h
    intro e mem
    exact h e (by simp at mem ⊢; tauto)
  | _ => exact h

/-! ## Every pass comes to its end -/

/-- A pass that is not over has a next step, whatever the provider and the store do. -/
theorem Course.Accounted.exists_step {c : Course} (h : c.Accounted) {env : Env σ} (met : envs env)
    (notEnded : ∀ result, c.duty ≠ .ended result) (st : σ) : ∃ y, Step envs plan (c, st) y := by
  cases duty : c.duty with
  | asking =>
    cases answer : env.provider.stations.run.value with
    | ok stations => exact ⟨_, .ask met duty answer⟩
    | error fault => exact ⟨_, .askInVain met duty answer⟩
  | counting =>
    -- A task that is done is counted, else one that is under way goes on, else one is taken up.
    match finished : c.finished, running : c.running, waiting : c.waiting with
    | e :: rest, _, _ =>
      have first : c.finished = [] ++ e :: rest := finished
      exact ⟨_, .count duty first⟩
    | [], (s, p) :: rest, _ =>
      have first : c.running = [] ++ (s, p) :: rest := running
      rcases phase : (env.step s p st).value with ⟨_ | o, next⟩
      · exact ⟨_, .goOn met first phase⟩
      · exact ⟨_, .finish met first phase⟩
    | [], [], s :: rest =>
      have first : c.waiting = [] ++ s :: rest := waiting
      have room : c.running.length < width plan.concurrency := by
        rw [running]
        exact width_pos _
      exact ⟨_, .takeUp first room⟩
    | [], [], [] =>
      have tasks := h.tasks
      simp only [finished, running, waiting, List.length_nil] at tasks
      exact ⟨_, .join duty (by omega)⟩
  | cleaning =>
    rcases answer : ((cleanUp env plan).runOn st).value with ⟨removal, next⟩
    exact ⟨_, .cleanUp met duty answer⟩
  | ended result => exact absurd duty (notEnded result)

/-- What the pass itself has yet to do once it knows the stations. -/
def Duty.left : Duty → Nat
  | .asking => 0
  | .counting => 2
  | .cleaning => 1
  | .ended _ => 0

/-- What is left for some stations under way: their phases, and being counted. -/
def stepsLeft : List (Station × Phase) → Nat
  | [] => 0
  | (_, p) :: rest => p.left + 2 + stepsLeft rest

/-- What is left for stations in two groups adds up. -/
@[simp] theorem stepsLeft_append (stations more : List (Station × Phase)) :
    stepsLeft (stations ++ more) = stepsLeft stations + stepsLeft more := by
  induction stations with
  | nil => simp [stepsLeft]
  | cons e rest ih => simp [stepsLeft, ih, Nat.add_assoc]

/-- What is left for a pass: whether it has to ask for the stations, and what is known to follow. A
waiting station has to be taken up, to go through its phases and to be counted. -/
def Course.rank (c : Course) : Nat × Nat :=
  (match c.duty with | .asking => 1 | _ => 0,
    7 * c.waiting.length + stepsLeft c.running + c.finished.length + c.duty.left)

/-- Every step brings a pass nearer to its end. -/
private theorem Step.rank_lt {x y : Course × σ} (step : Step envs plan x y) :
    Prod.Lex (· < ·) (· < ·) y.1.rank x.1.rank := by
  -- How much there is to do is not known before the answer, so that asking counts for more.
  cases step with
  | ask _ duty _ =>
    simp only [Course.rank, duty]
    exact .left _ _ Nat.zero_lt_one
  | askInVain _ duty _ =>
    simp only [Course.rank, duty]
    exact .left _ _ Nat.zero_lt_one
  -- Taking a station up costs one of the seven and leaves six for its phases and for being counted.
  | takeUp waiting _ =>
    refine .right _ ?_
    simp only [waiting, List.length_append, List.length_cons, stepsLeft_append, stepsLeft,
      Phase.left]
    omega
  -- The phase is used up.
  | goOn _ running phase =>
    have left := left_of_step phase
    refine .right _ ?_
    simp only [running, stepsLeft_append, stepsLeft]
    omega
  | finish _ running _ =>
    refine .right _ ?_
    simp only [running, stepsLeft_append, stepsLeft, List.length_append, List.length_cons,
      List.length_nil]
    omega
  | count _ finished =>
    refine .right _ ?_
    simp only [finished, List.length_append, List.length_cons]
    omega
  | join duty _ =>
    simp only [Course.rank, duty, Duty.left]
    exact .right _ (by omega)
  | cleanUp _ duty _ =>
    simp only [Course.rank, duty, Duty.left]
    exact .right _ (by omega)

/-- No run goes on for ever. -/
theorem wellFounded_step : WellFounded fun y x : Course × σ => Step envs plan x y :=
  -- The order of the ranks is lexicographic, and both of its parts are well-founded.
  Subrelation.wf (fun step => step.rank_lt)
    (InvImage.wf (fun x : Course × σ => x.1.rank)
      (WellFounded.prod_lex Nat.lt_wfRel.wf Nat.lt_wfRel.wf))

/-- Every run can be brought to an end. -/
theorem Run.exists_ended {env : Env σ} (met : envs env) (x : Course × σ) (h : x.1.Accounted) :
    ∃ y result, Run envs plan x y ∧ y.1.duty = .ended result := by
  -- By recursion on what is left: either the pass is over, or it takes a step and has less left.
  induction x using (@wellFounded_step σ envs plan).induction with
  | _ x ih =>
    by_cases ended : ∃ result, x.1.duty = .ended result
    · obtain ⟨result, ended⟩ := ended
      exact ⟨x, result, .refl, ended⟩
    · obtain ⟨y, step⟩ : ∃ y, Step envs plan x y :=
        h.exists_step met (fun r hr => ended ⟨r, hr⟩) x.2
      obtain ⟨z, result, run, hz⟩ := ih y step (step.accounted h)
      exact ⟨z, result, .head step run, hz⟩

end AirQuality.Sync
