import AirQuality.Proofs.Sync.Order
import AirQuality.Sync.Service

/-!
# Passes exclude each other

Whatever the order in which the calls to a service come, try the guard, go on with their passes and
end them, the guard is taken exactly while one of them runs its pass.

## Key results

- `Service.Exclusive`: the guard is taken while a pass runs, and no two passes run;
  `Service.Run.exclusive`: it holds throughout a run
- `Service.Telling`, `Service.Run.telling`: only the result of a refused call says that a pass was
  skipped, and such a call has never had a pass
- `exclusively_isRun`: the calls as they are computed make steps of the service
- `passes_exclude_each_other`: the whole statement
-/

namespace AirQuality.Sync

variable {σ : Type} {envs : Env σ → Prop} {plan : Plan}

/-- Whether a call looks as if it had had no pass: it has no report yet, or its report says that the
pass was skipped. -/
def Call.hadNoPass : Call → Bool
  | .waiting _ => true
  | .running _ => false
  | .ended (.ok report) => report.skippedPass
  | .ended (.error _) => false

/-- Whether the report of a call is one of a skipped pass for no other reason than that the call was
refused. -/
def Call.Truthful : Call → Prop
  | .running pass => ∀ report, pass.duty = .ended (.ok report) → report.skippedPass = false
  | .ended (.ok report) => report.skippedPass = true → report = .refused
  | _ => True

/-- No step makes the report of a pass one of a skipped pass. -/
private theorem Step.notSkipped {x y : Course × σ} (step : Step envs plan x y)
    (h : ∀ report, x.1.duty = .ended (.ok report) → report.skippedPass = false) :
    ∀ report, y.1.duty = .ended (.ok report) → report.skippedPass = false := by
  intro report ended
  -- Only the removal gives a report, and it takes that of the tasks, which skips nothing.
  cases step with
  | ask _ _ _ => cases ended
  | askInVain _ _ _ => cases ended
  | takeUp _ _ => exact h report ended
  | goOn _ _ _ => exact h report ended
  | finish _ _ _ => exact h report ended
  | count _ _ => exact h report ended
  | join _ _ => cases ended
  | @cleanUp _ c _ _ removal _ _ _ =>
    cases removal with
    | error fault => cases ended
    | ok removed =>
      cases ended
      show c.report.skippedPass = false
      rw [Course.report, Report.ofOutcomes_eq]

namespace Service

variable {x y : Service σ} {n k : Nat} {move : Move} {moves : List Move}

/-! ## The guard is taken while a pass runs -/

/-- The guard is taken exactly while the pass of a call runs, and no two passes run. -/
structure Exclusive (x : Service σ) : Prop where
  guard : x.guarded.isRunning = true ↔ ∃ n, x.Runs n
  single : ∀ m n, x.Runs m → x.Runs n → m = n

/-- Whether a call runs a pass depends on that call alone. -/
private theorem runs_congr (same : y.calls[k]? = x.calls[k]?) : y.Runs k ↔ x.Runs k := by
  unfold Runs
  rw [same]

/-- A new call does not run a pass yet. -/
private theorem runs_come (g : Guarded σ) (source : Source) :
    Runs ⟨g, x.calls ++ [.waiting source]⟩ k ↔ x.Runs k := by
  -- The new call has the first number that is free.
  rcases Nat.lt_trichotomy k x.calls.length with earlier | this | later
  · exact runs_congr (List.getElem?_append_left earlier)
  · subst this
    simp [Runs, Call.isRunning]
  · have beyond : (x.calls ++ [Call.waiting source]).length ≤ k := by
      rw [List.length_append, List.length_singleton]
      omega
    refine runs_congr ?_
    rw [List.getElem?_eq_none beyond, List.getElem?_eq_none (by omega)]

/-- A step of a call makes a difference to this call only. -/
private theorem runs_set {old call : Call} (present : x.calls[n]? = some old) (g : Guarded σ) :
    Runs ⟨g, x.calls.set n call⟩ k ↔ if k = n then call.isRunning = true else x.Runs k := by
  have bound : n < x.calls.length := (List.getElem?_eq_some_iff.mp present).1
  -- The call itself is known from what has been set, any other one from before.
  split
  · rename_i this
    subst this
    simp [Runs, List.getElem?_set_self bound]
  · rename_i other
    exact runs_congr (List.getElem?_set_ne (Ne.symm other))

/-- Before the first call the guard is free and no pass runs. -/
private theorem exclusive_idle (st : σ) : (idle st).Exclusive := by
  refine ⟨?_, ?_⟩ <;> simp [idle, Guarded.free, Runs]

/-- Nothing but the calls matters to the guard. -/
theorem Exclusive.congr (h : x.Exclusive) (guard : y.guarded.isRunning = x.guarded.isRunning)
    (runs : ∀ k, y.Runs k ↔ x.Runs k) : y.Exclusive := by
  refine ⟨?_, fun m n hm hn => h.single m n ((runs m).mp hm) ((runs n).mp hn)⟩
  rw [guard, h.guard]
  exact exists_congr fun k => (runs k).symm

/-- No pass runs any more once the one that runs has ended. -/
theorem Exclusive.free {pass : Course} (h : x.Exclusive) (call : x.calls[n]? = some (.running pass))
    (result : Except Fault Report) (st : σ) :
    Exclusive ⟨.free st, x.calls.set n (.ended result)⟩ := by
  -- The call that has ended was the only one, so that none is left.
  have none (k : Nat) : ¬ Runs ⟨.free st, x.calls.set n (.ended result)⟩ k := by
    rw [runs_set call]
    split
    · simp [Call.isRunning]
    · rename_i other
      exact fun runs => other (h.single k n runs ⟨_, call, rfl⟩)
  refine ⟨?_, fun m _ hm _ => absurd hm (none m)⟩
  refine iff_of_false (by simp [Guarded.free]) ?_
  rintro ⟨k, runs⟩
  exact none k runs

/-- A call that tries the guard has it afterwards, unless another one had it before. -/
private theorem Step.enter_eq (step : Step envs plan (.enter n) x y) :
    ∃ source, x.calls[n]? = some (.waiting source) ∧
      y = ⟨⟨true, x.guarded.inner⟩, x.calls.set n
        (if x.guarded.isRunning then .ended (.ok .refused) else .running .start)⟩ := by
  -- The guard answers whether it was free, and is taken after that in both cases.
  cases step with
  | enter call answer =>
    rw [Guarded.value_runOn_enter] at answer
    cases answer
    refine ⟨_, call, ?_⟩
    cases x.guarded.isRunning <;> rfl

/-- A call that has not entered does not run a pass. -/
private theorem not_runs_of_waiting {source : Source} (call : x.calls[n]? = some (.waiting source)) :
    ¬ x.Runs n := by
  rintro ⟨_, present, running⟩
  rw [call] at present
  cases present
  cases running

/-- The guard goes to the call that has found it free. -/
theorem Exclusive.enter {source : Source} (h : x.Exclusive)
    (call : x.calls[n]? = some (.waiting source)) :
    Exclusive ⟨⟨true, x.guarded.inner⟩, x.calls.set n
      (if x.guarded.isRunning then .ended (.ok .refused) else .running .start)⟩ := by
  cases taken : x.guarded.isRunning with
  | true =>
    -- The call is refused, and the pass that runs is another one's.
    refine h.congr taken.symm fun k => ?_
    rw [runs_set call]
    split
    · rename_i this
      subst this
      exact iff_of_false (by simp [Call.isRunning]) (not_runs_of_waiting call)
    · rfl
  | false =>
    -- No pass runs, so that the one of this call is the only one from now on.
    have others (k : Nat) : ¬ x.Runs k := by
      intro runs
      have busy := h.guard.mpr ⟨k, runs⟩
      rw [taken] at busy
      cases busy
    have only (k : Nat) : Runs ⟨⟨true, x.guarded.inner⟩, x.calls.set n (.running .start)⟩ k ↔
        k = n := by
      rw [runs_set call]
      split
      · rename_i this
        exact iff_of_true rfl this
      · rename_i other
        exact iff_of_false (others k) other
    refine ⟨iff_of_true rfl ⟨n, (only n).mpr rfl⟩, fun j k hj hk => ?_⟩
    rw [(only j).mp hj, (only k).mp hk]

/-- The guard goes with the running pass in every step. -/
theorem Step.exclusive (step : Step envs plan move x y) (h : x.Exclusive) : y.Exclusive := by
  -- A case per move. A pass goes on or ends at the call that holds the guard.
  cases step with
  | come source => exact h.congr rfl fun k => runs_come _ source
  | enter call answer =>
    have entering : Step envs plan (.enter _) x _ := .enter call answer
    obtain ⟨source, call, same⟩ := entering.enter_eq
    rw [same]
    exact h.enter call
  | work call _ =>
    -- The pass of this call has been running before the step, too.
    refine h.congr rfl fun k => ?_
    rw [runs_set call]
    split
    · rename_i this
      subst this
      exact iff_of_true rfl ⟨_, call, rfl⟩
    · rfl
  | leave call _ => exact h.free call _ _
  | breakOff fault call => exact h.free call _ _
  | elsewhere st => exact h.congr rfl fun _ => runs_congr rfl

/-- The guard goes with the running pass in every run. -/
theorem Run.exclusive {st : σ} (run : Run envs plan (idle st) moves x) : x.Exclusive := by
  -- On the steps of the run.
  induction run with
  | none => exact exclusive_idle st
  | step _ step ih => exact step.exclusive ih

/-! ## What results tell -/

/-- What calls look like tells what they have done: a report of a skipped pass is that of a refused
call, and a call that looks as if it had had no pass has made no step of one. -/
structure Telling (moves : List Move) (x : Service σ) : Prop where
  truthful : ∀ call ∈ x.calls, call.Truthful
  untouched : ∀ n, (∀ call, x.calls[n]? = some call → call.hadNoPass = true) → .work n ∉ moves

/-- Before the first call there is nothing to tell. -/
private theorem telling_idle (st : σ) : Telling [] (idle st) := ⟨by simp [idle], by simp⟩

/-- A step that makes a difference to one call leaves it telling what the call has done. -/
theorem Telling.set (h : Telling moves x) {old call : Call} (present : x.calls[n]? = some old)
    (g : Guarded σ) (truthful : call.Truthful)
    (worked : call.hadNoPass = true → old.hadNoPass = true ∧ move ≠ .work n)
    (others : ∀ k, k ≠ n → move ≠ .work k) :
    Telling (moves ++ [move]) ⟨g, x.calls.set n call⟩ := by
  have bound : n < x.calls.length := (List.getElem?_eq_some_iff.mp present).1
  have same : (x.calls.set n call)[n]? = some call := List.getElem?_set_self bound
  have other {k : Nat} (hk : k ≠ n) : (x.calls.set n call)[k]? = x.calls[k]? :=
    List.getElem?_set_ne hk.symm
  refine ⟨fun call' mem => ?_, fun k looks => ?_⟩
  · rcases List.mem_or_eq_of_mem_set mem with there | rfl
    · exact h.truthful call' there
    · exact truthful
  · rw [List.mem_append, List.mem_singleton, not_or]
    -- Of the call itself the earlier steps are known, and other calls look as they did before.
    by_cases hk : k = n
    · subst hk
      obtain ⟨before, notNow⟩ := worked (looks call same)
      refine ⟨h.untouched k fun call' at_k => ?_, fun eq => notNow eq.symm⟩
      rw [present] at at_k
      exact Option.some.inj at_k ▸ before
    · refine ⟨h.untouched k fun call' at_k => looks call' ((other hk).trans at_k), fun eq => ?_⟩
      exact others k hk eq.symm

/-- What calls look like goes on telling what they have done. -/
theorem Step.telling (step : Step envs plan move x y) (h : Telling moves x) :
    Telling (moves ++ [move]) y := by
  cases step with
  -- The new call has no result, and the others look as they did.
  | come source =>
    refine ⟨fun call mem => ?_, fun k looks => ?_⟩
    · rcases List.mem_append.mp mem with there | new
      · exact h.truthful call there
      · rw [List.mem_singleton.mp new]
        trivial
    · rw [List.mem_append, List.mem_singleton, not_or]
      refine ⟨h.untouched k fun call at_k => looks call ?_, by simp⟩
      rw [List.getElem?_append_left (List.getElem?_eq_some_iff.mp at_k).1, at_k]
  -- What the call becomes depends on the guard: refused, or with a pass that has made no step.
  | enter call answer =>
    have entering : Step envs plan (.enter _) x _ := .enter call answer
    obtain ⟨source, call, same⟩ := entering.enter_eq
    rw [same]
    refine h.set call _ ?_ (fun _ => ⟨rfl, by simp⟩) (by simp)
    cases x.guarded.isRunning with
    | true => exact fun _ => rfl
    | false => exact fun report ended => by cases ended
  | work call step =>
    refine h.set call _ ?_ (fun none => ?_) (fun k other same => ?_)
    · exact step.notSkipped (h.truthful _ (List.mem_of_getElem? call))
    · cases none
    · exact other (Move.work.inj same).symm
  | @leave _ n pass result call ended =>
    have honest : ∀ report, pass.duty = .ended (.ok report) → report.skippedPass = false :=
      h.truthful _ (List.mem_of_getElem? call)
    cases result with
    | error fault => exact h.set call _ trivial (fun none => by cases none) (by simp)
    | ok report =>
      -- The report is that of a pass, and so it does not say that the pass was skipped.
      have notSkipped := honest report ended
      refine h.set call _ (fun skipped => ?_) (fun (none : report.skippedPass = true) => ?_)
        (by simp)
      · rw [notSkipped] at skipped
        cases skipped
      · rw [notSkipped] at none
        cases none
  | breakOff fault call => exact h.set call _ trivial (fun none => by cases none) (by simp)
  | elsewhere st =>
    refine ⟨h.truthful, fun k looks => ?_⟩
    rw [List.mem_append, List.mem_singleton, not_or]
    exact ⟨h.untouched k looks, by simp⟩

/-- What calls look like tells what they have done, in every run. -/
theorem Run.telling {st : σ} (run : Run envs plan (idle st) moves x) : Telling moves x := by
  induction run with
  | none => exact telling_idle st
  | step _ step ih => exact step.telling ih

/-- After a step of a call the calls are the same but for this one. -/
private theorem eq_or_getElem?_of_set {calls : List Call} {m n : Nat} {call call' : Call}
    (h : (calls.set m call)[n]? = some call') : m = n ∧ call' = call ∨ calls[n]? = some call' := by
  by_cases this : m = n
  · subst this
    have bound : m < calls.length := by simpa using (List.getElem?_eq_some_iff.mp h).1
    rw [List.getElem?_set_self bound] at h
    exact .inl ⟨rfl, (Option.some.inj h).symm⟩
  · rw [List.getElem?_set_ne this] at h
    exact .inr h

/-- A call whose report says that the pass was skipped has tried the guard while another pass was
running. -/
private theorem Run.busy_of_skipped {st : σ} (run : Run envs plan (idle st) moves x)
    {report : Report} (call : x.calls[n]? = some (.ended (.ok report)))
    (skipped : report.skippedPass = true) :
    ∃ before after z, moves = before ++ .enter n :: after ∧ Run envs plan (idle st) before z ∧
      ∃ k, z.Runs k := by
  -- On the steps of the run. Whoever has the report has it from its own try of the guard.
  induction run with
  | none => simp [idle] at call
  | @step moves move y z before step ih =>
    -- Either the call had this report before, or this step has given it to the call.
    by_cases earlier : y.calls[n]? = some (.ended (.ok report))
    · obtain ⟨first, after, w, rfl, run, busy⟩ := ih earlier
      exact ⟨first, after ++ [move], w, by simp, run, busy⟩
    · cases step with
      | come source =>
        rw [List.getElem?_append] at call
        split at call
        · exact absurd call earlier
        · have mem := List.mem_singleton.mp (List.mem_of_getElem? call)
          cases mem
      | enter present answer =>
        have entering : Step envs plan (.enter _) y _ := .enter present answer
        obtain ⟨source, _, same⟩ := entering.enter_eq
        rw [same] at call
        rcases eq_or_getElem?_of_set call with ⟨rfl, this⟩ | there
        · cases taken : y.guarded.isRunning with
          | true => exact ⟨moves, [], y, rfl, before, before.exclusive.guard.mp taken⟩
          | false => simp [taken] at this
        · exact absurd there earlier
      | work _ _ =>
        rcases eq_or_getElem?_of_set call with ⟨_, this⟩ | there
        · cases this
        · exact absurd there earlier
      | leave present ended =>
        rcases eq_or_getElem?_of_set call with ⟨_, this⟩ | there
        · cases this
          have notSkipped := before.telling.truthful _ (List.mem_of_getElem? present) report ended
          rw [notSkipped] at skipped
          cases skipped
        · exact absurd there earlier
      | breakOff _ _ =>
        rcases eq_or_getElem?_of_set call with ⟨_, this⟩ | there
        · cases this
        · exact absurd there earlier
      | elsewhere _ => exact absurd call earlier

end Service

/-! ## Calls as they are computed -/

/-- The steps of a pass are steps of the call that runs it. -/
private theorem run_works {x : Service σ} {n : Nat} {pass : Course}
    (call : x.calls[n]? = some (.running pass)) {y : Course × σ}
    (run : Run envs plan (pass, x.guarded.inner) y) :
    ∃ moves, Service.Run envs plan x moves
      ⟨{ x.guarded with inner := y.2 }, x.calls.set n (.running y.1)⟩ := by
  obtain ⟨bound, there⟩ := List.getElem?_eq_some_iff.mp call
  -- The guard stays with the call, and the other calls wait.
  induction run with
  | refl =>
    refine ⟨[], ?_⟩
    rw [← there, List.set_getElem_self bound]
    exact .none
  | @tail y z _ step ih =>
    obtain ⟨moves, run⟩ := ih
    have work : Service.Step envs plan (.work n)
        ⟨{ x.guarded with inner := y.2 }, x.calls.set n (.running y.1)⟩
        ⟨{ x.guarded with inner := z.2 }, (x.calls.set n (.running y.1)).set n (.running z.1)⟩ :=
      .work (List.getElem?_set_self bound) step
    rw [List.set_set] at work
    exact ⟨_, .step run work⟩

/-- A call that is the last one is replaced at the end. -/
private theorem set_last (calls : List Call) (call call' : Call) :
    (calls ++ [call]).set calls.length call' = calls ++ [call'] := by
  simp [List.set_append_right]

/-- Runs of a service may follow each other. -/
theorem Service.Run.trans {x y z : Service σ} {moves more : List Move}
    (first : Service.Run envs plan x moves y) (second : Service.Run envs plan y more z) :
    Service.Run envs plan x (moves ++ more) z := by
  -- On the second of the two runs.
  induction second with
  | none => rwa [List.append_nil]
  | step _ step ih =>
    rw [← List.append_assoc]
    exact .step ih step

/-- A call that makes all of its steps at once is a call to the service. -/
theorem exclusively_isRun (env : Env σ) (plan : Plan) (source : Source) (x : Service σ) :
    ∃ moves, Service.Run (· = env) plan x moves
      ⟨((Guarded.exclusively source (runPass env plan)).runOn x.guarded).value.2, x.calls ++
        [.ended ((Guarded.exclusively source (runPass env plan)).runOn x.guarded).value.1]⟩ := by
  rw [Guarded.value_runOn_exclusively]
  have come : Service.Run (· = env) plan x [.come source]
      { x with calls := x.calls ++ [.waiting source] } := .step .none (.come source)
  have waits : (x.calls ++ [.waiting source])[x.calls.length]? = some (.waiting source) :=
    List.getElem?_concat_length
  -- The guard is either taken or free, and the new call has the last number.
  rcases x with ⟨⟨taken, inner⟩, calls⟩
  cases taken with
  | true =>
    -- The call is refused as soon as it tries the guard.
    have enter := Service.Run.step come (.enter waits (Guarded.value_runOn_enter source _))
    rw [set_last] at enter
    exact ⟨_, enter⟩
  | false =>
    have enter := Service.Run.step come (.enter waits (Guarded.value_runOn_enter source _))
    rw [set_last] at enter
    -- The computed pass is one of the runs, and the call makes its steps.
    obtain ⟨pass, run, ended⟩ := runPass_isRun env plan inner
    have runs : (calls ++ [.running .start])[calls.length]? = some (.running .start) :=
      List.getElem?_concat_length
    obtain ⟨works, worked⟩ := run_works (x := ⟨⟨true, inner⟩, calls ++ [.running .start]⟩) runs run
    rw [set_last] at worked
    have leave := Service.Run.step worked (.leave List.getElem?_concat_length ended)
    rw [set_last] at leave
    exact ⟨_, enter.trans leave⟩

/-! ## The whole statement -/

/-- Calls to one service, whatever the order of their steps and however their passes end. At most
one pass runs, and the guard is taken exactly while one runs. A call that tries the guard does
nothing but logging in that step; it is refused if a pass runs, and else its own pass runs
from then on. A report of a skipped pass is empty, and its call has tried the guard while another
pass was running and has made no step of a pass. -/
theorem passes_exclude_each_other {st : σ} {moves : List Move} {x : Service σ}
    (run : Service.Run envs plan (.idle st) moves x) :
    (∀ m n, x.Runs m → x.Runs n → m = n) ∧
    (x.guarded.isRunning = true ↔ ∃ n, x.Runs n) ∧
    (∀ n source, x.calls[n]? = some (.waiting source) →
      (∀ e ∈ ((Guarded.enter source).runOn x.guarded).events, e.isLogged = true) ∧
      (∃ y, Service.Step envs plan (.enter n) x y) ∧
      ∀ y, Service.Step envs plan (.enter n) x y →
        y.guarded.inner = x.guarded.inner ∧
        (y.calls[n]? = some (.ended (.ok ⟨0, 0, 0, false, true⟩)) ↔ ∃ k, x.Runs k) ∧
        (y.calls[n]? = some (.running .start) ↔ ¬ ∃ k, x.Runs k)) ∧
    ∀ n report, x.calls[n]? = some (.ended (.ok report)) → report.skippedPass = true →
      report = ⟨0, 0, 0, false, true⟩ ∧ .work n ∉ moves ∧
      ∃ before after z, moves = before ++ .enter n :: after ∧
        Service.Run envs plan (.idle st) before z ∧ ∃ k, z.Runs k := by
  have exclusive := run.exclusive
  have telling := run.telling
  -- The first two parts are the invariants. Of a waiting call its try is followed, and of a report
  -- the run that led to it.
  refine ⟨exclusive.single, exclusive.guard, fun n source waits => ⟨?_, ?_, fun y step => ?_⟩,
    fun n report call skipped => ⟨?_, ?_, run.busy_of_skipped call skipped⟩⟩
  · exact Guarded.logged_of_enter source x.guarded
  · exact ⟨_, .enter waits (Guarded.value_runOn_enter source x.guarded)⟩
  · obtain ⟨_, _, rfl⟩ := step.enter_eq
    have bound : n < x.calls.length := (List.getElem?_eq_some_iff.mp waits).1
    rw [← exclusive.guard, List.getElem?_set_self bound]
    cases x.guarded.isRunning with
    | true => simp [Report.refused]
    | false => simp
  · exact telling.truthful _ (List.mem_of_getElem? call) skipped
  · refine telling.untouched n fun call' present => ?_
    rw [call] at present
    cases present
    exact skipped

/-- A second call is refused while the pass of the first one runs, and a third one runs a pass after
the first one has broken off. -/
theorem passes_exclude_each_other_threeCalls :
    ∃ moves x,
      Service.Run (· = twoStations History.store) usualPlan (.idle yearOldHistory) moves x ∧
      x.calls[1]? = some (.ended (.ok ⟨0, 0, 0, false, true⟩)) ∧ .work 1 ∉ moves ∧
      x.guarded.isRunning = true ∧ x.Runs 2 ∧ ∀ n, x.Runs n → n = 2 := by
  have first : Service.Run (· = twoStations History.store) usualPlan (.idle yearOldHistory) _ _ :=
    .step (.step .none (.come .scheduled)) (.enter (n := 0) rfl (Guarded.value_runOn_enter _ _))
  have second := Service.Run.step (.step first (.come .manual))
    (.enter (n := 1) rfl (Guarded.value_runOn_enter _ _))
  have broken := Service.Run.step second (.breakOff (n := 0) .outOfRange rfl)
  have third := Service.Run.step (.step broken (.come .scheduled))
    (.enter (n := 2) rfl (Guarded.value_runOn_enter _ _))
  -- The general statement, at the run of the three calls.
  obtain ⟨single, guard, _, reports⟩ := passes_exclude_each_other third
  obtain ⟨_, untouched, _⟩ := reports 1 _ rfl rfl
  exact ⟨_, _, third, rfl, untouched, guard.mpr ⟨2, _, rfl, rfl⟩, ⟨_, rfl, rfl⟩,
    fun n other => single n 2 other ⟨_, rfl, rfl⟩⟩

end AirQuality.Sync
