import AirQuality.Proofs.Sync.Course
import AirQuality.Proofs.Store.History

/-!
# What becomes of a station

With a history as the store it can be told beforehand what becomes of a station and what is saved
of it: this depends on what the provider answers for the station, and on the measurements of the
station that are there when its work begins. No other station has a part in it.

## Key results

- `Env.verdict`: the outcome of a station at a phase, and the measurements that are saved of it
- `verdict_of_next`, `verdict_of_done`: a phase keeps the verdict, and the last one carries it out
- `value_proceed_eq_verdict`: so do all phases together
- `verdict_congr`: what the verdict depends on
-/

namespace AirQuality.Sync

variable {σ : Type}

/-! ## Verdicts -/

/-- The outcome of a station whose sensors are asked next, and what is saved of it. -/
def Env.verdictOfSensors (env : Env σ) (s : Station) (i : LiveIndex) : Outcome × List Measurement :=
  match (env.provider.measurements s.id).run.value >>= latestValues with
  | .ok values => (.saved, [Measurement.ofLive env.clock s.id s.name i values])
  | .error _ => (.failed, [])

/-- The outcome of a station whose live index is asked next, and what is saved of it. -/
def Env.verdictOfIndex (env : Env σ) (s : Station) : Outcome × List Measurement :=
  match (env.provider.index s.id).run.value with
  | .ok (some i) => env.verdictOfSensors s i
  | .ok none => (.skipped, [])
  | .error _ => (.failed, [])

/-- The outcome of a station at a phase, and what is saved of it. -/
def Env.verdict (env : Env σ) (s : Station) (h : History) : Phase → Outcome × List Measurement
  | .freshness =>
    match (env.clock.shift? (-env.freshness)).map (h.hasRecent? s.id) with
    | some (.ok true) => (.skipped, [])
    | some (.ok false) => env.verdictOfIndex s
    | _ => (.failed, [])
  | .index => env.verdictOfIndex s
  | .sensors i => env.verdictOfSensors s i
  | .saving m => (.saved, [m])

variable {env : Env History}

/-! ## Phases carry out the verdict -/

/-- The freshness check asks the history and leaves it as it is. -/
private theorem value_step_freshness_history (memory : env.store = History.store) (s : Station)
    (h : History) :
    (env.step s .freshness h).value =
      match (env.clock.shift? (-env.freshness)).map (h.hasRecent? s.id) with
      | some (.ok true) => (.done .skipped, h)
      | some (.ok false) => (.next .index, h)
      | _ => (.done .failed, h) := by
  rw [Env.value_step_freshness, memory]
  cases env.clock.shift? (-env.freshness) with
  | none => rfl
  | some threshold =>
    simp only [History.value_hasRecent, Option.map_some]
    rcases h.hasRecent? s.id threshold with _ | _ | _ <;> rfl

/-- Saving never fails. -/
private theorem value_step_saving_history (memory : env.store = History.store) (s : Station)
    (m : Measurement) (h : History) :
    (env.step s (.saving m) h).value = (.done .saved, (h.saveAll [m]).2) := by
  obtain ⟨saved, answer⟩ := History.value_save m h
  rw [Env.value_step_saving, memory, answer]

/-- A phase that leads to another one changes neither the history nor the verdict. -/
theorem verdict_of_next (memory : env.store = History.store) {s : Station} {p q : Phase}
    {h h' : History} (phase : (env.step s p h).value = (.next q, h')) :
    h' = h ∧ env.verdict s h q = env.verdict s h p := by
  -- A case per phase. The answer to its question is generalized, and decides on what follows.
  cases p with
  | freshness =>
    rw [value_step_freshness_history memory] at phase
    generalize gate : (env.clock.shift? (-env.freshness)).map (h.hasRecent? s.id) = g at phase
    rcases g with _ | _ | _ | _ <;> cases phase
    exact ⟨rfl, by simp only [Env.verdict, gate]⟩
  | index =>
    rw [Env.value_step_index] at phase
    generalize answer : (env.provider.index s.id).run.value = a at phase
    rcases a with _ | _ | _ <;> cases phase
    exact ⟨rfl, by simp only [Env.verdict, Env.verdictOfIndex, answer]⟩
  | sensors i =>
    rw [Env.value_step_sensors] at phase
    generalize answer : (env.provider.measurements s.id).run.value >>= latestValues = a at phase
    rcases a with _ | _ <;> cases phase
    exact ⟨rfl, by simp only [Env.verdict, Env.verdictOfSensors, answer]⟩
  | saving m =>
    rw [value_step_saving_history memory] at phase
    -- The saving is the last phase, so that it does not lead to another one.
    cases phase

/-- The last phase of a station has the outcome of the verdict, and saves what the verdict says. -/
theorem verdict_of_done (memory : env.store = History.store) {s : Station} {p : Phase}
    {o : Outcome} {h h' : History} (phase : (env.step s p h).value = (.done o, h')) :
    o = (env.verdict s h p).1 ∧ h' = (h.saveAll (env.verdict s h p).2).2 := by
  -- A case per phase again; all but the saving end without one.
  cases p with
  | freshness =>
    rw [value_step_freshness_history memory] at phase
    rw [Env.verdict]
    generalize (env.clock.shift? (-env.freshness)).map (h.hasRecent? s.id) = gate at phase ⊢
    -- A check that is passed leads to the index; in the other cases nothing is saved.
    rcases gate with _ | _ | _ | _ <;> cases phase <;>
      exact ⟨rfl, (History.saveAll_nil h).symm⟩
  | index =>
    rw [Env.value_step_index] at phase
    rw [Env.verdict, Env.verdictOfIndex]
    generalize (env.provider.index s.id).run.value = answer at phase ⊢
    rcases answer with _ | _ | _ <;> cases phase <;> exact ⟨rfl, (History.saveAll_nil h).symm⟩
  | sensors i =>
    rw [Env.value_step_sensors] at phase
    rw [Env.verdict, Env.verdictOfSensors]
    generalize (env.provider.measurements s.id).run.value >>= latestValues = answer at phase ⊢
    rcases answer with _ | _ <;> cases phase
    exact ⟨rfl, (History.saveAll_nil h).symm⟩
  | saving m =>
    rw [value_step_saving_history memory] at phase
    cases phase
    exact ⟨rfl, rfl⟩

/-- All phases of a station together carry out the verdict. -/
theorem value_proceed_eq_verdict (memory : env.store = History.store) (s : Station) {n : Nat}
    {p : Phase} (left : p.left ≤ n) (h : History) :
    (env.proceed s n p h).value =
      ((env.verdict s h p).1, (h.saveAll (env.verdict s h p).2).2) := by
  -- On how many phases are left. The measure rules out that there is none.
  induction n generalizing p with
  | zero => cases p <;> simp [Phase.left] at left
  | succ n ih =>
    rw [Env.value_proceed_succ]
    rcases phase : (env.step s p h).value with ⟨q | o, h'⟩
    · -- The verdict is handed on to the next phase, with one phase less to go.
      obtain ⟨rfl, kept⟩ := verdict_of_next memory phase
      have fewer : q.left ≤ n := by
        have := left_of_step phase
        omega
      rw [← kept]
      exact ih fewer
    · obtain ⟨outcome, saved⟩ := verdict_of_done memory phase
      rw [outcome, saved]

/-- A station is worked on as the verdict on its freshness check says. -/
theorem value_syncStation_eq_verdict (memory : env.store = History.store) (s : Station)
    (h : History) :
    (env.syncStation s h).value =
      ((env.verdict s h .freshness).1, (h.saveAll (env.verdict s h .freshness).2).2) :=
  value_proceed_eq_verdict memory s (Nat.le_refl Phase.freshness.left) h

/-! ## What the verdict depends on -/

/-- Two environments that a station does not tell apart. -/
structure Env.AgreesAt (env env' : Env σ) (s : Station) : Prop where
  store : env'.store = env.store
  clock : env'.clock = env.clock
  freshness : env'.freshness = env.freshness
  index : env'.provider.index s.id = env.provider.index s.id
  measurements : env'.provider.measurements s.id = env.provider.measurements s.id

/-- A station does not tell an environment from itself. -/
theorem Env.AgreesAt.refl (env : Env σ) (s : Station) : env.AgreesAt env s :=
  ⟨rfl, rfl, rfl, rfl, rfl⟩

/-- The verdict on a station depends on what the provider answers for this station and on the
measurements of this station. -/
theorem verdict_congr {env' : Env History} {s : Station} (agree : env.AgreesAt env' s)
    {h h' : History} (same : h'.recordsOf s.id = h.recordsOf s.id) (p : Phase) :
    env'.verdict s h' p = env.verdict s h p := by
  -- Each question that the verdict asks has the same answer.
  have gate : h'.hasRecent? s.id = h.hasRecent? s.id := by
    funext threshold
    rw [History.hasRecent?, same, History.hasRecent?]
  have sensors (i : LiveIndex) : env'.verdictOfSensors s i = env.verdictOfSensors s i := by
    rw [Env.verdictOfSensors, agree.measurements, agree.clock, Env.verdictOfSensors]
  have index : env'.verdictOfIndex s = env.verdictOfIndex s := by
    rw [Env.verdictOfIndex, agree.index, Env.verdictOfIndex]
    simp only [sensors]
  cases p with
  | freshness =>
    rw [Env.verdict, agree.clock, agree.freshness, gate, Env.verdict]
    simp only [index]
  | index => exact index
  | sensors i => exact sensors i
  | saving m => rfl

/-- Measurements that are saved of a station carry its number and have no identifier yet. -/
theorem saved_of_verdict {s : Station} {h : History} {m : Measurement}
    (hm : m ∈ (env.verdict s h .freshness).2) : m.stationId = s.id ∧ m.id = none := by
  -- Along the branches of the verdict; only one of them saves anything.
  simp only [Env.verdict, Env.verdictOfIndex, Env.verdictOfSensors] at hm
  split at hm
  · simp at hm
  · split at hm
    · split at hm
      · rw [List.mem_singleton.mp hm]
        exact ⟨rfl, rfl⟩
      · simp at hm
    · simp at hm
    · simp at hm
  · simp at hm

/-- Nothing is saved of a station that is not counted as saved. -/
theorem verdict_nothing_saved {s : Station} {h : History}
    (other : (env.verdict s h .freshness).1 ≠ .saved) : (env.verdict s h .freshness).2 = [] := by
  -- Along the same branches, of which all but one save nothing.
  simp only [Env.verdict, Env.verdictOfIndex, Env.verdictOfSensors] at other ⊢
  split
  · rfl
  · split
    · split
      · simp_all
      · rfl
    · rfl
    · rfl
  · rfl

end AirQuality.Sync
