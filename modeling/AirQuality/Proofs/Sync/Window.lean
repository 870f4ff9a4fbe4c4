import AirQuality.Proofs.Sync.Gate
import AirQuality.Proofs.Sync.Order

/-!
# Passes within the freshness window

A station that was saved is not saved again as long as its measurement is recent. What counts is the
date of the measurement, which is that of the live index. A measurement that is dated long before
the time of its pass is no obstacle to the next pass.

## Key results

- `Run.recorded`: what a pass has saved is in the history, if it is from the retention period
- `Run.shut`: a pass does not save a station whose gate is closed from the beginning
- `not_saved_again_in_window`: no later pass saves the station while its measurement is recent
- `saved_again_with_old_index`: a window from the time of the pass would not do
-/

namespace AirQuality.Sync

open Time

variable {plan : Plan} {t : Moment} {envs : Env (History × List NotedCall) → Prop}

/-! ## What is saved is recorded -/

/-- What has been saved is in the history, if it is from the retention period. -/
def Recorded (period : Int) (t : Moment) (x : History × List NotedCall) : Prop :=
  ∀ m ∈ savedIn x.2, IsWithin period t m.date →
    ∃ kept ∈ x.1.records, kept.stationId = m.stationId ∧ kept.date = m.date

/-- A phase records what it saves, and loses nothing. -/
private theorem recorded_of_phase {period : Int} {env : Env (History × List NotedCall)}
    (memory : env.store = History.store.watched) {s : Station} {p : Phase} {progress : Progress}
    {x x' : History × List NotedCall} (phase : (env.step s p x).value = (progress, x'))
    (h : Recorded period t x) : Recorded period t x' := by
  obtain ⟨before, calls⟩ := x
  obtain ⟨after, calls'⟩ := x'
  intro m saved within
  rcases phase_cases memory phase with ⟨new, _, _, rfl, appended⟩ | ⟨rfl, same⟩
  · -- What was recorded is still there, and the new measurement is put behind it.
    rw [appended, List.mem_append] at saved
    obtain ⟨put, grown, station, date⟩ := before.exists_saved new
    rcases saved with old | just
    · obtain ⟨kept, mem, own⟩ := h m old within
      refine ⟨kept, ?_, own⟩
      rw [grown]
      exact List.mem_append_left _ mem
    · obtain rfl := List.mem_singleton.mp just
      refine ⟨put, ?_, station, date⟩
      rw [grown]
      exact List.mem_append_right _ List.mem_cons_self
  · rw [same] at saved
    exact h m saved within

/-- So does a step, the removal included. -/
theorem Step.recorded (at_t : ∀ env, envs env → env.WorksAt t plan)
    {x y : Course × (History × List NotedCall)} (step : Step envs plan x y)
    (h : Recorded plan.retention t x.2) : Recorded plan.retention t y.2 := by
  -- Phases put measurements behind the others, and the removal takes old ones away.
  cases step with
  | goOn met _ phase => exact recorded_of_phase (at_t _ met).store phase h
  | finish met _ phase => exact recorded_of_phase (at_t _ met).store phase h
  | cleanUp met _ answer =>
    intro m saved within
    -- The removal saves nothing, and takes nothing away that is from the retention period.
    rw [savedIn_of_cleanUp (at_t _ met).store answer] at saved
    obtain ⟨kept, mem, station, date⟩ := h m saved within
    have stays := mem_of_cleanUp (at_t _ met) answer mem (by rwa [date])
    exact ⟨kept, stays, station, date⟩
  | _ => exact h

/-- What a pass has saved is in the history, in any order of the steps. -/
theorem Run.recorded (at_t : ∀ env, envs env → env.WorksAt t plan) {h : History}
    {y : Course × (History × List NotedCall)} (run : Run envs plan (.start, (h, [])) y) :
    Recorded plan.retention t y.2 := by
  induction run with
  | refl => simp [Recorded, savedIn]
  | tail _ step ih => exact step.recorded at_t ih

/-! ## A gate that is closed from the beginning -/

/-- The gate of a station is closed: the history has a recent measurement of it, the tasks of the
station are in front of the gate, and nothing has been saved of it. -/
structure Shut (plan : Plan) (t : Moment) (id : Int) (x : Course × (History × List NotedCall)) :
    Prop where
  barred : Barred plan.freshness t id x.2.1
  atGate : ∀ e ∈ x.1.running, e.1.id = id → e.2 = .freshness
  unsaved : ∀ m ∈ savedIn x.2.2, m.stationId ≠ id

/-- A history with a recent measurement has one after a step, since what is recent is kept. -/
theorem Step.barred (at_t : ∀ env, envs env → env.WorksAt t plan)
    (order : plan.freshness ≤ plan.retention) {id : Int}
    {x y : Course × (History × List NotedCall)} (step : Step envs plan x y)
    (h : Barred plan.freshness t id x.2.1) : Barred plan.freshness t id y.2.1 := by
  obtain ⟨m, mem, own, recent⟩ := h
  exact ⟨m, step.mem_records at_t mem (recent.mono order), own, recent⟩

/-- A closed gate stays closed in any order of the steps. -/
theorem Step.shut (at_t : ∀ env, envs env → env.WorksAt t plan)
    (order : plan.freshness ≤ plan.retention) {id : Int}
    {x y : Course × (History × List NotedCall)} (step : Step envs plan x y)
    (carries : ∀ e ∈ x.1.running, e.2.Carries (fun _ => True) e.1) (h : Shut plan t id x) :
    Shut plan t id y := by
  -- The three parts: what is recent stays, no task passes the gate, and nothing is saved.
  refine ⟨step.barred at_t order h.barred, ?_, ?_⟩
  · refine step.forall_running h.atGate (fun _ _ => rfl) fun env met s p q st inFront phase own => ?_
    -- A task of the station that goes on would have passed the gate.
    obtain rfl := inFront own
    have barred : Barred plan.freshness t s.id x.2.1 := own ▸ h.barred
    exact absurd phase (gate_closed (at_t env met) barred)
  · rcases step.saves fun env met => (at_t env met).store with same | ⟨s, m, saving, appended⟩
    · rw [same]
      exact h.unsaved
    · rw [appended]
      intro m' mem own
      rcases List.mem_append.mp mem with old | new
      · exact h.unsaved m' old own
      · -- The measurement is of the station of its task, which is past the gate.
        obtain rfl := List.mem_singleton.mp new
        obtain ⟨station, _⟩ := carries (s, .saving m') saving
        have inFront := h.atGate (s, .saving m') saving (station ▸ own)
        cases inFront

/-- A gate that is closed at the beginning of a pass is closed throughout it. -/
theorem Run.shut (at_t : ∀ env, envs env → env.WorksAt t plan)
    (order : plan.freshness ≤ plan.retention) {id : Int} {h : History}
    (barred : Barred plan.freshness t id h) {y : Course × (History × List NotedCall)}
    (run : Run envs plan (.start, (h, [])) y) : Shut plan t id y := by
  -- On the steps of the run.
  induction run with
  | refl => exact ⟨barred, by simp [Course.start], by simp [savedIn]⟩
  | tail before step ih =>
    exact step.shut at_t order (Run.carries (fun _ _ _ _ _ => trivial) before) ih

/-! ## Passes that follow each other -/

/-- A whole pass at a time, what it saves, and the history after it. The provider may be any, and
the steps of the pass are made in any order. -/
def PassAt (plan : Plan) (t : Moment) (h : History) (saved : List Measurement) (h' : History) :
    Prop :=
  ∃ envs c calls result, (∀ env, envs env → Env.WorksAt env t plan) ∧
    Run envs plan (.start, (h, [])) (c, (h', calls)) ∧ c.duty = .ended result ∧
    saved = savedIn calls

/-- Any number of passes, one after the other, none of them later than a time. -/
abbrev PassesUpTo (plan : Plan) (t : Moment) : History → History → Prop :=
  Relation.ReflTransGen fun h h' => ∃ t' saved, t'.le? t = some true ∧ PassAt plan t' h saved h'

/-- What a pass has saved keeps the gate closed as long as it is recent. -/
theorem PassAt.barred {t' : Moment} {h h' : History} {saved : List Measurement} {m : Measurement}
    (pass : PassAt plan t' h saved h') (order : plan.freshness ≤ plan.retention)
    (earlier : t'.le? t = some true) (mem : m ∈ saved) (recent : IsWithin plan.freshness t m.date) :
    Barred plan.freshness t m.stationId h' := by
  obtain ⟨envs, c, calls, result, at_t', run, _, rfl⟩ := pass
  obtain ⟨kept, there, station, date⟩ :=
    Run.recorded at_t' run m mem ((recent.earlier earlier).mono order)
  exact ⟨kept, there, station, by rwa [date]⟩

/-- Passes keep what is recent. -/
theorem PassesUpTo.barred {id : Int} {h h' : History} (passes : PassesUpTo plan t h h')
    (order : plan.freshness ≤ plan.retention) (barred : Barred plan.freshness t id h) :
    -- On the passes, one after the other.
    Barred plan.freshness t id h' := by
  induction passes with
  | refl => exact barred
  | tail _ pass ih =>
    obtain ⟨t', saved, earlier, envs, c, calls, result, at_t', run, _, _⟩ := pass
    obtain ⟨m, mem, own, recent⟩ := ih
    -- What is recent later on is from the retention period at the time of an earlier pass.
    exact ⟨m, run.mem_records at_t' mem ((recent.earlier earlier).mono order), own, recent⟩

/-- If a pass saves a measurement of a station, no later pass saves the station again as long as the
date of the measurement is within the freshness window at its time, provided that measurements are
kept at least for the freshness window. Other passes may come between the two. -/
theorem not_saved_again_in_window {t₁ t₂ : Moment} {h₀ h₁ h₂ h₃ : History}
    {saved saved' : List Measurement} {m : Measurement} (order : plan.freshness ≤ plan.retention)
    (first : PassAt plan t₁ h₀ saved h₁) (mem : m ∈ saved) (between : PassesUpTo plan t₂ h₁ h₂)
    (later : t₁.le? t₂ = some true) (window : IsWithin plan.freshness t₂ m.date)
    (last : PassAt plan t₂ h₂ saved' h₃) : ∀ m' ∈ saved', m'.stationId ≠ m.stationId := by
  -- The gate is closed when the last pass begins, and remains closed in it.
  have barred := between.barred order (first.barred order later mem window)
  obtain ⟨envs, c, calls, result, at_t, run, _, rfl⟩ := last
  exact (Run.shut at_t order barred run).unsaved

/-! ## Two passes over one station -/

/-- A pass that is computed in the order of the stations is a pass at a time. -/
private theorem passAt_passInOrder {env : Env (History × List NotedCall)} {stations : List Station}
    (at_t : env.WorksAt t plan) (answer : env.provider.stations.run.value = .ok stations)
    (single : plan.concurrency ≤ 1) (h : History) :
    PassAt plan t h (savedIn (env.passInOrder plan stations (h, [])).2.2)
      (env.passInOrder plan stations (h, [])).2.1 := by
  obtain ⟨c, run, ended⟩ := runPass_isRun env plan (h, [])
  rw [value_runPass_inOrder answer single] at run ended
  refine ⟨(· = env), c, _, _, ?_, run, ended, rfl⟩
  rintro _ rfl
  exact at_t

/-- The usual settings with one station at a time. -/
def oneByOne : Plan := { usualPlan with concurrency := 1 }

/-- Work on one station at a time, whose live index is dated at a moment. -/
def withIndexOf (date t : Moment) : Env (History × List NotedCall) where
  provider :=
    { stations := pure [numbered 1]
      index := fun _ => pure (some ⟨1, date, some "Dobry", none, none, none⟩)
      measurements := fun _ => pure [] }
  store := History.store.watched
  clock := t
  freshness := oneByOne.freshness

/-- The computed pass with such an index is a pass at its time. -/
private theorem passAt_withIndexOf (date t : Moment) (h : History) :
    PassAt oneByOne t h
      (savedIn ((withIndexOf date t).passInOrder oneByOne [numbered 1] (h, [])).2.2)
      ((withIndexOf date t).passInOrder oneByOne [numbered 1] (h, [])).2.1 := by
  have at_t : (withIndexOf date t).WorksAt t oneByOne := ⟨rfl, rfl, rfl⟩
  have single : oneByOne.concurrency ≤ 1 := by decide
  exact passAt_passInOrder at_t rfl single h

/-- The time fifty minutes into the year 2026, at UTC. -/
def fiftyMinutesOn : Moment :=
  ⟨⟨(Civil.mk 2026 1 1).dayNumber * dayMicros + 50 * minuteMicros, by decide⟩, some .zero⟩

/-- The time an hour before the year 2026, at UTC. -/
def anHourBefore : Moment :=
  ⟨⟨(Civil.mk 2026 1 1).dayNumber * dayMicros - hourMicros, by decide⟩, some .zero⟩

/-- A station that is saved at the beginning of the year is not saved fifty minutes later, if its
index was calculated at the beginning of the year. -/
theorem not_saved_again_fiftyMinutesOn :
    oneByOne.freshness ≤ oneByOne.retention ∧ newYear2026.le? fiftyMinutesOn = some true ∧
    IsWithin oneByOne.freshness fiftyMinutesOn newYear2026 ∧
    ∃ h₁ h₂ saved saved', PassAt oneByOne newYear2026 .empty saved h₁ ∧
      saved.map (·.stationId) = [1] ∧ PassesUpTo oneByOne fiftyMinutesOn h₁ h₁ ∧
      PassAt oneByOne fiftyMinutesOn h₁ saved' h₂ ∧ ∀ m' ∈ saved', m'.stationId ≠ 1 := by
  -- The first pass finds an empty history, and saves its measurement.
  have first := passAt_withIndexOf newYear2026 newYear2026 .empty
  have only : savedIn ((withIndexOf newYear2026 newYear2026).passInOrder oneByOne [numbered 1]
      (.empty, [])).2.2 =
      [.ofLive newYear2026 1 none ⟨1, newYear2026, some "Dobry", none, none, none⟩ []] := rfl
  rw [only] at first
  have order : oneByOne.freshness ≤ oneByOne.retention := by decide
  have later : newYear2026.le? fiftyMinutesOn = some true := by decide
  have window : IsWithin oneByOne.freshness fiftyMinutesOn newYear2026 := fun _ => by decide
  have last := passAt_withIndexOf newYear2026 fiftyMinutesOn
  exact ⟨order, later, window, _, _, _, _, first, rfl, .refl, last _,
    not_saved_again_in_window order first List.mem_cons_self .refl later window (last _)⟩

/-- If the index was calculated an hour before the year, the station is saved at the beginning of
the year and saved again fifty minutes later, though both are in a freshness window from the time of
the first pass. -/
theorem saved_again_with_old_index :
    0 ≤ oneByOne.freshness ∧ oneByOne.freshness ≤ oneByOne.retention ∧
    newYear2026.le? fiftyMinutesOn = some true ∧
    fiftyMinutesOn.key ≤ newYear2026.key + oneByOne.freshness ∧
    ∃ h₁ h₂ saved saved', PassAt oneByOne newYear2026 .empty saved h₁ ∧
      saved.map (·.stationId) = [1] ∧ PassAt oneByOne fiftyMinutesOn h₁ saved' h₂ ∧
      saved'.map (·.stationId) = [1] := by
  -- Everything here is about fixed times, and is computed.
  refine ⟨by decide, by decide, by decide, by decide, _, _, _, _,
    passAt_withIndexOf anHourBefore newYear2026 .empty, ?_,
    passAt_withIndexOf anHourBefore fiftyMinutesOn _, ?_⟩
  · rfl
  · rfl

end AirQuality.Sync
