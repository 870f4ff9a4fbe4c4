import AirQuality.Store.Basic

/-!
# Watched stores

A watched store answers as the store behind it does, and keeps a list of the calls that were made to
it, the last one at the end.

* `StoreCall`, `NotedCall`: a call, and whether it was answered
* `Store.watched`: a store with the list of its calls
-/

namespace AirQuality

open Time (Moment)

/-- A call to a store. -/
inductive StoreCall where
  | save (m : Measurement)
  | saveAll (ms : List Measurement)
  | latest (stationId : Int)
  | ofStation (stationId : Int) (start stop : Moment)
  | between (start stop : Moment)
  | hasRecent (stationId : Int) (threshold : Moment)
  | deleteOlder (threshold : Moment)
  | statistics (stationId : Int) (start stop : Moment)
  | ranking (start stop : Moment) (limit : Int)

/-- A call that was made, and whether it was answered and did not fail. -/
structure NotedCall where
  call : StoreCall
  answered : Bool

namespace Store

variable {σ α : Type}

/-- An operation that is noted as a call. -/
def noting (call : StoreCall) (act : Act σ α) : Act (σ × List NotedCall) α :=
  ExceptT.mk (StateT.mk fun (st, calls) => do
    let (r, st) ← act.runOn st
    return (r, (st, calls ++ [⟨call, r.isOk⟩])))

theorem value_runOn_noting (call : StoreCall) (act : Act σ α) (st : σ)
    (calls : List NotedCall) :
    ((noting call act).runOn (st, calls)).value =
      ((act.runOn st).value.1,
        ((act.runOn st).value.2, calls ++ [⟨call, (act.runOn st).value.1.isOk⟩])) := rfl

/-- The store with the list of the calls to it. -/
def watched (s : Store σ) : Store (σ × List NotedCall) where
  save m := noting (.save m) (s.save m)
  saveAll ms := noting (.saveAll ms) (s.saveAll ms)
  latest id := noting (.latest id) (s.latest id)
  ofStation id start stop := noting (.ofStation id start stop) (s.ofStation id start stop)
  between start stop := noting (.between start stop) (s.between start stop)
  hasRecent id threshold := noting (.hasRecent id threshold) (s.hasRecent id threshold)
  deleteOlder threshold := noting (.deleteOlder threshold) (s.deleteOlder threshold)
  statistics id start stop := noting (.statistics id start stop) (s.statistics id start stop)
  ranking start stop limit := noting (.ranking start stop limit) (s.ranking start stop limit)

end Store

end AirQuality
