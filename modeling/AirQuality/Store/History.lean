import AirQuality.Store.Basic

/-!
# The history in memory

A store that keeps its measurements in a list, in the order in which they were saved. Queries look
at every measurement; they fail when they come to compare a date that has an offset with one that
has none.

* `History.saveAll`, `History.deleteOlder?`: what changes the list
* `History.latest?`, `History.ofStation?`, `History.between?`, `History.hasRecent?`: what looks at
  it
* `History.store`: the history as a store
-/

namespace AirQuality

open Time (Moment)

/-- The measurements that have been saved, and how many identifiers have been generated. -/
structure History where
  records : List Measurement
  issued : Nat

namespace History

/-- A history without measurements. -/
def empty : History := ⟨[], 0⟩

/-- Saves measurements behind the ones that are there. -/
def saveAll (h : History) (ms : List Measurement) : List Measurement × History :=
  let (saved, issued) := assignIds h.issued ms
  (saved, ⟨h.records ++ saved, issued⟩)

/-- The measurements that satisfy a condition, which may fail. -/
def select (keep : Measurement → Except Fault Bool) :
    List Measurement → Except Fault (List Measurement)
  | [] => .ok []
  | m :: ms => do
    let kept ← keep m
    let rest ← select keep ms
    return if kept then m :: rest else rest

/-- Whether one date is not after another one. -/
def notAfter (a b : Moment) : Except Fault Bool := orFault (a.le? b) .wrongKind

/-- Whether a date lies in a range. The end of the range is looked at only after its start. -/
def inRange (start stop date : Moment) : Except Fault Bool := do
  if ← notAfter start date then notAfter date stop else return false

/-- Puts measurements in order of their dates; those of one date keep their order. -/
def sortByDate (ms : List Measurement) : List Measurement :=
  ms.mergeSort fun a b => a.date.key ≤ b.date.key

/-- Puts measurements in the reverse order of their dates; those of one date keep their order. -/
def sortByDateDescending (ms : List Measurement) : List Measurement :=
  ms.mergeSort fun a b => b.date.key ≤ a.date.key

/-- The measurements of a station. -/
def recordsOf (h : History) (stationId : Int) : List Measurement :=
  h.records.filter fun m => m.stationId == stationId

/-- Of a measurement and the ones after it the one with the latest date, the first of several. -/
def latestOf (best : Measurement) : List Measurement → Except Fault Measurement
  | [] => .ok best
  | m :: ms => do
    let isLater ← orFault (best.date.lt? m.date) .wrongKind
    latestOf (if isLater then m else best) ms

/-- The latest measurement of a station, the first saved of several. -/
def latest? (h : History) (stationId : Int) : Except Fault (Option Measurement) :=
  match h.recordsOf stationId with
  | [] => .ok none
  | m :: ms => (latestOf m ms).map some

/-- The measurements of a station in a range, oldest first. -/
def ofStation? (h : History) (stationId : Int) (start stop : Moment) :
    Except Fault (List Measurement) :=
  (select (fun m => inRange start stop m.date) (h.recordsOf stationId)).map sortByDate

/-- The measurements of all stations in a range, newest first. -/
def between? (h : History) (start stop : Moment) : Except Fault (List Measurement) :=
  (select (fun m => inRange start stop m.date) h.records).map sortByDateDescending

/-- Whether one of some measurements is dated at a moment or after it. -/
def anyNotBefore (threshold : Moment) : List Measurement → Except Fault Bool
  | [] => .ok false
  | m :: ms => do
    if ← notAfter threshold m.date then return true else anyNotBefore threshold ms

/-- Whether a station has a measurement at a moment or after it. -/
def hasRecent? (h : History) (stationId : Int) (threshold : Moment) : Except Fault Bool :=
  anyNotBefore threshold (h.recordsOf stationId)

/-- The history without the measurements before a moment. -/
def deleteOlder? (h : History) (threshold : Moment) : Except Fault History :=
  (select (fun m => notAfter threshold m.date) h.records).map fun ms => ⟨ms, h.issued⟩

/-- The statistics of a station in a range. -/
def statistics? (h : History) (stationId : Int) (start stop : Moment) :
    Except Fault (Option Statistics) :=
  (h.ofStation? stationId start stop).map (Statistics.of? stationId start stop)

/-- The ranking of the stations in a range. -/
def ranking? (h : History) (start stop : Moment) (limit : Int) : Except Fault (List RankEntry) :=
  (h.between? start stop).map fun ms => rankUpTo limit (sortByDate ms)

/-- A question about the history. -/
def asking {α : Type} (question : History → Except Fault α) : Act History α := do
  Act.ofExcept (question (← Act.state))

/-- Saves measurements. -/
def saving (ms : List Measurement) : Act History (List Measurement) := do
  let (saved, h) := (← Act.state).saveAll ms
  Act.setState h
  return saved

/-- The history as a store. -/
def store : Store History where
  save m := do
    match ← saving [m] with
    | saved :: _ => return saved
    | [] => return m
  saveAll := saving
  latest id := asking fun h => h.latest? id
  ofStation id start stop := asking fun h => h.ofStation? id start stop
  between start stop := asking fun h => h.between? start stop
  hasRecent id threshold := asking fun h => h.hasRecent? id threshold
  deleteOlder threshold := do
    Act.info ("Deleting air quality measurements older than " ++ threshold.spacedText)
    Act.setState (← asking fun h => h.deleteOlder? threshold)
  statistics id start stop := asking fun h => h.statistics? id start stop
  ranking start stop limit := asking fun h => h.ranking? start stop limit

/-! ## Answers of the store -/

@[simp] theorem value_runOn_asking {α : Type} (question : History → Except Fault α) (h : History) :
    ((asking question).runOn h).value = (question h, h) := by
  simp [asking, Act.value_runOn_bind]

@[simp] theorem value_runOn_saving (ms : List Measurement) (h : History) :
    ((saving ms).runOn h).value = (.ok (h.saveAll ms).1, (h.saveAll ms).2) := by
  simp only [saving, Act.value_runOn_bind, Act.runOn_state, Act.runOn_setState, Act.runOn_pure,
    Traced.value_pure]

theorem value_hasRecent (id : Int) (threshold : Moment) (h : History) :
    ((store.hasRecent id threshold).runOn h).value = (h.hasRecent? id threshold, h) :=
  value_runOn_asking _ h

theorem value_save (m : Measurement) (h : History) :
    ∃ saved, ((store.save m).runOn h).value = (.ok saved, (h.saveAll [m]).2) := by
  simp only [store, Act.value_runOn_bind, value_runOn_saving]
  cases (h.saveAll [m]).1 with
  | nil => exact ⟨m, rfl⟩
  | cons saved _ => exact ⟨saved, rfl⟩

theorem value_deleteOlder (threshold : Moment) (h : History) :
    ((store.deleteOlder threshold).runOn h).value =
      match h.deleteOlder? threshold with
      | .ok next => (.ok (), next)
      | .error fault => (.error fault, h) := by
  simp only [store, Act.value_runOn_bind, Act.value_runOn_info, value_runOn_asking]
  cases h.deleteOlder? threshold <;> rfl

end History

end AirQuality
