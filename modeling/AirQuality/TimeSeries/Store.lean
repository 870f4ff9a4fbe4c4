import AirQuality.Store.Basic
import AirQuality.TimeSeries.Row
import AirQuality.TimeSeries.Selection

/-!
# The history in a database

A store that keeps its measurements as points of a time-series database. The database is reached
through a client; that a call failed is logged, and the fault goes on to the caller.

* `Client`: the calls to the database
* `Session.store`: the database as a store
-/

namespace AirQuality.TimeSeries

open Time (Moment)

/-- The calls to a database with states `σ`. -/
structure Client (σ : Type) where
  write : List Point → Act σ Unit
  select : Selection → Act σ (List Table)
  remove : Removal → Act σ Unit
  close : Act σ Unit

/-- A database in use, and how many identifiers have been generated for it. -/
structure Session (σ : Type) where
  issued : Nat
  database : σ

namespace Session

variable {σ α : Type}

/-- A call to the database. -/
def call (act : Act σ α) : Act (Session σ) α :=
  ExceptT.mk (StateT.mk fun s => do
    let (r, database) ← act.runOn s.database
    return (r, { s with database := database }))

/-- Gives identifiers to the measurements that lack one. -/
def identify (ms : List Measurement) : Act (Session σ) (List Measurement) := do
  let s ← Act.state
  let (saved, issued) := assignIds s.issued ms
  Act.setState { s with issued := issued }
  return saved

/-- Saves measurements, with a single call unless there are none. -/
def saveAll (c : Client σ) (ms : List Measurement) : Act (Session σ) (List Measurement) := do
  let saved ← identify ms
  -- Nothing to write, no call.
  if saved.isEmpty then return []
  Act.reporting "Error saving air quality data to InfluxDB" do
    call (c.write (← Act.ofExcept (saved.mapM Point.of)))
  return saved

/-- The measurements of a selection. -/
def select (c : Client σ) (selection : Except Fault Selection) :
    Act (Session σ) (List Measurement) := do
  let selection ← Act.ofExcept selection
  let tables ← Act.reporting "Error querying air quality measurements" (call (c.select selection))
  -- A row that cannot be read is a fault of its own, and is not logged.
  Act.ofAsk (tables.flatten.mapM Row.measurement)

/-- The measurements of a station in a range, oldest first. -/
def ofStation (c : Client σ) (id : Int) (start stop : Moment) :
    Act (Session σ) (List Measurement) :=
  select c (Selection.records start stop (some id) false none)

/-- The database as a store. -/
def store (c : Client σ) (clock : Moment) : Store (Session σ) where
  save m := do
    match ← saveAll c [m] with
    | saved :: _ => return saved
    | [] => return m
  saveAll := saveAll c
  latest id := do
    return (← select c (Selection.records epoch clock (some id) true (some 1))).head?
  ofStation := ofStation c
  between start stop := select c (Selection.records start stop none true none)
  hasRecent id threshold := do
    let selection ← Act.ofExcept (Selection.recent id threshold)
    return (← call (c.select selection)).any fun table => !table.isEmpty
  deleteOlder threshold := do
    Act.info ("Deleting air quality measurements older than " ++ threshold.spacedText)
    call (c.remove (← Act.ofExcept (Removal.olderThan threshold)))
  statistics id start stop := do
    return Statistics.of? id start stop (← ofStation c id start stop)
  ranking start stop limit := do
    return rankUpTo limit (← select c (Selection.records start stop none false none))

end Session

end AirQuality.TimeSeries
