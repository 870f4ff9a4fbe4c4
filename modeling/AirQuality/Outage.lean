import AirQuality.Store.Basic
import AirQuality.Feed.Client

/-!
# Outages

A collaborator may be out of order: an operation of the provider or of the store then fails with a
text, always or for one station only. The other operations are not touched.

* `Outages.start`, `Outages.stop`: at most one outage for each operation
* `Outages.provider`, `Outages.store`: a collaborator during some outages
-/

namespace AirQuality

/-- The operations that can be out of order. -/
inductive Operation where
  | stations
  | index
  | measurements
  | save
  | hasRecent
  | delete
deriving Repr, DecidableEq

/-- An operation that is out of order, for one station or for all of them. -/
structure Outage where
  operation : Operation
  station : Option Int
  text : String
deriving Repr, DecidableEq

/-- The outages at a time. -/
abbrev Outages := List Outage

namespace Outages

/-- Puts an operation in order again. -/
def stop (os : Outages) (op : Operation) : Outages := os.filter fun o => o.operation != op

/-- Puts an operation out of order; an earlier outage of it is over. -/
def start (os : Outages) (o : Outage) : Outages := o :: os.stop o.operation

/-- Why an operation is out of order for a station; `none` stands for no station in particular. -/
def reason? (os : Outages) (op : Operation) (station : Option Int) : Option String :=
  let hits (o : Outage) : Bool := o.operation == op && (o.station.isNone || o.station == station)
  (os.find? hits).map Outage.text

/-- A question that fails if an operation is out of order. -/
def ask {α : Type} (os : Outages) (op : Operation) (station : Option Int) (ask : Ask α) : Ask α :=
  match os.reason? op station with
  | some text => Ask.ofExcept (.error (.failure text))
  | none => ask

/-- An operation that fails if it is out of order. -/
def act {σ α : Type} (os : Outages) (op : Operation) (station : Option Int) (act : Act σ α) :
    Act σ α :=
  match os.reason? op station with
  | some text => Act.fail (.failure text)
  | none => act

/-- A provider during some outages. -/
def provider (os : Outages) (p : Feed.Provider) : Feed.Provider where
  stations := os.ask .stations none p.stations
  index id := os.ask .index (some id) (p.index id)
  measurements id := os.ask .measurements (some id) (p.measurements id)

/-- A store during some outages. Saving several measurements at once is not out of order when saving
one is. -/
def store {σ : Type} (os : Outages) (s : Store σ) : Store σ :=
  { s with
    save := fun m => os.act .save (some m.stationId) (s.save m)
    hasRecent := fun id threshold => os.act .hasRecent (some id) (s.hasRecent id threshold)
    deleteOlder := fun threshold => os.act .delete none (s.deleteOlder threshold) }

end Outages

end AirQuality
