import AirQuality.Journal
import AirQuality.Ranking
import AirQuality.Text.Quoted

/-!
# Stores of measurements

What a store offers, whatever it keeps its measurements in. Ranges include both of their ends.

* `Store`: the operations
* `assignIds`: identifiers for the measurements that lack one
-/

namespace AirQuality

open Time (Moment)

/-- The operations of a store with states `σ`. -/
structure Store (σ : Type) where
  /-- Keeps a measurement and gives it back with its identifier. -/
  save : Measurement → Act σ Measurement
  /-- Keeps several measurements and gives them back with their identifiers. -/
  saveAll : List Measurement → Act σ (List Measurement)
  /-- The latest measurement of a station. -/
  latest : Int → Act σ (Option Measurement)
  /-- The measurements of a station in a range, oldest first. -/
  ofStation : Int → Moment → Moment → Act σ (List Measurement)
  /-- The measurements of all stations in a range, newest first. -/
  between : Moment → Moment → Act σ (List Measurement)
  /-- Whether a station has a measurement at a moment or after it. -/
  hasRecent : Int → Moment → Act σ Bool
  /-- Drops what is older than a moment. -/
  deleteOlder : Moment → Act σ Unit
  /-- The statistics of a station in a range. -/
  statistics : Int → Moment → Moment → Act σ (Option Statistics)
  /-- The ranking of the stations in a range, up to a limit. -/
  ranking : Moment → Moment → Int → Act σ (List RankEntry)

/-- Measurements carry no coordinates, so that no store can search by them. -/
def searchByCoordinates {σ : Type} : Act σ (List Measurement) := do
  Act.warning "find_by_geo_bounds is not implemented yet"
  return []

/-- The identifier that is generated as the `n`-th one. -/
def generatedId (n : Nat) : String := String.ofList (Text.hexDigits 32 n)

/-- Whether a measurement has an identifier that says something. -/
def Measurement.hasId (m : Measurement) : Bool := m.id.any fun s => !s.isEmpty

/-- Gives an identifier to each measurement that lacks one, after `issued` have been generated; also
how many have been generated then. -/
def assignIds (issued : Nat) : List Measurement → List Measurement × Nat
  | [] => ([], issued)
  | m :: ms =>
    if m.hasId then
      let (rest, issued) := assignIds issued ms
      (m :: rest, issued)
    else
      let (rest, last) := assignIds (issued + 1) ms
      ({ m with id := some (generatedId (issued + 1)) } :: rest, last)

@[simp] theorem length_assignIds (issued : Nat) (ms : List Measurement) :
    (assignIds issued ms).1.length = ms.length := by
  induction ms generalizing issued with
  | nil => rfl
  | cons m ms ih => by_cases h : m.hasId = true <;> simp [assignIds, h, ih]

end AirQuality
