import AirQuality.Time.Moment
import AirQuality.Fault

/-!
# Time zones

What a clock shows in a zone is known to a library of zones, and not to this program: a zone is what
that library says of the wall times there. It may look at the days around a wall time, so that there
may be no answer at the ends of the calendar.

* `Zone.utc`: universal time, which has an answer for every wall time
* `Zone.place?`: a wall time in a zone
* `toUtc`: a moment at UTC, with a zone for moments without an offset
-/

namespace AirQuality.Time

/-- A time zone. -/
structure Zone where
  /-- The offset that a wall time of the zone is taken to have. There is none if looking for it leads
  beyond the calendar. -/
  offset? : WallTime → Option UtcOffset

/-- Universal time. -/
def Zone.utc : Zone := ⟨fun _ => some .zero⟩

/-- A wall time in a zone. -/
def Zone.place? (z : Zone) (w : WallTime) : Option Moment := (z.offset? w).map fun o => ⟨w, some o⟩

/-- The moment at UTC. One without an offset is placed in the zone, if the zone is known. -/
def toUtc (zone : Option Zone) (m : Moment) : Except Fault Moment := do
  let placed ← match m.offset with
    | some _ => pure m
    | none => do
      let z ← orFault zone .unknownZone
      orFault (z.place? m.wall) .outOfRange
  orFault placed.toUtc? .outOfRange

end AirQuality.Time
