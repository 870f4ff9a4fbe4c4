import AirQuality.Fault
import AirQuality.Json.Basic

/-!
# Reports of synchronisation

How a pass of synchronisation has ended: what became of its stations, and whether old measurements
were removed after it.
-/

namespace AirQuality.Sync

/-- What became of a station. -/
inductive Outcome where
  | saved
  | skipped
  | failed
deriving Repr, DecidableEq

/-- The counts of a pass. -/
structure Report where
  successful : Int
  skipped : Int
  failed : Int
  cleanupOk : Bool
  /-- The pass was refused because another one was running. -/
  skippedPass : Bool
deriving Repr, DecidableEq

namespace Report

/-- No station yet. -/
def start : Report := ⟨0, 0, 0, false, false⟩

/-- The report of a refused pass. -/
def refused : Report := ⟨0, 0, 0, false, true⟩

/-- Counts a station. -/
def record (r : Report) : Outcome → Report
  | .saved => { r with successful := r.successful + 1 }
  | .skipped => { r with skipped := r.skipped + 1 }
  | .failed => { r with failed := r.failed + 1 }

/-- Whether a station is counted first does not matter. -/
theorem record_comm (r : Report) (a b : Outcome) :
    (r.record a).record b = (r.record b).record a := by
  cases a <;> cases b <;> rfl

/-- The report on some stations, by what became of them. -/
def ofOutcomes (os : List Outcome) : Report := os.foldl record start

theorem ofOutcomes_append (os : List Outcome) (o : Outcome) :
    ofOutcomes (os ++ [o]) = (ofOutcomes os).record o := by
  simp [ofOutcomes]

theorem foldl_record (os : List Outcome) (r : Report) :
    os.foldl record r =
      { r with
        successful := r.successful + os.count .saved
        skipped := r.skipped + os.count .skipped
        failed := r.failed + os.count .failed } := by
  induction os generalizing r with
  | nil => simp
  | cons o os ih =>
    rw [List.foldl_cons, ih]
    cases o <;> simp [record] <;> omega

/-- Every station is counted once. -/
theorem ofOutcomes_eq (os : List Outcome) :
    ofOutcomes os = ⟨os.count .saved, os.count .skipped, os.count .failed, false, false⟩ := by
  simp [ofOutcomes, foldl_record, start]

/-- The order in which stations are counted does not show in the report. -/
theorem ofOutcomes_perm {os os' : List Outcome} (perm : os.Perm os') :
    ofOutcomes os = ofOutcomes os' :=
  perm.foldl_eq' (fun a _ b _ r => record_comm r a b) start

/-- The report of a pass whose removal of old measurements was answered like this. -/
def withRemoval (r : Report) (removal : Except Fault Bool) : Except Fault Report :=
  removal.map fun ok => { r with cleanupOk := ok }

/-- The report as a record. -/
def toJson (r : Report) : Json :=
  .obj [("successful", .ofInt r.successful), ("skipped", .ofInt r.skipped),
    ("failed", .ofInt r.failed), ("cleanup_ok", .bool r.cleanupOk),
    ("skipped_pass", .bool r.skippedPass)]

private def boolText (b : Bool) : String := if b then "True" else "False"

/-- The report as it is shown in a log line. -/
def shown (r : Report) : String :=
  "SyncReport(successful=" ++ toString r.successful ++ ", skipped=" ++ toString r.skipped ++
    ", failed=" ++ toString r.failed ++ ", cleanup_ok=" ++ boolText r.cleanupOk ++
    ", skipped_pass=" ++ boolText r.skippedPass ++ ")"

end Report

end AirQuality.Sync
