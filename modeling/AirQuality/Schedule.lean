import AirQuality.Sync.Guard
import AirQuality.Time.Text

/-!
# The schedule

A pass is run every hour at a minute. What it reports, or that it failed, is logged.

* `HourlyJob.atMinute`: the job for a minute, which may be given in any hour
* `HourlyJob.start`, `HourlyJob.run`: starting the schedule, and one run of the job
-/

namespace AirQuality

/-- A job that is run every hour at a minute. -/
structure HourlyJob where
  minute : Nat
  inHour : minute < 60
deriving DecidableEq

namespace HourlyJob

variable {σ : Type}

/-- The job for a minute, counted around the hour. -/
def atMinute (minute : Int) : HourlyJob := ⟨(minute % 60).toNat, by omega⟩

/-- Starts the schedule. -/
def start (job : HourlyJob) : Act σ Unit :=
  Act.info ("Scheduler started in background thread (every hour at :" ++
    Time.padded 2 job.minute ++ ")")

/-- One run of the job. It never fails. -/
def run (pass : Act σ Sync.Report) : Act σ Unit :=
  tryCatch
    (do
      let report ← pass
      Act.info ("Scheduled sync finished: " ++ report.shown))
    (fun _ => Act.error "Scheduled job failed")

end HourlyJob

end AirQuality
