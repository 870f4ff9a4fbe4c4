import AirQuality.Schedule
import AirQuality.Settings

/-!
# Starting up

When the program starts, the schedule is started, and a first pass is run if the settings ask for
it.
-/

namespace AirQuality

/-- Starts what runs in the background. `pass` is what a scheduled pass does. -/
def startUp {σ : Type} (settings : Settings) (pass : Act σ Sync.Report) :
    Act (Sync.Guarded σ) Unit := do
  (HourlyJob.atMinute settings.syncMinute).start
  if settings.syncOnStartup then
    let _ ← Sync.Guarded.exclusively .scheduled pass

end AirQuality
