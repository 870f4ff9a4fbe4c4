import AirQuality.Fault
import AirQuality.Json.Basic
import AirQuality.Number.Reader
import AirQuality.Sync.Pass
import AirQuality.Text.Case

/-!
# Settings

The settings of the program come from environment variables; each has a value of its own for a
variable that is not set.

* `Settings.ofEnvironment`: reads the settings; a numeral that cannot be read is a fault
* `Settings.requireDatabase`: the access to the database, which has to be complete
* `Settings.wiring`: what the settings make of the program
-/

namespace AirQuality

/-- The settings of the program. -/
structure Settings where
  feedUrl : String
  requestTimeout : Float
  zone : String
  backend : String
  databaseUrl : Option String
  databaseToken : Option String
  databaseOrg : Option String
  databaseBucket : Option String
  syncMinute : Int
  freshnessMinutes : Int
  retentionDays : Int
  syncConcurrency : Int
  syncOnStartup : Bool
  syncProgress : Bool
  logLevel : String

/-- The values of environment variables that are set. -/
abbrev Environment := String → Option String

namespace Settings

/-- The settings without any variable. -/
def initial : Settings where
  feedUrl := "https://api.gios.gov.pl/pjp-api/v1/rest"
  requestTimeout := 10.0
  zone := "Europe/Warsaw"
  backend := "influxdb"
  databaseUrl := none
  databaseToken := none
  databaseOrg := none
  databaseBucket := none
  syncMinute := 5
  freshnessMinutes := 50
  retentionDays := 90
  syncConcurrency := 8
  syncOnStartup := true
  syncProgress := false
  logLevel := "INFO"

/-- The words that switch something on. -/
def onWords : List String := ["1", "true", "yes", "on"]

/-- A switch; anything but the known words switches off. -/
def readSwitch (absent : Bool) : Option String → Bool
  | none => absent
  | some s => onWords.contains (Text.lower (Text.strip s))

/-- An integer. -/
def readInteger (absent : Int) : Option String → Except Fault Int
  | none => .ok absent
  | some s => orFault (Number.integer? s) .badValue

/-- A number. -/
def readReal (absent : Float) : Option String → Except Fault Float
  | none => .ok absent
  | some s => orFault (Number.float? s) .badValue

/-- Reads the settings from environment variables. -/
def ofEnvironment (env : Environment) : Except Fault Settings := do
  return {
    feedUrl := (env "GIOS_API_URL").getD initial.feedUrl
    requestTimeout := ← readReal initial.requestTimeout (env "GIOS_REQUEST_TIMEOUT")
    zone := (env "GIOS_TIMEZONE").getD initial.zone
    backend := Text.lower ((env "STORAGE_BACKEND").getD initial.backend)
    databaseUrl := env "INFLUXDB_URL"
    databaseToken := env "INFLUXDB_TOKEN"
    databaseOrg := env "INFLUXDB_ORG"
    databaseBucket := env "INFLUXDB_BUCKET"
    syncMinute := ← readInteger initial.syncMinute (env "SYNC_MINUTE")
    freshnessMinutes := ← readInteger initial.freshnessMinutes (env "SYNC_FRESHNESS_MINUTES")
    retentionDays := ← readInteger initial.retentionDays (env "RETENTION_DAYS")
    syncConcurrency := ← readInteger initial.syncConcurrency (env "SYNC_CONCURRENCY")
    syncOnStartup := readSwitch initial.syncOnStartup (env "SYNC_ON_STARTUP")
    syncProgress := readSwitch initial.syncProgress (env "SYNC_PROGRESS")
    logLevel := Text.upper ((env "LOG_LEVEL").getD initial.logLevel) }

/-- A bucket of an organisation in the database. -/
structure Bucket where
  name : String
  org : String
deriving Repr, DecidableEq

/-- A text that says something. -/
def nonempty? (s : Option String) : Option String := s.filter fun s => !s.isEmpty

/-- The bucket to keep measurements in, if all that the database asks for is set. -/
def requireDatabase (s : Settings) : Except Fault Bucket :=
  match nonempty? s.databaseUrl, nonempty? s.databaseToken, nonempty? s.databaseOrg,
      nonempty? s.databaseBucket with
  | some _, some _, some org, some bucket => .ok ⟨bucket, org⟩
  | _, _, _, _ => .error .incompleteSettings

/-- Where measurements are kept. -/
inductive Backend where
  | memory
  | database (bucket : Bucket)
deriving Repr, DecidableEq

/-- The store that the settings ask for. -/
def store (s : Settings) : Except Fault Backend :=
  if s.backend = "memory" then .ok .memory
  else if s.backend = "influxdb" then s.requireDatabase.map .database
  else .error (.unknownBackend s.backend)

/-- The longest duration, either way, in days. -/
def maxDurationDays : Int := 999999999

/-- A duration of a count of some unit, in microseconds. -/
def duration (count : Int) (unitMicros : Nat) : Except Fault Int :=
  let micros := count * unitMicros
  let days := micros / Time.dayMicros
  if -maxDurationDays ≤ days ∧ days ≤ maxDurationDays then .ok micros else .error .outOfRange

/-- What passes of synchronisation go by. -/
def plan (s : Settings) : Except Fault Sync.Plan := do
  return {
    freshness := ← duration s.freshnessMinutes Time.minuteMicros
    retention := ← duration s.retentionDays Time.dayMicros
    concurrency := max 1 s.syncConcurrency }

/-- What the settings make of the program: the store, and the plan of its passes. -/
def wiring (s : Settings) : Except Fault (Backend × Sync.Plan) := do
  return (← s.store, ← s.plan)

end Settings

end AirQuality
