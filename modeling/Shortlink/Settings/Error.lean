import Shortlink.Cron.Schedule
import Shortlink.Json.Error
import Shortlink.Link.Code
import Shortlink.Report
import Shortlink.Settings.Environment
import Shortlink.Settings.Masking
import Shortlink.Text.Integer

/-!
# Configuration errors

Why a configuration cannot be read from the environment, or cannot be used. Connection
strings are shown without their passwords.
-/

namespace Shortlink.Settings

/-- Why a configuration cannot be read or used. -/
inductive ConfigError where
  /-- A part of the database's address is missing. -/
  | missingPart (name : String) (cause : VariableError)
  | unreadableJobs (cause : Json.ReadError)
  | unreadableNumber (name value : String) (cause : Text.IntegerError)
  | unknownLogFormat (format : String)
  | listenWithoutPort (address : String)
  | foreignDatabase (url : String)
  | foreignCache (url : String)
  | zeroCacheTtl
  | zeroConnections
  | zeroConnectTimeout
  | unusableCodes (cause : CodeSettingsError)
  | batchSizeOutOfRange (size : Int)
  | attemptsOutOfRange (attempts : Nat)
  | namelessJob
  | unusableSchedule (schedule job : String)

namespace ConfigError

/-- What is said about a configuration error. -/
def report : ConfigError → Report
  | .missingPart name cause =>
    .within "Failed to load database configuration"
      (.within (name ++ " must be set when DATABASE_URL is not provided")
        (.plain cause.message))
  | .unreadableJobs cause => .within "JOBS must be a JSON list of jobs" (.plain cause.message)
  | .unreadableNumber name value cause =>
    .within (name ++ " has an invalid value: '" ++ value ++ "'") (.plain cause.message)
  | .unknownLogFormat format =>
    .plain ("LOG_FORMAT must be 'text' or 'json', got '" ++ format ++ "'")
  | .listenWithoutPort address =>
    .plain ("LISTEN must be in format 'host:port', got '" ++ address ++ "'")
  | .foreignDatabase url =>
    .plain ("DATABASE_URL must start with 'postgres://' or 'postgresql://', got '" ++ mask url ++
      "'")
  | .foreignCache url =>
    .plain ("REDIS_URL must start with 'redis://' or 'rediss://', got '" ++ mask url ++ "'")
  | .zeroCacheTtl => .plain "CACHE_TTL_SECONDS must be greater than 0"
  | .zeroConnections => .plain "DB_MAX_CONNECTIONS must be at least 1"
  | .zeroConnectTimeout => .plain "DB_CONNECT_TIMEOUT must be greater than 0"
  | .unusableCodes cause => .plain ("Invalid short code settings: " ++ cause.message)
  | .batchSizeOutOfRange size =>
    .plain ("OUTBOX_BATCH_SIZE must be between 1 and 1000, got " ++ toString size)
  | .attemptsOutOfRange attempts =>
    .plain ("OUTBOX_MAX_ATTEMPTS must be between 1 and 20, got " ++ toString attempts)
  | .namelessJob => .plain "JOBS entries must have a name"
  | .unusableSchedule schedule job =>
    .within ("Invalid schedule '" ++ schedule ++ "' for job " ++ job)
      (.plain Cron.Schedule.unreadable)

end ConfigError

end Shortlink.Settings
