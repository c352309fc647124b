import Shortlink.Settings.Config

/-!
# Checking the configuration

Whether a configuration can be used. The settings are checked in a fixed order, and the first
that is not usable is reported. Schedules are checked also of jobs that are disabled.
-/

namespace Shortlink.Settings.Config

/-- The text starts with one of the openings. -/
def startsWithAny (openings : List String) (text : String) : Bool :=
  openings.any fun opening => opening.toList.isPrefixOf text.toList

/-- The formats of the log. -/
def logFormats : List String := ["text", "json"]

/-- How the address of a database starts. -/
def databaseOpenings : List String := ["postgres://", "postgresql://"]

/-- How the address of a cache server starts. -/
def cacheOpenings : List String := ["redis://", "rediss://"]

/-- The greatest number of messages of one dispatch run. -/
def maxBatchSize : Int := 1000

/-- The greatest number of attempts to deliver a message. -/
def maxDeliveryAttempts : Nat := 20

/-- Reports an error unless a condition holds. -/
def ensure (condition : Bool) (error : ConfigError) : Except ConfigError Unit :=
  if condition then .ok () else .error error

/-- Checks a job. -/
def checkJob (job : JobSettings) : Except ConfigError Unit := do
  ensure (!(Text.trim job.name.toList).isEmpty) .namelessJob
  ensure (Cron.Schedule.parse? job.schedule).isSome (.unusableSchedule job.schedule job.name)

/-- Checks jobs in order. -/
def checkJobs : List JobSettings → Except ConfigError Unit
  | [] => .ok ()
  | job :: rest => do
    checkJob job
    checkJobs rest

/-- Checks the settings of the connections to the outside. -/
def checkConnections (config : Config) : Except ConfigError Unit := do
  ensure (logFormats.contains config.logFormat) (.unknownLogFormat config.logFormat)
  ensure (config.listenAddress.toList.contains ':') (.listenWithoutPort config.listenAddress)
  ensure (startsWithAny databaseOpenings config.databaseUrl) (.foreignDatabase config.databaseUrl)
  match config.redisUrl with
  | none => pure ()
  | some url => ensure (startsWithAny cacheOpenings url) (.foreignCache url)
  ensure (config.cacheTtl != 0) .zeroCacheTtl
  ensure (config.maxConnections != 0) .zeroConnections
  ensure (config.connectTimeout != 0) .zeroConnectTimeout

/-- Checks a configuration. -/
def check (config : Config) : Except ConfigError Unit := do
  config.checkConnections
  let _ ← config.codes
  ensure (1 ≤ config.batchSize && config.batchSize ≤ maxBatchSize)
    (.batchSizeOutOfRange config.batchSize)
  ensure (1 ≤ config.maxAttempts && config.maxAttempts ≤ maxDeliveryAttempts)
    (.attemptsOutOfRange config.maxAttempts)
  checkJobs config.jobs

/-- Reads and checks the configuration. -/
def load (environment : Environment) : Except ConfigError Config := do
  let config ← read environment
  config.check
  pure config

end Shortlink.Settings.Config
