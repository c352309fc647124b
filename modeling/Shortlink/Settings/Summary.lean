import Shortlink.Settings.Config

/-!
# The summary of the configuration

The lines that are logged at the start. Connection strings are shown without their
passwords.
-/

namespace Shortlink.Settings.Config

/-- The line about the cache. -/
def cacheLine : Option String → String
  | none => "  Redis: disabled"
  | some url => "  Redis: " ++ mask url ++ " (enabled)"

/-- The line about a job. -/
def jobLine (job : JobSettings) : String :=
  "  Job " ++ job.name ++ ": " ++ job.schedule ++ " (" ++
    (if job.enabled then "enabled" else "disabled") ++ ")"

/-- The lines about a configuration. -/
def summary (config : Config) : List String :=
  ["Configuration loaded:",
    "  Listen address: " ++ config.listenAddress,
    "  Database: " ++ mask config.databaseUrl,
    cacheLine config.redisUrl,
    "  Log level: " ++ config.logLevel,
    "  Log format: " ++ config.logFormat,
    "  Short codes: " ++ toString config.codeLength ++ " chars over " ++
      toString config.codeAlphabet.length ++ " symbols",
    "  Outbox: batch " ++ toString config.batchSize ++ ", " ++ toString config.maxAttempts ++
      " attempts, " ++ toString config.retryStep ++ "ms backoff step"] ++
    config.jobs.map jobLine

/-- The configuration as JSON. It holds the passwords. -/
def toJson (config : Config) : Json :=
  .object [("database_url", .text config.databaseUrl),
    ("redis_url", .optionalText config.redisUrl),
    ("listen_addr", .text config.listenAddress), ("log_level", .text config.logLevel),
    ("log_format", .text config.logFormat), ("cache_ttl_seconds", .int config.cacheTtl),
    ("db_max_connections", .int config.maxConnections),
    ("db_connect_timeout", .int config.connectTimeout),
    ("db_idle_timeout", .int config.idleTimeout), ("db_max_lifetime", .int config.maxLifetime),
    ("short_code_length", .int config.codeLength),
    ("short_code_alphabet", .text config.codeAlphabet),
    ("outbox_batch_size", .int config.batchSize),
    ("outbox_max_attempts", .int config.maxAttempts),
    ("outbox_retry_step_ms", .int config.retryStep),
    ("jobs", .list (config.jobs.map JobSettings.toJson))]

end Shortlink.Settings.Config
