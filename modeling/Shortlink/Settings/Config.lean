import Shortlink.Number.Bounds
import Shortlink.Outbox.Backoff
import Shortlink.Settings.Error
import Shortlink.Text.Blank
import Shortlink.Worker.Job

/-!
# The configuration

The settings of the service, and how they are read from the environment. A variable that is
not set leaves its setting at the standard; one that is set to something unreadable is an
error.
-/

namespace Shortlink.Settings

/-- The settings of the service. Times are in seconds, the retry step in milliseconds. -/
structure Config where
  databaseUrl : String
  /-- Nothing is cached without a cache server. -/
  redisUrl : Option String := none
  listenAddress : String := "0.0.0.0:3000"
  logLevel : String := "info"
  logFormat : String := "text"
  cacheTtl : Nat := 3600
  maxConnections : Nat := 10
  connectTimeout : Nat := 30
  idleTimeout : Nat := 600
  maxLifetime : Nat := 1800
  codeLength : Nat := CodeSettings.defaultLength
  codeAlphabet : String := CodeSettings.defaultAlphabet
  batchSize : Int := DispatchSettings.standard.batchSize
  maxAttempts : Nat := DispatchSettings.standard.maxAttempts
  retryStep : Nat := DispatchSettings.standard.retryStep
  jobs : List JobSettings := JobSettings.standard
  deriving DecidableEq, Repr

/-- A type of numbers with the reader of their texts. -/
structure NumberForm (α : Type) where
  read : List Char → Except Text.IntegerError α

namespace NumberForm

/-- Numbers of 32 bits without a sign. -/
def word32 : NumberForm Nat := ⟨Text.readNatural Number.maxWord32⟩

/-- Numbers of 64 bits without a sign. -/
def word64 : NumberForm Nat := ⟨Text.readNatural Number.maxWord64⟩

/-- Numbers of 64 bits with a sign. -/
def signed64 : NumberForm Int := ⟨Text.readSigned Number.maxSigned64⟩

end NumberForm

namespace Config

/-! ## Reading -/

/-- The number in a variable, or another one if it has no text. Blanks at the ends do not
count. -/
def number {α : Type} (environment : Environment) (form : NumberForm α) (name : String)
    (standard : α) : Except ConfigError α :=
  match environment.read? name with
  | none => .ok standard
  | some text => (form.read (Text.trim text.toList)).mapError (.unreadableNumber name text)

/-- A part of the database's address that has no standard. -/
def part (environment : Environment) (name : String) : Except ConfigError String :=
  (environment.read name).mapError (.missingPart name)

/-- The address of a database from its parts. -/
def databaseAddress (user password host port name : String) : String :=
  "postgres://" ++ user ++ ":" ++ password ++ "@" ++ host ++ ":" ++ port ++ "/" ++ name

/-- The address of the database: as it is given, or else from its parts. -/
def readDatabaseUrl (environment : Environment) : Except ConfigError String :=
  match environment.read? "DATABASE_URL" with
  | some url => .ok url
  | none => do
    let host := environment.readOr "DB_HOST" "localhost"
    let port := environment.readOr "DB_PORT" "5432"
    let user ← part environment "DB_USER"
    let password ← part environment "DB_PASSWORD"
    let name ← part environment "DB_NAME"
    pure (databaseAddress user password host port name)

/-- The credentials in the address of a cache server. -/
def cacheCredentials : Option String → String
  | none => ""
  | some password => if password.isEmpty then "" else ":" ++ password ++ "@"

/-- The address of the cache server: as it is given, or else from its parts if there is a
host. -/
def readRedisUrl? (environment : Environment) : Option String :=
  match environment.read? "REDIS_URL" with
  | some url => some url
  | none => do
    let host ← environment.read? "REDIS_HOST"
    let port := environment.readOr "REDIS_PORT" "6379"
    let database := environment.readOr "REDIS_DB" "0"
    let credentials := cacheCredentials (environment.read? "REDIS_PASSWORD")
    pure ("redis://" ++ credentials ++ host ++ ":" ++ port ++ "/" ++ database)

/-- The jobs in their variable. -/
def readJobs (environment : Environment) : Except ConfigError (List JobSettings) :=
  match environment.read? "JOBS" with
  | none => .ok JobSettings.standard
  | some text => (JobSettings.parseList text).mapError .unreadableJobs

/-- Reads the configuration. The first problem counts: the database's address comes first,
then the jobs, then the numbers. -/
def read (environment : Environment) : Except ConfigError Config := do
  let databaseUrl ← readDatabaseUrl environment
  let standard : Config := { databaseUrl := databaseUrl }
  let jobs ← readJobs environment
  let cacheTtl ← number environment .word64 "CACHE_TTL_SECONDS" standard.cacheTtl
  let maxConnections ← number environment .word32 "DB_MAX_CONNECTIONS" standard.maxConnections
  let connectTimeout ← number environment .word64 "DB_CONNECT_TIMEOUT" standard.connectTimeout
  let idleTimeout ← number environment .word64 "DB_IDLE_TIMEOUT" standard.idleTimeout
  let maxLifetime ← number environment .word64 "DB_MAX_LIFETIME" standard.maxLifetime
  let codeLength ← number environment .word64 "SHORT_CODE_LENGTH" standard.codeLength
  let batchSize ← number environment .signed64 "OUTBOX_BATCH_SIZE" standard.batchSize
  let maxAttempts ← number environment .word64 "OUTBOX_MAX_ATTEMPTS" standard.maxAttempts
  let retryStep ← number environment .word64 "OUTBOX_RETRY_STEP_MS" standard.retryStep
  pure {
    databaseUrl := databaseUrl
    redisUrl := readRedisUrl? environment
    listenAddress := environment.readOr "LISTEN" standard.listenAddress
    logLevel := environment.readOr "RUST_LOG" standard.logLevel
    logFormat := environment.readOr "LOG_FORMAT" standard.logFormat
    cacheTtl := cacheTtl
    maxConnections := maxConnections
    connectTimeout := connectTimeout
    idleTimeout := idleTimeout
    maxLifetime := maxLifetime
    codeLength := codeLength
    codeAlphabet := environment.readOr "SHORT_CODE_ALPHABET" standard.codeAlphabet
    batchSize := batchSize
    maxAttempts := maxAttempts
    retryStep := retryStep
    jobs := jobs }

/-! ## Parts -/

/-- The settings of codes. -/
def codes (config : Config) : Except ConfigError CodeSettings :=
  (CodeSettings.of config.codeLength config.codeAlphabet.toList).mapError .unusableCodes

/-- The settings of dispatchers. -/
def dispatch (config : Config) : DispatchSettings :=
  ⟨config.batchSize, config.maxAttempts, config.retryStep⟩

/-- The first job with a name. -/
def job? (config : Config) (name : String) : Option JobSettings :=
  config.jobs.find? (·.name == name)

end Config

end Shortlink.Settings
