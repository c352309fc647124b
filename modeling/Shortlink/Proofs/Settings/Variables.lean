import Shortlink.Settings.Config

/-!
# Settings and their variables

Every setting with a standard is read from a variable of its own, whatever the other variables
are. So a configuration can be read exactly if there is an address of the database and each of these
variables can be read by itself, and then it holds what each of them says.
-/

namespace Shortlink.Settings

/-- A setting with a standard, and the variable that it is read from. -/
structure Setting where
  Value : Type
  name : String
  /-- The value that a text of the variable stands for. -/
  parse : String → Except ConfigError Value
  standard : Value
  field : Config → Value

namespace Setting

/-- A setting that is a number. Blanks at the ends do not count. -/
def number {α : Type} (name : String) (form : NumberForm α) (standard : α) (field : Config → α) :
    Setting where
  Value := α
  name := name
  parse text := (form.read (Text.trim text.toList)).mapError (.unreadableNumber name text)
  standard := standard
  field := field

/-- A setting that is a text, which is taken as it is. -/
def text (name standard : String) (field : Config → String) : Setting where
  Value := String
  name := name
  parse := .ok
  standard := standard
  field := field

/-- The list of jobs. -/
def jobs : Setting where
  Value := List JobSettings
  name := "JOBS"
  parse text := (JobSettings.parseList text).mapError .unreadableJobs
  standard := JobSettings.standard
  field := Config.jobs

/-- All settings with a standard. -/
def all : List Setting :=
  [text "LISTEN" "0.0.0.0:3000" Config.listenAddress,
    text "RUST_LOG" "info" Config.logLevel,
    text "LOG_FORMAT" "text" Config.logFormat,
    number "CACHE_TTL_SECONDS" .word64 3600 Config.cacheTtl,
    number "DB_MAX_CONNECTIONS" .word32 10 Config.maxConnections,
    number "DB_CONNECT_TIMEOUT" .word64 30 Config.connectTimeout,
    number "DB_IDLE_TIMEOUT" .word64 600 Config.idleTimeout,
    number "DB_MAX_LIFETIME" .word64 1800 Config.maxLifetime,
    number "SHORT_CODE_LENGTH" .word64 7 Config.codeLength,
    text "SHORT_CODE_ALPHABET" CodeSettings.defaultAlphabet Config.codeAlphabet,
    number "OUTBOX_BATCH_SIZE" .signed64 10 Config.batchSize,
    number "OUTBOX_MAX_ATTEMPTS" .word64 3 Config.maxAttempts,
    number "OUTBOX_RETRY_STEP_MS" .word64 100 Config.retryStep,
    jobs]

theorem forall_mem_all {condition : Setting → Prop} :
    (∀ setting ∈ all, condition setting) ↔
      condition (text "LISTEN" "0.0.0.0:3000" Config.listenAddress) ∧
      condition (text "RUST_LOG" "info" Config.logLevel) ∧
      condition (text "LOG_FORMAT" "text" Config.logFormat) ∧
      condition (number "CACHE_TTL_SECONDS" .word64 3600 Config.cacheTtl) ∧
      condition (number "DB_MAX_CONNECTIONS" .word32 10 Config.maxConnections) ∧
      condition (number "DB_CONNECT_TIMEOUT" .word64 30 Config.connectTimeout) ∧
      condition (number "DB_IDLE_TIMEOUT" .word64 600 Config.idleTimeout) ∧
      condition (number "DB_MAX_LIFETIME" .word64 1800 Config.maxLifetime) ∧
      condition (number "SHORT_CODE_LENGTH" .word64 7 Config.codeLength) ∧
      condition (text "SHORT_CODE_ALPHABET" CodeSettings.defaultAlphabet Config.codeAlphabet) ∧
      condition (number "OUTBOX_BATCH_SIZE" .signed64 10 Config.batchSize) ∧
      condition (number "OUTBOX_MAX_ATTEMPTS" .word64 3 Config.maxAttempts) ∧
      condition (number "OUTBOX_RETRY_STEP_MS" .word64 100 Config.retryStep) ∧
      condition jobs := by
  simp only [all, List.forall_mem_cons, List.not_mem_nil, false_implies, implies_true, and_true]

/-- The value of a setting in an environment. -/
def read (setting : Setting) (environment : Environment) : Except ConfigError setting.Value :=
  match environment.read? setting.name with
  | none => .ok setting.standard
  | some text => setting.parse text

variable {setting : Setting} {environment : Environment}

/-- A setting can be read unless its variable has a text that stands for no value. -/
theorem exists_read_eq_ok :
    (∃ value, setting.read environment = .ok value) ↔
      ∀ text, environment.read? setting.name = some text →
        ∃ value, setting.parse text = .ok value := by
  rw [read]
  cases environment.read? setting.name with
  | none => simp
  | some text => simp

/-- The value of a setting, by what its variable is set to. -/
theorem read_eq_ok {value : setting.Value} :
    setting.read environment = .ok value ↔
      match environment.values.lookup setting.name with
      | none => value = setting.standard
      | some bytes =>
        match Text.decodeUtf8? bytes with
        | some text => setting.parse (.ofList text) = .ok value
        | none => value = setting.standard := by
  rw [read, Environment.read?, Environment.read]
  cases environment.values.lookup setting.name with
  | none => simp [Except.toOption, eq_comm (a := setting.standard)]
  | some bytes =>
      cases decoded : Text.decodeUtf8? bytes with
      | none => simp [decoded, Except.toOption, eq_comm (a := setting.standard)]
      | some text => simp [decoded, Except.toOption]

/-- Any text will do for a setting that is a text. -/
theorem read_text (name standard : String) (field : Config → String) (environment : Environment) :
    (text name standard field).read environment = .ok (environment.readOr name standard) := by
  cases found : environment.read? name with
  | none => simp [read, text, Environment.readOr, found]
  | some value => simp [read, text, Environment.readOr, found]

end Setting

namespace Config

variable {environment : Environment}

theorem bind_eq_ok {α β : Type} {first : Except ConfigError α} {next : α → Except ConfigError β}
    {value : β} :
    (first >>= next) = .ok value ↔ ∃ between, first = .ok between ∧ next between = .ok value := by
  cases first with
  | ok between => simp [bind, Except.bind]
  | error error => simp [bind, Except.bind]

/-- A configuration is what is read setting by setting. -/
theorem read_eq_ok {config : Config} :
    read environment = .ok config ↔
      readDatabaseUrl environment = .ok config.databaseUrl ∧
      readRedisUrl? environment = config.redisUrl ∧
      ∀ setting ∈ Setting.all, setting.read environment = .ok (setting.field config) := by
  simp only [read, bind_eq_ok, Setting.forall_mem_all, Setting.read_text]
  constructor
  · rintro ⟨url, isUrl, jobs, areJobs, cacheTtl, isCacheTtl, maxConnections, isMaxConnections,
      connectTimeout, isConnectTimeout, idleTimeout, isIdleTimeout, maxLifetime, isMaxLifetime,
      codeLength, isCodeLength, batchSize, isBatchSize, maxAttempts, isMaxAttempts, retryStep,
      isRetryStep, same⟩
    cases same
    exact ⟨isUrl, rfl, rfl, rfl, rfl, isCacheTtl, isMaxConnections, isConnectTimeout,
      isIdleTimeout, isMaxLifetime, isCodeLength, rfl, isBatchSize, isMaxAttempts, isRetryStep,
      areJobs⟩
  · rintro ⟨isUrl, isRedisUrl, isListenAddress, isLogLevel, isLogFormat, isCacheTtl,
      isMaxConnections, isConnectTimeout, isIdleTimeout, isMaxLifetime, isCodeLength, isAlphabet,
      isBatchSize, isMaxAttempts, isRetryStep, areJobs⟩
    refine ⟨_, isUrl, _, areJobs, _, isCacheTtl, _, isMaxConnections, _, isConnectTimeout, _,
      isIdleTimeout, _, isMaxLifetime, _, isCodeLength, _, isBatchSize, _, isMaxAttempts, _,
      isRetryStep, ?_⟩
    rw [isRedisUrl, Except.ok.inj isListenAddress, Except.ok.inj isLogLevel,
      Except.ok.inj isLogFormat, Except.ok.inj isAlphabet]
    rfl

/-- Nothing keeps a configuration from being read but the address of the database and settings that
cannot be read by themselves. -/
theorem exists_read_eq_ok :
    (∃ config, read environment = .ok config) ↔
      (∃ url, readDatabaseUrl environment = .ok url) ∧
      ∀ setting ∈ Setting.all, ∃ value, setting.read environment = .ok value := by
  constructor
  · intro ⟨config, isRead⟩
    have parts := read_eq_ok.mp isRead
    exact ⟨⟨_, parts.1⟩, fun setting member => ⟨_, parts.2.2 setting member⟩⟩
  · intro ⟨⟨url, isUrl⟩, settings⟩
    obtain ⟨⟨listenAddress, isListenAddress⟩, ⟨logLevel, isLogLevel⟩, ⟨logFormat, isLogFormat⟩,
      ⟨cacheTtl, isCacheTtl⟩, ⟨maxConnections, isMaxConnections⟩,
      ⟨connectTimeout, isConnectTimeout⟩, ⟨idleTimeout, isIdleTimeout⟩,
      ⟨maxLifetime, isMaxLifetime⟩, ⟨codeLength, isCodeLength⟩, ⟨alphabet, isAlphabet⟩,
      ⟨batchSize, isBatchSize⟩, ⟨maxAttempts, isMaxAttempts⟩, ⟨retryStep, isRetryStep⟩,
      ⟨jobs, areJobs⟩⟩ := Setting.forall_mem_all.mp settings
    let config : Config := ⟨url, readRedisUrl? environment, listenAddress, logLevel, logFormat,
      cacheTtl, maxConnections, connectTimeout, idleTimeout, maxLifetime, codeLength, alphabet,
      batchSize, maxAttempts, retryStep, jobs⟩
    refine ⟨config, read_eq_ok.mpr ⟨isUrl, rfl, Setting.forall_mem_all.mpr ?_⟩⟩
    exact ⟨isListenAddress, isLogLevel, isLogFormat, isCacheTtl, isMaxConnections,
      isConnectTimeout, isIdleTimeout, isMaxLifetime, isCodeLength, isAlphabet, isBatchSize,
      isMaxAttempts, isRetryStep, areJobs⟩

end Config

/-- What a variable is set to is heeded wherever it is text: the configuration has the value that
the text stands for, and where it stands for none there is no configuration. The standard is for
variables that are not set, and for those whose bytes are no text. -/
theorem variables_are_heeded_if_text (environment : Environment) :
    (∀ config, Config.read environment = .ok config → ∀ setting ∈ Setting.all,
      match environment.values.lookup setting.name with
      | none => setting.field config = setting.standard
      | some bytes =>
        match Text.decodeUtf8? bytes with
        | some text => setting.parse (.ofList text) = .ok (setting.field config)
        | none => setting.field config = setting.standard) ∧
    ((∃ config, Config.read environment = .ok config) ↔
      (∃ url, Config.readDatabaseUrl environment = .ok url) ∧
      ∀ setting ∈ Setting.all, ∀ text, environment.read? setting.name = some text →
        ∃ value, setting.parse text = .ok value) := by
  constructor
  · intro config isRead setting member
    exact Setting.read_eq_ok.mp ((Config.read_eq_ok.mp isRead).2.2 setting member)
  · simp only [Config.exists_read_eq_ok, Setting.exists_read_eq_ok]

/-- A result that is a value. -/
theorem eq_ok_of_toOption {ε α : Type} {result : Except ε α} {value : α}
    (isValue : result.toOption = some value) : result = .ok value := by
  cases result with
  | ok other => exact congrArg Except.ok (Option.some.inj isValue)
  | error error => contradiction

/-- The batch size in a text with blanks at both ends. -/
theorem variables_are_heeded_if_text_of_blanks :
    let environment : Environment :=
      ⟨[("DATABASE_URL", "postgres://localhost/links".toUTF8.toList),
        ("OUTBOX_BATCH_SIZE", " +25 ".toUTF8.toList)]⟩
    let setting := Setting.number "OUTBOX_BATCH_SIZE" .signed64 10 Config.batchSize
    setting ∈ Setting.all ∧
      ∃ config, Config.read environment = .ok config ∧ config.batchSize = 25 := by
  intro environment setting
  have member : setting ∈ Setting.all := by simp [Setting.all, setting]
  have readable : (Config.read environment).toOption.isSome = true := by decide +kernel
  obtain ⟨config, isConfig⟩ := Option.isSome_iff_exists.mp readable
  have isRead := eq_ok_of_toOption isConfig
  have heeded := (variables_are_heeded_if_text environment).1 config isRead setting member
  have isSet : environment.values.lookup setting.name = some " +25 ".toUTF8.toList := by
    decide +kernel
  have isText : Text.decodeUtf8? " +25 ".toUTF8.toList = some " +25 ".toList := by decide +kernel
  have isNumber : setting.parse (.ofList " +25 ".toList) = .ok (25 : Int) := rfl
  simp only [isSet, isText, isNumber] at heeded
  exact ⟨member, config, isRead, (Except.ok.inj heeded).symm⟩

/-- Bytes that are no text are set aside, and the batch size is the standard one, as are all other
settings. -/
theorem reads_standard_of_no_text :
    let bytes : List UInt8 := [0xFF]
    let environment : Environment :=
      ⟨[("DATABASE_URL", "postgres://localhost/links".toUTF8.toList),
        ("OUTBOX_BATCH_SIZE", bytes)]⟩
    environment.values.lookup "OUTBOX_BATCH_SIZE" = some bytes ∧ Text.decodeUtf8? bytes = none ∧
      Config.read environment = .ok { databaseUrl := "postgres://localhost/links" } := by
  intro bytes environment
  refine ⟨by decide, by decide, eq_ok_of_toOption ?_⟩
  decide +kernel

end Shortlink.Settings
