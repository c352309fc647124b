import Shortlink.Postgres.Storage

/-!
# Migration

How the tables come into being. A table of its own says which migrations have been applied;
one that is missing is applied in a transaction, together with the row that says so. A lock
keeps others from migrating at the same time.
-/

namespace Shortlink.Postgres

/-- A change of the tables. -/
structure Migration where
  version : Int
  description : String
  script : String
  /-- What tells whether the script has been changed since. -/
  checksum : List UInt8

/-- Why the migrations did not come to their end. -/
inductive MigrationError where
  | inScript (version : Int) (cause : SqlError)
  | aroundScripts (cause : SqlError)
  | partly (version : Int)
  | unknown (version : Int)
  | changed (version : Int)
  deriving DecidableEq, Repr

/-- What is said about a migration error. -/
def MigrationError.report : MigrationError → Report
  | .inScript version cause =>
    .within ("while executing migration " ++ toString version ++ ": " ++ cause.message)
      cause.report
  | .aroundScripts cause =>
    .within ("while executing migrations: " ++ cause.message) cause.report
  | .partly version =>
    .plain ("migration " ++ toString version ++
      " is partially applied; fix and remove row from `_sqlx_migrations` table")
  | .unknown version =>
    .plain ("migration " ++ toString version ++
      " was previously applied but is missing in the resolved migrations")
  | .changed version =>
    .plain ("migration " ++ toString version ++ " was previously applied but has been modified")

/-- A computation that migrates. -/
abbrev MigrationAction := ExceptT MigrationError SqlProgram

namespace Migration

/-! ## Statements -/

/-- The name of the database. -/
def nameStatement : Statement := ⟨"SELECT current_database()", []⟩

/-- Takes the lock of the migrations. -/
def lockStatement (key : Int) : Statement := ⟨"SELECT pg_advisory_lock($1)", [.int key]⟩

/-- Gives the lock of the migrations back. -/
def unlockStatement (key : Int) : Statement := ⟨"SELECT pg_advisory_unlock($1)", [.int key]⟩

/-- Makes the table of the migrations. -/
def tableStatement : Statement :=
  ⟨"CREATE TABLE IF NOT EXISTS _sqlx_migrations (
    version BIGINT PRIMARY KEY,
    description TEXT NOT NULL,
    installed_on TIMESTAMPTZ NOT NULL DEFAULT now(),
    success BOOLEAN NOT NULL,
    checksum BYTEA NOT NULL,
    execution_time BIGINT NOT NULL
  );", []⟩

/-- The first migration that did not come to its end. -/
def partlyStatement : Statement :=
  ⟨"SELECT version FROM _sqlx_migrations WHERE success = false ORDER BY version LIMIT 1", []⟩

/-- The migrations that have been applied. -/
def appliedStatement : Statement :=
  ⟨"SELECT version, checksum FROM _sqlx_migrations ORDER BY version", []⟩

/-- Says that a migration has been applied. -/
def insertStatement (migration : Migration) : Statement :=
  ⟨"INSERT INTO _sqlx_migrations ( version, description, success, checksum, execution_time )
    VALUES ( $1, $2, TRUE, $3, -1 )",
    [.int migration.version, .text migration.description, .bytes migration.checksum]⟩

/-- Says how long a migration took. -/
def timeStatement (migration : Migration) (nanos : Int) : Statement :=
  ⟨"UPDATE _sqlx_migrations SET execution_time = $1 WHERE version = $2",
    [.int nanos, .int migration.version]⟩

/-! ## Application -/

/-- Sends a statement; `toError` says what its failure means. -/
def send (connection : Connection) (toError : SqlError → MigrationError)
    (statement : Statement) : MigrationAction Answer :=
  ExceptT.mk do
    pure ((← query (.send connection statement)).mapError toError)

/-- The key of the lock, of which all migrations of a database ask for the same. -/
def lockKey (database : Row) : Int :=
  match database with
  | [.text name] => name.toList.foldl (fun key c => (key * 31 + c.toNat) % 0x4000000000000000) 0
  | _ => 0

/-- The version in a row. -/
def rowVersion : Row → Int
  | .int version :: _ => version
  | _ => 0

/-- The row says that the migration has been applied, with its script as it is. -/
def isUnchanged (migration : Migration) (row : Row) : Bool :=
  row == [.int migration.version, .bytes migration.checksum]

/-- Runs the script of a migration in a transaction. -/
def apply (connection : Connection) (migration : Migration) : MigrationAction Unit := do
  let _ ← send connection .aroundScripts .begin
  ExceptT.mk do
    match ← (steps : MigrationAction Unit).run with
    | .ok _ => pure (.ok ())
    | .error error =>
      let _ ← query (.send connection .rollback)
      pure (.error error)
  let _ ← send connection .aroundScripts (timeStatement migration 0)
where
  /-- What happens in the transaction. -/
  steps : MigrationAction Unit := do
    let _ ← send connection (.inScript migration.version) ⟨migration.script, []⟩
    let _ ← send connection .aroundScripts migration.insertStatement
    let _ ← send connection .aroundScripts .commit

/-- Applies those migrations that have not been applied; those that have must not have been
changed. -/
def applyMissing (connection : Connection) (applied : List Row) :
    List Migration → MigrationAction Unit
  | [] => pure ()
  | migration :: rest => do
    match applied.find? fun row => rowVersion row == migration.version with
    | some row => if migration.isUnchanged row then pure () else throw (.changed migration.version)
    | none => apply connection migration
    applyMissing connection applied rest

/-- Asks for the key of the lock of the database's migrations. -/
def askLockKey (connection : Connection) : MigrationAction Int := do
  let name ← send connection .aroundScripts nameStatement
  let row ← ExceptT.mk (pure (name.oneRow.mapError .aroundScripts))
  pure (lockKey row)

/-- Brings the tables up to date. -/
def migrate (connection : Connection) (migrations : List Migration) : MigrationAction Unit := do
  let send := send connection .aroundScripts
  let _ ← send (lockStatement (← askLockKey connection))
  let _ ← send tableStatement
  let partly ← send partlyStatement
  match partly.rows with
  | row :: _ => throw (.partly (rowVersion row))
  | [] => pure ()
  let applied ← send appliedStatement
  let isKnown (row : Row) := migrations.any fun migration => migration.version == rowVersion row
  match applied.rows.find? fun row => !isKnown row with
  | some row => throw (.unknown (rowVersion row))
  | none => pure ()
  applyMissing connection applied.rows migrations
  let _ ← send (unlockStatement (← askLockKey connection))

/-! ## The migrations of the service -/

/-- Makes the tables of URLs, of outbox messages and of markers. -/
def initial : Migration where
  version := 20260101000000
  description := "init"
  script := "CREATE TABLE IF NOT EXISTS shortened_urls (
    id              UUID PRIMARY KEY,
    original_url    TEXT        NOT NULL,
    code            VARCHAR(64) NOT NULL,
    short_url       TEXT        NOT NULL,
    created_on_utc  TIMESTAMPTZ NOT NULL,
    updated_on_utc  TIMESTAMPTZ NULL,
    is_active       BOOLEAN     NOT NULL DEFAULT TRUE,
    CONSTRAINT shortened_urls_code_key UNIQUE (code)
);

CREATE INDEX IF NOT EXISTS shortened_urls_active_created_idx
    ON shortened_urls (created_on_utc DESC)
    WHERE is_active;

CREATE TABLE IF NOT EXISTS outbox_messages (
    id                UUID PRIMARY KEY,
    sequence          BIGSERIAL   NOT NULL,
    type              TEXT        NOT NULL,
    content           TEXT        NOT NULL,
    occurred_on_utc   TIMESTAMPTZ NOT NULL,
    processed_on_utc  TIMESTAMPTZ NULL,
    error             TEXT        NULL
);

CREATE INDEX IF NOT EXISTS outbox_messages_unprocessed_idx
    ON outbox_messages (sequence)
    WHERE processed_on_utc IS NULL;

CREATE TABLE IF NOT EXISTS outbox_message_consumers (
    id    UUID NOT NULL,
    name  TEXT NOT NULL,
    PRIMARY KEY (id, name)
);
"
  checksum := [0x2e, 0xaf, 0xbb, 0xc9, 0x8f, 0x6d, 0xf9, 0x00, 0xbd, 0x85, 0x98, 0x6e,
    0x17, 0x83, 0x9c, 0x4b, 0x48, 0xe2, 0xe0, 0xf5, 0x79, 0xf8, 0xb0, 0x82,
    0xd5, 0x15, 0x7d, 0x03, 0xd8, 0xcb, 0x1b, 0xde, 0x8c, 0xa9, 0xab, 0xa7,
    0x2a, 0xef, 0x5f, 0x8d, 0x8d, 0x4d, 0x94, 0x8c, 0x4d, 0x83, 0xfc, 0x88]

/-- The migrations of the service, the oldest first. -/
def all : List Migration := [initial]

end Migration

end Shortlink.Postgres
