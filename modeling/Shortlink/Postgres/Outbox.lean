import Shortlink.Postgres.Sql

/-!
# The tables of the outbox

The statements about outbox messages and about the markers of consumers, and the right to
dispatch: a lock that lasts as long as the transaction in which it was taken.
-/

namespace Shortlink.Postgres

namespace OutboxTable

/-! ## Statements -/

/-- Writes a new message. -/
def insertStatement (message : Message) : Statement :=
  ⟨"INSERT INTO outbox_messages (id, type, content, occurred_on_utc, processed_on_utc, error)
    VALUES ($1, $2, $3, $4, $5, $6)",
    [.uuid message.id, .text message.eventType, .text message.content,
      .ofMoment message.occurred, .ofMoment? message.processed, .ofText? message.error]⟩

/-- The number of the lock that a dispatcher takes. -/
def lockKey : Int := 0x6f7574626f78

/-- Tries to take the lock of the dispatchers until the transaction ends. -/
def lockStatement : Statement := ⟨"SELECT pg_try_advisory_xact_lock($1)", [.int lockKey]⟩

/-- The oldest messages that have not been processed. -/
def fetchStatement (limit : Int) : Statement :=
  ⟨"SELECT id, type, content, occurred_on_utc, processed_on_utc, error FROM outbox_messages
    WHERE processed_on_utc IS NULL ORDER BY sequence LIMIT $1", [.int limit]⟩

/-- Writes the outcome of a message. -/
def saveStatement (message : Message) : Statement :=
  ⟨"UPDATE outbox_messages SET processed_on_utc = $2, error = $3 WHERE id = $1",
    [.uuid message.id, .ofMoment? message.processed, .ofText? message.error]⟩

/-- Counts the messages that wait, were delivered, and failed. -/
def statsStatement : Statement :=
  ⟨"SELECT
    COUNT(*) FILTER (WHERE processed_on_utc IS NULL),
    COUNT(*) FILTER (WHERE processed_on_utc IS NOT NULL AND error IS NULL),
    COUNT(*) FILTER (WHERE processed_on_utc IS NOT NULL AND error IS NOT NULL)
    FROM outbox_messages", []⟩

/-- Has a message processed again. -/
def requeueStatement (id : Uuid) : Statement :=
  ⟨"UPDATE outbox_messages SET processed_on_utc = NULL, error = NULL WHERE id = $1",
    [.uuid id]⟩

/-- The message in a row. -/
def ofRow : Row → Except SqlError Message
  | [.uuid id, .text eventType, .text content, .time occurred, processed, error] => do
    let processed ← readTime? processed
    let error ← readText? error
    .ok ⟨id, eventType, content, occurred, processed, error⟩
  | _ => .error misshapen

/-- The counts in a row. -/
def readStats : Row → Except SqlError OutboxStats
  | [.int pending, .int processed, .int failed] => .ok ⟨pending, processed, failed⟩
  | _ => .error misshapen

/-! ## Operations -/

/-- Writes new messages within a transaction. -/
def insertAll (connection : Connection) : List Message → SqlAction Unit
  | [] => pure ()
  | message :: rest => do
    let _ ← send connection (insertStatement message)
    insertAll connection rest

/-- Tries to take the right to dispatch. The lease is the transaction that holds the
lock. -/
def tryLease : SqlAction (Option Lease) := do
  let connection ← openTransaction
  SqlAction.ofProgram do
    match ← (lock connection).attempt with
    | .ok true => pure (.ok (some ⟨connection.number⟩))
    | .ok false =>
      (do
        conclude connection .rollback
        pure none : SqlAction (Option Lease)).attempt
    | .error failure =>
      abandon connection
      pure (.error failure)
where
  /-- Whether the lock could be taken. -/
  lock (connection : Connection) : SqlAction Bool := do
    let answer ← send connection lockStatement
    let row ← SqlAction.ofResult answer.oneRow
    SqlAction.ofResult (readBool row)

/-- Gives back the right to dispatch. -/
def releaseLease (lease : Lease) : SqlAction Unit := conclude ⟨lease.token⟩ .commit

/-- Gives up the right to dispatch without a release. -/
def dropLease (lease : Lease) : SqlProgram Unit := abandon ⟨lease.token⟩

/-- The oldest messages that have not been processed. -/
def fetch (limit : Int) : SqlAction (List Message) := do
  let answer ← execute (fetchStatement limit)
  SqlAction.ofResult (answer.rows.mapM ofRow)

/-- Stores the outcomes of messages within a transaction. -/
def saveAll (connection : Connection) : List Message → SqlAction Unit
  | [] => pure ()
  | message :: rest => do
    let _ ← send connection (saveStatement message)
    saveAll connection rest

/-- Stores the outcomes of messages, all or none. -/
def saveProcessed (messages : List Message) : SqlAction Unit :=
  inTransaction fun connection => saveAll connection messages

/-- How many messages wait, were delivered, and failed. -/
def stats : SqlAction OutboxStats := do
  let answer ← execute statsStatement
  let row ← SqlAction.ofResult answer.oneRow
  SqlAction.ofResult (readStats row)

/-- Has a message processed again. -/
def requeue (id : Uuid) : SqlAction Bool := do
  let answer ← execute (requeueStatement id)
  pure (0 < answer.affected)

end OutboxTable

namespace MarkerTable

/-- Whether a consumer has handled an event. -/
def existsStatement (marker : Marker) : Statement :=
  ⟨"SELECT EXISTS(SELECT 1 FROM outbox_message_consumers WHERE id = $1 AND name = $2)",
    [.uuid marker.eventId, .text marker.consumer]⟩

/-- Records that a consumer has handled an event, unless that is recorded already. -/
def insertStatement (marker : Marker) : Statement :=
  ⟨"INSERT INTO outbox_message_consumers (id, name) VALUES ($1, $2) ON CONFLICT DO NOTHING",
    [.uuid marker.eventId, .text marker.consumer]⟩

/-- Whether a consumer has handled an event. -/
def isConsumed (marker : Marker) : SqlAction Bool := do
  let answer ← execute (existsStatement marker)
  let row ← SqlAction.ofResult answer.oneRow
  SqlAction.ofResult (readBool row)

/-- Records that a consumer has handled an event. -/
def markConsumed (marker : Marker) : SqlAction Unit := do
  let _ ← execute (insertStatement marker)
  pure ()

end MarkerTable

end Shortlink.Postgres
