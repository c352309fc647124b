import Shortlink.Link.Save
import Shortlink.Postgres.Outbox

/-!
# The table of URLs

The statements about shortened URLs. A save writes the row and the messages of the pending
events in one transaction; the aggregate moves on only after the commit.
-/

namespace Shortlink.Postgres

open Time (Moment)

namespace LinkTable

/-! ## Statements -/

/-- Whether a row has this code, active or not. -/
def existsStatement (code : String) : Statement :=
  ⟨"SELECT EXISTS(SELECT 1 FROM shortened_urls WHERE code = $1)", [.text code]⟩

/-- Writes a new row. -/
def insertStatement (link : Link) (audit : Audit) : Statement :=
  ⟨"INSERT INTO shortened_urls
    (id, original_url, code, short_url, created_on_utc, updated_on_utc, is_active)
    VALUES ($1, $2, $3, $4, $5, $6, $7)",
    [.uuid link.id, .text link.longUrl, .text link.code, .text link.shortUrl,
      .ofMoment audit.created, .ofMoment? audit.updated, .bool audit.isActive]⟩

/-- Writes the new state of a row. Its code and its creation time stay as they are. -/
def updateStatement (link : Link) (audit : Audit) : Statement :=
  ⟨"UPDATE shortened_urls
    SET original_url = $2, short_url = $3, updated_on_utc = $4, is_active = $5
    WHERE id = $1",
    [.uuid link.id, .text link.longUrl, .text link.shortUrl, .ofMoment? audit.updated,
      .bool audit.isActive]⟩

/-- The active row with a code. -/
def findStatement (code : String) : Statement :=
  ⟨"SELECT id, original_url, code, short_url, created_on_utc, updated_on_utc, is_active
    FROM shortened_urls WHERE code = $1 AND is_active", [.text code]⟩

/-- A part of the active rows, the newest first. -/
def listStatement (offset limit : Int) : Statement :=
  ⟨"SELECT id, original_url, code, short_url, created_on_utc, updated_on_utc, is_active
    FROM shortened_urls WHERE is_active ORDER BY created_on_utc DESC LIMIT $1 OFFSET $2",
    [.int limit, .int offset]⟩

/-- The URL in a row. -/
def ofRow : Row → Except SqlError Link
  | [.uuid id, .text longUrl, .text code, .text shortUrl, .time created, updated,
      .bool isActive] => do
    let updated ← readTime? updated
    .ok (.restore id longUrl code shortUrl ⟨created, updated, isActive⟩)
  | _ => .error misshapen

/-! ## Operations -/

/-- Whether a row has this code, active or not. -/
def codeExists (code : String) : SqlAction Bool := do
  let answer ← execute (existsStatement code)
  let row ← SqlAction.ofResult answer.oneRow
  SqlAction.ofResult (readBool row)

/-- Writes a prepared save in a transaction. The aggregate moves on only after its commit. -/
def commit (link : Link) (prepared : PreparedSave) (write : Connection → SqlAction Unit) :
    SqlProgram SaveOutcome := do
  let written := inTransaction fun connection => do
    write connection
    OutboxTable.insertAll connection prepared.messages
  match ← written.attempt with
  | .ok _ => pure ⟨.ok (), link.finishSave prepared.audit⟩
  | .error failure => pure ⟨.error failure, link⟩

/-- Stores a new URL and its pending events. -/
def add (link : Link) : SqlProgram SaveOutcome := do
  let now ← query (.beside .now)
  let prepared := link.prepareSave .added now
  commit link prepared fun connection => do
    let _ ← send connection (insertStatement link prepared.audit)

/-- Stores the new state of a URL and its pending events. -/
def update (link : Link) (change : Change) : SqlProgram SaveOutcome := do
  let now ← query (.beside .now)
  let prepared := link.prepareSave change now
  commit link prepared fun connection => do
    let answer ← send connection (updateStatement link prepared.audit)
    if answer.affected = 0 then throw (.idNotFound link.id.toString)

/-- The active URL with this code. -/
def findByCode (code : String) : SqlAction (Option Link) := do
  let answer ← execute (findStatement code)
  match answer.rows with
  | [] => pure none
  | row :: _ =>
    let link ← SqlAction.ofResult (ofRow row)
    pure (some link)

/-- Active URLs, the newest first. -/
def list (offset limit : Int) : SqlAction (List Link) := do
  let answer ← execute (listStatement offset limit)
  SqlAction.ofResult (answer.rows.mapM ofRow)

end LinkTable

end Shortlink.Postgres
