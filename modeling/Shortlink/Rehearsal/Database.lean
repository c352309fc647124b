import Shortlink.Postgres.Storage
import Shortlink.Rehearsal.World

/-!
# A scripted database

A database that holds no data: it writes down each statement that it is sent and replies as
it was told to, or else as an empty database would.
-/

namespace Shortlink.Rehearsal

open Postgres

/-- A reply to the first statement that starts with a certain text. -/
structure ScriptedReply where
  opening : String
  /-- The result, or that of an empty database if none is given. -/
  result : Option (Except ServerError Answer)

/-- A statement that was sent. -/
structure Sent where
  statement : Statement
  /-- Whether the connection was in a transaction before. -/
  inTransaction : Bool

/-- The statement as JSON: its text, its parameters, and whether it was in a transaction. -/
def Sent.toJson (sent : Sent) : Json :=
  .list [.text sent.statement.sql, .list (sent.statement.params.map Value.toJson),
    .bool sent.inTransaction]

/-- A scripted database with its pool of connections. -/
structure Database where
  /-- Why no connection is handed out. -/
  refusal : Option SqlError := none
  replies : List ScriptedReply := []
  /-- The number of connections handed out so far. -/
  handedOut : Nat := 0
  /-- The connections that are in a transaction. -/
  inTransaction : List Connection := []
  /-- The statements sent, the latest first. -/
  sent : List Sent := []

namespace Database

/-- A text with every run of white space made one blank and its ends trimmed. -/
def squeeze (text : String) : String :=
  " ".intercalate
    (((text.splitToList Char.isWhitespace).filter fun word => !word.isEmpty))

/-- The text starts with an opening. -/
def opens (opening text : String) : Bool := opening.toList.isPrefixOf text.toList

/-- Takes the first reply for a statement out of the list. -/
def takeReply (sql : String) : List ScriptedReply → Option ScriptedReply × List ScriptedReply
  | [] => (none, [])
  | reply :: rest =>
    if opens reply.opening sql then (some reply, rest)
    else
      let (found, rest) := takeReply sql rest
      (found, reply :: rest)

/-- The replies of an empty database, by the openings of statements. -/
def standardReplies : List (String × Answer) :=
  [("SELECT EXISTS(", ⟨[[.bool false]], 0⟩),
    ("SELECT pg_try_advisory_xact_lock", ⟨[[.bool true]], 0⟩),
    ("SELECT COUNT(*)", ⟨[[.int 0, .int 0, .int 0]], 0⟩),
    ("SELECT current_database()", ⟨[[.text "rehearsal"]], 0⟩),
    ("SELECT", ⟨[], 0⟩)]

/-- The reply of an empty database to a statement. -/
def standardAnswer (sql : String) : Answer :=
  ((standardReplies.find? fun (opening, _) => opens opening sql).map Prod.snd).getD ⟨[], 1⟩

/-- Whether a connection is in a transaction after a statement. Its end ends it also where it
fails. -/
def transactionAfter (sql : String) (isBegun : Bool) (succeeds : Bool) : Bool :=
  if sql = Statement.begin.sql then isBegun || succeeds
  else if sql = Statement.commit.sql ∨ sql = Statement.rollback.sql then false
  else isBegun

/-- Writes a statement down and replies to it. -/
def send (database : Database) (connection : Connection) (statement : Statement) :
    Except SqlError Answer × Database :=
  let sql := squeeze statement.sql
  let isBegun := database.inTransaction.contains connection
  let (reply, replies) := takeReply sql database.replies
  let result := (reply.bind ScriptedReply.result).getD (.ok (standardAnswer sql))
  let others := database.inTransaction.filter (· != connection)
  (result.mapError .server,
    { database with
      replies := replies
      inTransaction :=
        if transactionAfter sql isBegun result.isOk then connection :: others else others
      sent := ⟨⟨sql, statement.params⟩, isBegun⟩ :: database.sent })

/-- Hands out a connection, unless there is a reason not to. -/
def acquire (database : Database) : Except SqlError Connection × Database :=
  match database.refusal with
  | some error => (.error error, database)
  | none => (.ok ⟨database.handedOut⟩, { database with handedOut := database.handedOut + 1 })

/-- What stands in the statements of the book-keeping of migrations. -/
def bookkeepingWords : List String := ["_sqlx_migrations", "current_database()", "pg_advisory_"]

/-- The statement belongs to the book-keeping of migrations. -/
def isBookkeeping (sent : Sent) : Bool :=
  bookkeepingWords.any fun word => 1 < (sent.statement.sql.splitOn word).length

/-- Answers a request, in a world in which everything but the database is. -/
def answer (request : Sql) (state : World × Database) :
    Except Abort request.Reply × World × Database :=
  let (world, database) := state
  match request with
  | .beside request =>
    let (result, world) := world.answer request
    (result, world, database)
  | .acquire =>
    let (result, database) := database.acquire
    (.ok result, world, database)
  | .send connection statement =>
    let (result, database) := database.send connection statement
    (.ok result, world, database)
  | .giveBack _ => (.ok (), world, database)

end Database

end Shortlink.Rehearsal
