import Shortlink.Effect
import Shortlink.Postgres.Error

/-!
# The database

What is asked of a pool of database connections: a connection, the result of a statement
over it, and to take the connection back. A program over this interface says which
statements it sends over which connection and in which order, whatever the replies are.
-/

namespace Shortlink.Postgres

open Time (Moment)

/-- A value of a column or of a parameter. -/
inductive Value where
  | null
  | bool (value : Bool)
  | int (value : Int)
  | text (value : String)
  | bytes (value : List UInt8)
  | uuid (value : Uuid)
  | time (value : Moment)
  deriving DecidableEq, Repr

namespace Value

/-- A time as the database knows it, to the microsecond. -/
def ofMoment (moment : Moment) : Value := .time moment.toMicros

/-- A time or nothing. -/
def ofMoment? (moment : Option Moment) : Value := moment.elim .null ofMoment

/-- A text or nothing. -/
def ofText? (text : Option String) : Value := text.elim .null .text

/-- The value as JSON. -/
def toJson : Value → Json
  | .null => .null
  | .bool value => .bool value
  | .int value => .int value
  | .text value => .text value
  | .bytes value => .list (value.map fun byte => .int byte.toNat)
  | .uuid value => .text value.toString
  | .time value => value.toJson

end Value

/-- A row of a result. -/
abbrev Row := List Value

/-- A statement with the values of its parameters. -/
structure Statement where
  sql : String
  params : List Value
  deriving DecidableEq, Repr

namespace Statement

/-- Opens a transaction. -/
def begin : Statement := ⟨"BEGIN", []⟩

/-- Makes the changes of a transaction last. -/
def commit : Statement := ⟨"COMMIT", []⟩

/-- Takes the changes of a transaction back. -/
def rollback : Statement := ⟨"ROLLBACK", []⟩

end Statement

/-- The result of a statement: its rows, and how many rows it changed. -/
structure Answer where
  rows : List Row
  affected : Nat
  deriving DecidableEq, Repr

/-- A connection of the pool. -/
structure Connection where
  number : Nat
  deriving DecidableEq, Repr

/-- What is asked of a database, and beside it of everything else. -/
inductive Sql where
  /-- A request that is not one to the database. -/
  | beside (request : Effect)
  /-- To hand out a connection. -/
  | acquire
  | send (connection : Connection) (statement : Statement)
  /-- To take a connection back. -/
  | giveBack (connection : Connection)

namespace Sql

/-- The type of the reply to a request. -/
abbrev Reply : Sql → Type
  | beside request => request.Reply
  | acquire => Except SqlError Connection
  | send _ _ => Except SqlError Answer
  | giveBack _ => Unit

/-- The interface to a database. -/
def interface : Interface := ⟨Sql, Reply⟩

end Sql

/-- A computation with a database. -/
abbrev SqlProgram := Script Sql.interface

/-- A computation with a database that may end in a failure. -/
abbrev SqlAction := ExceptT Failure SqlProgram

/-- Makes a request. -/
def query (request : Sql) : SqlProgram request.Reply := Script.request (I := Sql.interface) request

namespace SqlAction

variable {α : Type}

/-- A computation that may end in a failure, as one that says how it ended. -/
def attempt (action : SqlAction α) : SqlProgram (Except Failure α) := action.run

/-- A computation that says how it ended, as one that may end in a failure. -/
def ofProgram (program : SqlProgram (Except Failure α)) : SqlAction α := ExceptT.mk program

/-- A result that is known without any request. -/
def ofResult (result : Except SqlError α) : SqlAction α :=
  ofProgram (pure (result.mapError SqlError.toFailure))

end SqlAction

/-! ## Statements -/

/-- Takes a connection from the pool. -/
def acquire : SqlAction Connection := SqlAction.ofProgram do
  pure ((← query .acquire).mapError SqlError.toFailure)

/-- Sends a statement over a connection. -/
def send (connection : Connection) (statement : Statement) : SqlAction Answer :=
  SqlAction.ofProgram do
    pure ((← query (.send connection statement)).mapError SqlError.toFailure)

/-- Gives a connection back to the pool. -/
def giveBack (connection : Connection) : SqlProgram Unit := query (.giveBack connection)

/-- Sends a single statement, over a connection of its own. -/
def execute (statement : Statement) : SqlAction Answer := do
  let connection ← acquire
  SqlAction.ofProgram do
    let answer ← (send connection statement).attempt
    giveBack connection
    pure answer

/-- The first row of an answer, of which there must be one. -/
def Answer.oneRow (answer : Answer) : Except SqlError Row :=
  match answer.rows with
  | row :: _ => .ok row
  | [] => .error .rowNotFound

/-- The error of a row that has another shape than was asked for. -/
def misshapen : SqlError := .protocol "a row of another shape"

/-- The only column of a row, which says yes or no. -/
def readBool : Row → Except SqlError Bool
  | [.bool value] => .ok value
  | _ => .error misshapen

/-- A column with a time or nothing. -/
def readTime? : Value → Except SqlError (Option Moment)
  | .null => .ok none
  | .time value => .ok (some value)
  | _ => .error misshapen

/-- A column with a text or nothing. -/
def readText? : Value → Except SqlError (Option String)
  | .null => .ok none
  | .text value => .ok (some value)
  | _ => .error misshapen

/-! ## Transactions -/

/-- Opens a transaction on a connection of its own. -/
def openTransaction : SqlAction Connection := do
  let connection ← acquire
  SqlAction.ofProgram do
    match ← (send connection .begin).attempt with
    | .ok _ => pure (.ok connection)
    | .error failure =>
      giveBack connection
      pure (.error failure)

/-- Takes a transaction back, whatever the database says to that. -/
def abandon (connection : Connection) : SqlProgram Unit := do
  let _ ← query (.send connection .rollback)
  giveBack connection

/-- Ends a transaction with a statement. If that fails, the transaction is taken back. -/
def conclude (connection : Connection) (statement : Statement) : SqlAction Unit :=
  SqlAction.ofProgram do
    match ← (send connection statement).attempt with
    | .ok _ =>
      giveBack connection
      pure (.ok ())
    | .error failure =>
      abandon connection
      pure (.error failure)

/-- Runs a computation in a transaction, which lasts only if the computation succeeds. -/
def inTransaction {α : Type} (body : Connection → SqlAction α) : SqlAction α := do
  let connection ← openTransaction
  SqlAction.ofProgram do
    match ← (body connection).attempt with
    | .ok value =>
      (do
        conclude connection .commit
        pure value : SqlAction α).attempt
    | .error failure =>
      abandon connection
      pure (.error failure)

end Shortlink.Postgres
