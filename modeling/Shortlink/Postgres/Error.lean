import Shortlink.Failure
import Shortlink.Report

/-!
# Database errors

What can go wrong between the service and its database, and the failures that this is
reported as: a violated uniqueness rule is a conflict, all else is internal.
-/

namespace Shortlink.Postgres

/-- An error that the database itself reported. -/
structure ServerError where
  message : String
  /-- Whether a uniqueness rule was violated. -/
  isUnique : Bool
  constraint : Option String
  deriving DecidableEq, Repr

namespace ServerError

/-- The state code of a violated uniqueness rule. -/
def uniqueViolation : String := "23505"

/-- An error with a state code. -/
def ofState (state message : String) (constraint : Option String) : ServerError :=
  ⟨message, state == uniqueViolation, constraint⟩

end ServerError

/-- Why a statement has no result. -/
inductive SqlError where
  | rowNotFound
  | poolTimedOut
  | poolClosed
  | workerCrashed
  | columnNotFound (name : String)
  | protocol (reason : String)
  | server (error : ServerError)
  deriving DecidableEq, Repr

namespace SqlError

/-- The state codes of refusals that pass: too many connections, and a server that is still
starting. -/
def passingStates : List String := ["53300", "57P03"]

/-- The error of a pool whose server refuses each connection. A refusal that may pass is
tried again until the time is up. -/
def ofRefusal (state message : String) : SqlError :=
  if passingStates.contains state then .poolTimedOut
  else .server (.ofState state message none)

/-- The wording of a database error. -/
def message : SqlError → String
  | .rowNotFound => "no rows returned by a query that expected to return at least one row"
  | .poolTimedOut => "pool timed out while waiting for an open connection"
  | .poolClosed => "attempted to acquire a connection on a closed pool"
  | .workerCrashed => "attempted to communicate with a crashed background worker"
  | .columnNotFound name => "no column found for name: " ++ name
  | .protocol reason => "encountered unexpected or invalid data: " ++ reason
  | .server error => "error returned from database: " ++ error.message

/-- What is said about a database error: its wording, and behind it that of the database. -/
def report : SqlError → Report
  | .server error => .within (SqlError.server error).message (.plain error.message)
  | error => .plain error.message

/-- The failure that a database error is reported as. -/
def toFailure : SqlError → Failure
  | .server error =>
    if error.isUnique then .duplicate error.constraint
    else .database (SqlError.server error).message
  | error => .database error.message

end SqlError

end Shortlink.Postgres
