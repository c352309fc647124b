import Shortlink.Postgres.Address
import Shortlink.Postgres.Migration
import Shortlink.Settings.Config
import Shortlink.Web.Socket
import Shortlink.Worker.Host

/-!
# The start of the service

What happens between the reading of the configuration and the first request: the database is
connected to and brought up to date, the outbox job is scheduled, and the address to listen
at is read. The first problem ends the start.
-/

namespace Shortlink

open Postgres (SqlProgram query)
open Settings (Config)

/-- A part of the start. -/
abbrev StartAction := ExceptT Report SqlProgram

namespace Startup

/-- A result that is known without any request. -/
def ofResult {α : Type} (result : Except Report α) : StartAction α := ExceptT.mk (pure result)

/-- Connects to the database. -/
def connectDatabase (config : Config) : StartAction Postgres.Connection := do
  let failed := Report.within "Failed to connect to database"
  ofResult ((Postgres.Address.check config.databaseUrl).mapError fun error => failed error.report)
  ExceptT.mk do
    pure ((← query .acquire).mapError fun error => failed error.report)

/-- Brings the tables up to date. -/
def migrate (connection : Postgres.Connection) : StartAction Unit :=
  ExceptT.mk do
    let result ← (Postgres.Migration.migrate connection Postgres.Migration.all).run
    query (.giveBack connection)
    pure (result.mapError fun error => .within "Failed to run migrations" error.report)

/-- Schedules the jobs that are known; others are left out. -/
def schedule : JobHost String → List JobSettings → Except Failure (JobHost String)
  | host, [] => .ok host
  | host, settings :: rest =>
    if settings.name = JobSettings.outboxJob then
      match host.register settings settings.name with
      | .ok host => schedule host rest
      | .error failure => .error failure
    else schedule host rest

/-- What is ready when the service has started. -/
structure Ready where
  host : JobHost String
  listen : Web.Socket

/-- What the configuration alone decides of the start. -/
def prepare (config : Config) : Except Report Ready := do
  let host ← (schedule .empty config.jobs).mapError fun failure => .plain failure.message
  match Web.Socket.parse? config.listenAddress.toList with
  | some listen => .ok ⟨host, listen⟩
  | none => .error (.plain Web.Socket.unreadable)

/-- Starts the service up to the point at which it listens. -/
def start (config : Config) : StartAction Ready := do
  let connection ← connectDatabase config
  migrate connection
  ofResult (prepare config)

end Startup

end Shortlink
