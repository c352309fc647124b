import Shortlink.Json.Printer
import Shortlink.Worker.OutboxJob

/-!
# Health

The health report: one check each for the store, the cache and the latest dispatch run. The
service is healthy if all of them are.
-/

namespace Shortlink

/-- The outcome of one check. -/
structure HealthCheck where
  isHealthy : Bool
  message : String
  deriving DecidableEq, Repr

namespace HealthCheck

/-- A check as JSON. -/
def toJson (check : HealthCheck) : Json :=
  .object [("status", .text (if check.isHealthy then "ok" else "error")),
    ("message", .text check.message)]

/-- The check of the store: it counts the messages that wait. -/
def ofStats : Except Failure OutboxStats → HealthCheck
  | .ok stats =>
    ⟨true, "Connected, " ++ toString stats.pending ++ " pending outbox messages"⟩
  | .error failure => ⟨false, "Database error: " ++ failure.message⟩

/-- The check of the cache. -/
def ofCache (isReachable : Bool) : HealthCheck :=
  if isReachable then ⟨true, "Cache reachable"⟩ else ⟨false, "Cache connection failed"⟩

/-- The check of the latest dispatch run. -/
def ofLast : Option LastDispatch → HealthCheck
  | none => ⟨true, "No dispatch run yet"⟩
  | some last =>
    match last.outcome with
    | .error message =>
      ⟨false, "Last run at " ++ Time.Stamp.numericText last.finished ++ " failed: " ++ message⟩
    | .ok report =>
      ⟨true, "Last run delivered " ++ toString report.delivered ++ " of " ++
        toString report.fetched ++ " messages"⟩

end HealthCheck

/-- The health report. -/
structure HealthReport where
  database : HealthCheck
  cache : HealthCheck
  outbox : HealthCheck
  deriving DecidableEq, Repr

namespace HealthReport

/-- The version that the report gives. -/
def version : String := "0.1.0"

/-- All checks are healthy. -/
def isHealthy (report : HealthReport) : Bool :=
  report.database.isHealthy && report.cache.isHealthy && report.outbox.isHealthy

/-- The report as JSON. -/
def toJson (report : HealthReport) : Json :=
  .object [("status", .text (if report.isHealthy then "healthy" else "degraded")),
    ("version", .text version),
    ("checks", .object [("database", report.database.toJson), ("cache", report.cache.toJson),
      ("outbox", report.outbox.toJson)])]

/-- Makes the checks. -/
def check (last : Option LastDispatch) : Program HealthReport := do
  let stats ← ask .outboxStats
  let isReachable ← ask .cacheHealthy
  pure ⟨.ofStats stats, .ofCache isReachable, .ofLast last⟩

end HealthReport

/-! ## The endpoint -/

/-- The answer to a request. -/
structure Response where
  status : Nat
  contentType : Option String
  body : String
  deriving DecidableEq, Repr

namespace HealthEndpoint

/-- The path of the endpoint. -/
def path : String := "/health"

/-- An answer without content. -/
def bare (status : Nat) : Response := ⟨status, none, ""⟩

/-- The answer with a report. -/
def answer (report : HealthReport) : Response :=
  ⟨if report.isHealthy then 200 else 503, some "application/json", report.toJson.compact⟩

/-- Answers a request. What follows a question mark in its target does not matter. -/
def respond (last : Option LastDispatch) (method target : String) : Program Response := do
  if String.ofList (target.toList.takeWhile (· != '?')) ≠ path then pure (bare 404)
  else if method = "GET" then pure (answer (← HealthReport.check last))
  else if method = "HEAD" then
    let response := answer (← HealthReport.check last)
    pure { response with body := "" }
  else pure (bare 405)

end HealthEndpoint

end Shortlink
