import Shortlink.Outbox.Dispatch
import Shortlink.Time.Stamp

/-!
# The outbox job

One run of the job is one dispatch run, and its outcome is kept for the health report.
-/

namespace Shortlink

open Time (Moment)

/-- The outcome of the latest dispatch run. -/
structure LastDispatch where
  finished : Moment
  /-- The report of the run, or the message of its failure. -/
  outcome : Except String DispatchReport

namespace LastDispatch

/-- The report of the run. -/
def report? (last : LastDispatch) : Option DispatchReport := last.outcome.toOption

/-- The message of the failure of the run. -/
def error? (last : LastDispatch) : Option String :=
  match last.outcome with
  | .ok _ => none
  | .error message => some message

/-- The outcome as JSON. -/
def toJson (last : LastDispatch) : Json :=
  .object [("finished_at", .text (Time.Stamp.toString last.finished)),
    ("report", Json.optional DispatchReport.toJson last.report?),
    ("error", .optionalText last.error?)]

end LastDispatch

namespace OutboxJob

/-- Runs a dispatch and notes its outcome. -/
def run (dispatcher : Dispatcher) : Program (Except Failure Unit × LastDispatch) := do
  let result ← dispatcher.runOnce.attempt
  let finished ← ask .now
  match result with
  | .ok report => pure (.ok (), ⟨finished, .ok report⟩)
  | .error failure => pure (.error failure, ⟨finished, .error failure.message⟩)

end OutboxJob

end Shortlink
