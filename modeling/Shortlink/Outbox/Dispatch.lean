import Shortlink.Outbox.Backoff
import Shortlink.Outbox.Bus

/-!
# Dispatch

A dispatch run takes a batch of waiting messages, publishes each with retries, and marks
all that it has reached as processed, with an error where decoding or every attempt failed.
Only the holder of the lease dispatches, and the lease is released at the end of the run
whatever its outcome.
-/

namespace Shortlink

/-- What a dispatch run has done. -/
structure DispatchReport where
  fetched : Nat := 0
  delivered : Nat := 0
  failed : Nat := 0
  undecodable : Nat := 0
  /-- Another dispatcher held the lease, and nothing was done. -/
  skipped : Bool := false
  deriving DecidableEq, Repr

namespace DispatchReport

/-- The number of messages that the run has marked as processed. -/
def processed (report : DispatchReport) : Nat :=
  report.delivered + report.failed + report.undecodable

/-- The report as JSON. -/
def toJson (report : DispatchReport) : Json :=
  .object [("fetched", .int report.fetched), ("delivered", .int report.delivered),
    ("failed", .int report.failed), ("undecodable", .int report.undecodable),
    ("skipped", .bool report.skipped)]

end DispatchReport

/-- What became of a message. -/
inductive Delivery where
  | delivered
  | failed (reason : String)
  | undecodable (reason : String)
  deriving DecidableEq, Repr

namespace Delivery

/-- The error that is stored with the message. -/
def error? : Delivery → Option String
  | .delivered => none
  | .failed reason => some reason
  | .undecodable reason => some reason

/-- The report with the delivery counted. -/
def count (report : DispatchReport) : Delivery → DispatchReport
  | .delivered => { report with delivered := report.delivered + 1 }
  | .failed _ => { report with failed := report.failed + 1 }
  | .undecodable _ => { report with undecodable := report.undecodable + 1 }

end Delivery

/-- A dispatcher: its settings and the bus that it publishes to. -/
structure Dispatcher where
  settings : DispatchSettings
  bus : Bus

namespace Dispatcher

/-- Waits before the retry `n`. -/
def pause (step n : Nat) : Program Unit :=
  match Backoff.pause? step n with
  | .ok duration => ask (.sleep duration)
  | .error cause => .abort cause

/-- Publishes an event again and again until it succeeds or no retry is left. `done` are
the retries so far. -/
def retry (bus : Bus) (step : Nat) (event : Event) : Nat → Nat → Action Unit
  | 0, _ => bus.publish event
  | left + 1, made => Action.ofProgram do
    match ← (bus.publish event).attempt with
    | .ok _ => pure (.ok ())
    | .error _ =>
      pause step (made + 1)
      (retry bus step event left (made + 1)).attempt

/-- Publishes the event of a message, with retries. -/
def deliver (dispatcher : Dispatcher) (message : Message) : Program Delivery := do
  match message.decode with
  | .error error => pure (.undecodable ("deserialization failed: " ++ error.message))
  | .ok event =>
    let retries := Backoff.retries dispatcher.settings.maxAttempts
    match ← (retry dispatcher.bus dispatcher.settings.retryStep event retries 0).attempt with
    | .ok _ => pure .delivered
    | .error failure => pure (.failed failure.message)

/-- Delivers messages in order until the run is cancelled. The result has the messages
reached, marked as processed. -/
def deliverAll (dispatcher : Dispatcher) :
    List Message → DispatchReport → Program (DispatchReport × List Message)
  | [], report => pure (report, [])
  | message :: rest, report => do
    if ← ask .isCancelled then pure (report, [])
    else
      let delivery ← dispatcher.deliver message
      let now ← ask .now
      let (report, processed) ← dispatcher.deliverAll rest (delivery.count report)
      pure (report, message.markProcessed now delivery.error? :: processed)

/-- Dispatches a batch. The lease must be held. -/
def dispatchBatch (dispatcher : Dispatcher) : Action DispatchReport := do
  let messages ← Action.ofProgram (ask (.fetchMessages dispatcher.settings.batchSize))
  let (report, processed) ← dispatcher.deliverAll messages { fetched := messages.length }
  if processed.isEmpty then pure report
  else
    Action.ofProgram (ask (.saveProcessed processed))
    pure report

/-- Dispatches a batch if nobody else does. A run that breaks off gives up its lease without a
release. -/
def runOnce (dispatcher : Dispatcher) : Action DispatchReport := do
  match ← Action.ofProgram (ask .tryLease) with
  | none => pure { skipped := true }
  | some lease => Action.ofProgram do
    let result ← dispatcher.dispatchBatch.attempt.onAbort (ask (.dropLease lease))
    let _ ← ask (.releaseLease lease)
    pure result

end Dispatcher

end Shortlink
