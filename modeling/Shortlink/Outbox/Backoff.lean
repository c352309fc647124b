import Shortlink.Json
import Shortlink.Number.Bounds
import Shortlink.Script

/-!
# Backoff

How often the delivery of a message is tried, and how long it pauses in between: before the
retry `n` for `n` times the step.
-/

namespace Shortlink

/-- How a dispatch run goes about its messages. Times are in milliseconds. -/
structure DispatchSettings where
  /-- The greatest number of messages of one run. -/
  batchSize : Int
  /-- How often a message is published at most, the first time included. -/
  maxAttempts : Nat
  /-- The pause before the first retry. -/
  retryStep : Nat
  deriving DecidableEq, Repr

namespace DispatchSettings

/-- The settings where nothing else is asked for. -/
def standard : DispatchSettings := ⟨10, 3, 100⟩

/-- The settings as JSON. -/
def toJson (settings : DispatchSettings) : Json :=
  .object [("batch_size", .int settings.batchSize), ("max_attempts", .int settings.maxAttempts),
    ("retry_step_ms", .int settings.retryStep)]

end DispatchSettings

namespace Backoff

/-- The number of retries after the first attempt. Only the low 32 bits of the number of
attempts count. -/
def retries (maxAttempts : Nat) : Nat := (maxAttempts &&& Number.maxWord32) - 1

/-- The pause before the retry `n`, unless its whole seconds do not fit in 64 bits. -/
def pause? (step n : Nat) : Except Abort Nat :=
  if step * n / 1000 ≤ Number.maxWord64 then .ok (step * n) else .error .delayOverflow

/-- The first `count` pauses, or as many as there are. -/
def pauses (step maxAttempts count : Nat) : Except Abort (List Nat) :=
  (List.range (min count (retries maxAttempts))).mapM fun n => pause? step (n + 1)

end Backoff

end Shortlink
