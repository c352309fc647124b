/-!
# Scripts

A script is a computation that can only put requests to its surroundings and go on
with their replies. It performs nothing itself, so one script can be run against an
in-memory store, a scripted database or a faulty one, and two scripts can be
interleaved request by request.
-/

namespace Shortlink

/-- The requests that a script may make, and for each of them the type of its reply. -/
structure Interface where
  Request : Type
  Reply : Request → Type

/-- The ways in which a step breaks off without a result. -/
inductive Abort where
  /-- The offset of a page leaves the signed 64-bit range. -/
  | offsetOverflow
  /-- The moment at which a cache entry would expire is not representable. -/
  | expiryOverflow
  /-- A retry delay has more seconds than fit in 64 bits. -/
  | delayOverflow
  /-- A row of characters would take more bytes than there can be. -/
  | capacityOverflow
  /-- No free code turned up among the draws that were allowed. -/
  | drawsExhausted
  deriving DecidableEq, Repr

/-- What is reported about a step that broke off. -/
def Abort.message : Abort → String
  | .offsetOverflow => "attempt to multiply with overflow"
  | .expiryOverflow => "overflow when adding duration to instant"
  | .delayOverflow => "overflow when multiplying duration by scalar"
  | .capacityOverflow => "capacity overflow"
  | .drawsExhausted => "no free code among the allowed draws"

/-- A computation with result type `α` over the requests of `I`. -/
inductive Script (I : Interface) (α : Type) where
  | done (value : α)
  | abort (cause : Abort)
  | ask (request : I.Request) (next : I.Reply request → Script I α)

namespace Script

variable {I J : Interface} {α β σ : Type}

/-- Continues with the result of a script. -/
def andThen : Script I α → (α → Script I β) → Script I β
  | done value, next => next value
  | abort cause, _ => abort cause
  | ask request reply, next => ask request fun answer => (reply answer).andThen next

instance : Monad (Script I) where
  pure := done
  bind := andThen

/-- The script that makes one request and returns its reply. -/
def request (r : I.Request) : Script I (I.Reply r) := ask r done

@[simp] theorem andThen_done (value : α) (next : α → Script I β) :
    (done value).andThen next = next value := rfl

@[simp] theorem andThen_abort (cause : Abort) (next : α → Script I β) :
    (abort cause : Script I α).andThen next = abort cause := rfl

@[simp] theorem andThen_ask (r : I.Request) (reply : I.Reply r → Script I α)
    (next : α → Script I β) :
    (ask r reply).andThen next = ask r fun answer => (reply answer).andThen next := rfl

theorem andThen_assoc {γ : Type} (script : Script I α) (f : α → Script I β)
    (g : β → Script I γ) :
    (script.andThen f).andThen g = script.andThen fun value => (f value).andThen g := by
  induction script with
  | done value => rfl
  | abort cause => rfl
  | ask r reply ih => simp [ih]

/-- Runs a script against surroundings with a state: each request is answered, or the
script is broken off, and the state moves on either way. -/
def run (answer : (r : I.Request) → σ → Except Abort (I.Reply r) × σ) :
    Script I α → σ → Except Abort α × σ
  | done value, state => (.ok value, state)
  | abort cause, state => (.error cause, state)
  | ask r next, state =>
    match answer r state with
    | (.ok reply, state) => (next reply).run answer state
    | (.error cause, state) => (.error cause, state)

/-- Has a script that breaks off run another one before it does. -/
def onAbort : Script I α → Script I Unit → Script I α
  | done value, _ => done value
  | abort cause, cleanup => cleanup.andThen fun _ => abort cause
  | ask r next, cleanup => ask r fun reply => (next reply).onAbort cleanup

/-- Replaces every request by a script over another interface. -/
def interpret (implement : (r : I.Request) → Script J (I.Reply r)) :
    Script I α → Script J α
  | done value => done value
  | abort cause => abort cause
  | ask r next => (implement r).andThen fun reply => (next reply).interpret implement

end Script

end Shortlink
