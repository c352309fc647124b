import Shortlink.Effect

/-!
# The event bus

Handlers subscribe to a type of events under a consumer name. An event goes to all handlers
of its type in the order of their subscription; each of them runs until it has succeeded
once for the event, which a marker records.
-/

namespace Shortlink

/-- What is done about an event. -/
abbrev Handler := Event → Action Unit

/-- The handler that leaves an event to an external consumer and waits for it. -/
def Handler.external (consumer : String) : Handler := fun event => do
  let consultation ← ask (.consult consumer event)
  ask (.sleep consultation.duration)
  Action.ofProgram (pure consultation.outcome)

/-- A handler of a type of events, with the name under which its success is recorded. -/
structure Subscription where
  eventType : String
  consumer : String
  handler : Handler

namespace Subscription

/-- Records that the consumer has handled an event. A marker that is already there does no
harm. -/
def mark (subscription : Subscription) (event : Event) : Action Unit := Action.ofProgram do
  match ← ask (.markConsumed ⟨event.id, subscription.consumer⟩) with
  | .ok _ => pure (.ok ())
  | .error failure => pure (if failure.isConflict then .ok () else .error failure)

/-- Has the handler handle an event, unless it has done so before. -/
def deliver (subscription : Subscription) (event : Event) : Action Unit := do
  if ← Action.ofProgram (ask (.isConsumed ⟨event.id, subscription.consumer⟩)) then pure ()
  else
    subscription.handler event
    subscription.mark event

end Subscription

/-- The subscriptions, no two of the same consumer to the same type of events. -/
structure Bus where
  subscriptions : List Subscription

namespace Bus

/-- What a consumer name must be unique for. -/
def key (subscription : Subscription) : String × String :=
  (subscription.eventType, subscription.consumer)

/-- The first subscription whose consumer name occurs before it for the same type of
events; `seen` are the names before. -/
def duplicate? : List (String × String) → List Subscription → Option Subscription
  | _, [] => none
  | seen, subscription :: rest =>
    if seen.contains (key subscription) then some subscription
    else duplicate? (key subscription :: seen) rest

/-- The bus with the given subscriptions. -/
def of (subscriptions : List Subscription) : Except Failure Bus :=
  match duplicate? [] subscriptions with
  | some subscription =>
    .error (.duplicateConsumer subscription.eventType subscription.consumer)
  | none => .ok ⟨subscriptions⟩

/-- The subscriptions to a type of events. -/
def subscribers (bus : Bus) (eventType : String) : List Subscription :=
  bus.subscriptions.filter (·.eventType == eventType)

/-- Delivers an event to each of the subscriptions. The result has one text for each that
failed. -/
def deliverAll (event : Event) : List Subscription → Program (List String)
  | [] => pure []
  | subscription :: rest => do
    let result ← (subscription.deliver event).attempt
    let failures ← deliverAll event rest
    match result with
    | .ok _ => pure failures
    | .error failure => pure ((subscription.consumer ++ ": " ++ failure.message) :: failures)

/-- Delivers an event to all its subscribers. A failure of one does not keep it from the
others. -/
def publish (bus : Bus) (event : Event) : Action Unit := Action.ofProgram do
  match ← deliverAll event (bus.subscribers event.typeName) with
  | [] => pure (.ok ())
  | failures => pure (.error (.handlers event.id.toString event.typeName failures))

end Bus

end Shortlink
