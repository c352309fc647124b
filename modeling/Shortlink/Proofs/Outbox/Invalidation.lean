import Shortlink.Proofs.Outbox.Dispatch
import Shortlink.Proofs.Outbox.Events

/-!
# The requests of invalidation

Each type of events has one subscription on the bus of the service, whose handler drops what
the event has made stale.
-/

namespace Shortlink

namespace Invalidation

theorem dropPages_eq :
    dropPages.attempt = .ask (Effect.cacheRemoveAll Cache.listStem) fun
      | .ok _ => .done (.ok ())
      | .error error => .done (.error (.invalidation error.message)) := by
  apply Script.ask_congr
  intro reply
  cases reply with
  | ok count => rfl
  | error error => rfl

/-- What is dropped from the cache because of an event. -/
def drop (event : Event) : Program (Except Failure Unit) :=
  match event.payload with
  | .created _ => dropPages.attempt
  | .removed removed =>
    .ask (Effect.cacheRemove (Cache.codeKey removed.code)) fun
      | .ok _ => dropPages.attempt
      | .error error => .done (.error (.invalidation error.message))

theorem onCreated_eq {event : Event} {value : LinkCreated}
    (isCreated : event.payload = .created value) : (onCreated event).attempt = drop event := by
  rw [onCreated, drop, isCreated]

theorem onRemoved_eq {event : Event} {value : LinkRemoved}
    (isRemoved : event.payload = .removed value) : (onRemoved event).attempt = drop event := by
  rw [onRemoved, drop, isRemoved]
  apply Script.ask_congr
  intro reply
  cases reply with
  | ok _ => rfl
  | error error => rfl

/-- All that the handlers of the service ask for. -/
def IsInvalidation : Effect → Prop
  | .cacheRemove _ | .cacheRemoveAll _ => True
  | _ => False

theorem dropPages_asks : dropPages.attempt.Asks IsInvalidation := by
  rw [dropPages_eq]
  refine ⟨True.intro, fun reply => ?_⟩
  cases reply with
  | ok count => exact True.intro
  | error error => exact True.intro

theorem drop_asks (event : Event) : (drop event).Asks IsInvalidation := by
  rw [drop]
  cases event.payload with
  | created value => exact dropPages_asks
  | removed value =>
      refine ⟨True.intro, fun reply => ?_⟩
      cases reply with
      | ok _ => exact dropPages_asks
      | error error => exact True.intro

theorem onCreated_asks (event : Event) : (onCreated event).attempt.Asks IsInvalidation := by
  cases kind : event.payload with
  | created value =>
      rw [onCreated_eq kind]
      exact drop_asks event
  | removed value =>
      rw [onCreated, kind]
      exact True.intro

theorem onRemoved_asks (event : Event) : (onRemoved event).attempt.Asks IsInvalidation := by
  cases kind : event.payload with
  | created value =>
      rw [onRemoved, kind]
      exact True.intro
  | removed value =>
      rw [onRemoved_eq kind]
      exact drop_asks event

end Invalidation

/-- The handlers of the service only ask the cache to drop entries. -/
theorem Bus.standard_handles : standard.Handles Invalidation.IsInvalidation := by
  intro subscription member event
  simp only [standard, List.mem_cons, List.not_mem_nil, or_false] at member
  rcases member with rfl | rfl
  · exact Invalidation.onCreated_asks event
  · exact Invalidation.onRemoved_asks event

/-- A dispatcher with the bus of the service. -/
def Dispatcher.standard (settings : DispatchSettings) : Dispatcher := ⟨settings, .standard⟩

/-- Of the bus of the service an event reaches one consumer, which drops what is stale. -/
theorem Bus.subscribers_standard (event : Event) :
    ∃ subscription, standard.subscribers event.typeName = [subscription] ∧
      subscription.marker event = event.marker ∧
      (subscription.handler event).attempt = Invalidation.drop event := by
  cases kind : event.payload with
  | created value =>
      refine ⟨⟨EventType.created.name, Invalidation.createdConsumer, Invalidation.onCreated⟩,
        ?_, ?_, Invalidation.onCreated_eq kind⟩
      · rw [Event.typeName, kind]
        rfl
      · rw [Event.marker, kind]
        rfl
  | removed value =>
      refine ⟨⟨EventType.removed.name, Invalidation.removedConsumer, Invalidation.onRemoved⟩,
        ?_, ?_, Invalidation.onRemoved_eq kind⟩
      · rw [Event.typeName, kind]
        rfl
      · rw [Event.marker, kind]
        rfl

end Shortlink
