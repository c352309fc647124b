import Shortlink.Outbox.Dispatch
import Shortlink.Proofs.Script.Requests

/-!
# The requests of a dispatch run

The parts of a dispatch run as the trees of requests that they are. What is proved of a run
starts from here.
-/

namespace Shortlink

theorem Handler.external_eq (consumer : String) (event : Event) :
    (Handler.external consumer event).attempt =
      .ask (Effect.consult consumer event) fun consultation =>
        .ask (Effect.sleep consultation.duration) fun _ => .done consultation.outcome := rfl

namespace Subscription

variable (subscription : Subscription) (event : Event)

/-- The mark that the consumer of a subscription has handled an event. -/
def marker : Marker := ⟨event.id, subscription.consumer⟩

theorem mark_eq :
    (subscription.mark event).attempt =
      .ask (Effect.markConsumed (subscription.marker event)) fun
        | .ok _ => .done (.ok ())
        | .error failure => .done (if failure.isConflict then .ok () else .error failure) := by
  apply Script.ask_congr
  intro reply
  cases reply with
  | ok _ => rfl
  | error failure => rfl

theorem deliver_eq :
    (subscription.deliver event).attempt =
      .ask (Effect.isConsumed (subscription.marker event)) fun
        | .ok true => .done (.ok ())
        | .ok false =>
          (subscription.handler event).attempt.andThen fun
            | .ok _ => (subscription.mark event).attempt
            | .error failure => .done (.error failure)
        | .error failure => .done (.error failure) := by
  apply Script.ask_congr
  intro reply
  match reply with
  | .ok true => rfl
  | .ok false =>
      apply Script.andThen_congr (subscription.handler event).attempt
      intro result
      cases result with
      | ok _ => rfl
      | error failure => rfl
  | .error failure => rfl

end Subscription

namespace Bus

/-- The texts of the failures after one more delivery. -/
def failuresAfter (subscription : Subscription) (result : Except Failure Unit)
    (failures : List String) : List String :=
  match result with
  | .ok _ => failures
  | .error failure => (subscription.consumer ++ ": " ++ failure.message) :: failures

theorem deliverAll_cons (event : Event) (subscription : Subscription)
    (rest : List Subscription) :
    deliverAll event (subscription :: rest) =
      (subscription.deliver event).attempt.andThen fun result =>
        (deliverAll event rest).andThen fun failures =>
          .done (failuresAfter subscription result failures) := by
  apply Script.andThen_congr
  intro result
  cases result with
  | ok _ => rfl
  | error failure => rfl

/-- How a publication ends with these failures. -/
def publication (event : Event) (failures : List String) : Except Failure Unit :=
  if failures.isEmpty then .ok ()
  else .error (.handlers event.id.toString event.typeName failures)

theorem publish_eq (bus : Bus) (event : Event) :
    (bus.publish event).attempt =
      (deliverAll event (bus.subscribers event.typeName)).andThen fun failures =>
        .done (publication event failures) := by
  apply Script.andThen_congr
  intro failures
  cases failures with
  | nil => rfl
  | cons failure rest => rfl

end Bus

namespace Dispatcher

theorem retry_succ (bus : Bus) (step : Nat) (event : Event) (left made : Nat) :
    (retry bus step event (left + 1) made).attempt =
      (bus.publish event).attempt.andThen fun
        | .ok _ => .done (.ok ())
        | .error _ =>
          (pause step (made + 1)).andThen fun _ =>
            (retry bus step event left (made + 1)).attempt := by
  apply Script.andThen_congr
  intro result
  cases result with
  | ok _ => rfl
  | error failure => rfl

/-- What becomes of a message whose publication has ended so. -/
def delivery : Except Failure Unit → Delivery
  | .ok _ => .delivered
  | .error failure => .failed failure.message

theorem deliver_eq (dispatcher : Dispatcher) (message : Message) :
    dispatcher.deliver message =
      match message.decode with
      | .error error => .done (.undecodable ("deserialization failed: " ++ error.message))
      | .ok event =>
        (retry dispatcher.bus dispatcher.settings.retryStep event
            (Backoff.retries dispatcher.settings.maxAttempts) 0).attempt.andThen fun result =>
          .done (delivery result) := by
  unfold deliver
  cases message.decode with
  | error error => rfl
  | ok event =>
      apply Script.andThen_congr
      intro result
      cases result with
      | ok _ => rfl
      | error failure => rfl

theorem deliverAll_cons (dispatcher : Dispatcher) (message : Message) (rest : List Message)
    (report : DispatchReport) :
    dispatcher.deliverAll (message :: rest) report =
      .ask Effect.isCancelled fun
        | true => .done (report, [])
        | false =>
          (dispatcher.deliver message).andThen fun delivery =>
            .ask Effect.now fun now =>
              (dispatcher.deliverAll rest (delivery.count report)).andThen fun reached =>
                .done (reached.1, message.markProcessed now delivery.error? :: reached.2) := by
  apply Script.ask_congr
  intro isCancelled
  cases isCancelled with
  | true => rfl
  | false => rfl

theorem dispatchBatch_eq (dispatcher : Dispatcher) :
    dispatcher.dispatchBatch.attempt =
      .ask (Effect.fetchMessages dispatcher.settings.batchSize) fun
        | .error failure => .done (.error failure)
        | .ok messages =>
          (dispatcher.deliverAll messages { fetched := messages.length }).andThen fun reached =>
            if reached.2.isEmpty then .done (.ok reached.1)
            else
              .ask (Effect.saveProcessed reached.2) fun
                | .ok _ => .done (.ok reached.1)
                | .error failure => .done (.error failure) := by
  apply Script.ask_congr
  intro reply
  cases reply with
  | error failure => rfl
  | ok messages =>
      refine (Script.andThen_assoc (dispatcher.deliverAll messages _) _ _).trans
        (Script.andThen_congr _ fun reached => ?_)
      rcases reached with ⟨report, processed⟩
      cases processed with
      | nil => rfl
      | cons message rest =>
          apply Script.ask_congr
          intro reply
          cases reply with
          | ok _ => rfl
          | error failure => rfl

theorem runOnce_eq (dispatcher : Dispatcher) :
    dispatcher.runOnce.attempt =
      .ask Effect.tryLease fun
        | .error failure => .done (.error failure)
        | .ok none => .done (.ok { skipped := true })
        | .ok (some lease) =>
          (dispatcher.dispatchBatch.attempt.onAbort (ask (.dropLease lease))).andThen fun result =>
            .ask (Effect.releaseLease lease) fun _ => .done result := by
  apply Script.ask_congr
  intro reply
  match reply with
  | .error failure => rfl
  | .ok none => rfl
  | .ok (some lease) => rfl

end Dispatcher

/-! ## Properties of a batch -/

/-- All that a batch asks for by itself, apart from the deliveries to its consumers. -/
def Dispatcher.IsBatchwork : Effect → Prop
  | .fetchMessages _ | .saveProcessed _ | .isCancelled | .now | .sleep _ => True
  | _ => False

section compositional

variable {fine : (α : Type) → Program α → Prop} {allowed : Effect → Prop}

/-- What holds of a handler and passes to scripts that are composed of it holds of a delivery. -/
theorem Subscription.deliver_fine (compositional : Script.Compositional allowed fine)
    {subscription : Subscription} {event : Event}
    (consults : allowed (.isConsumed (subscription.marker event)))
    (marks : allowed (.markConsumed (subscription.marker event)))
    (handles : fine _ (subscription.handler event).attempt) :
    fine _ (subscription.deliver event).attempt := by
  rw [deliver_eq]
  refine compositional.ask consults fun reply => ?_
  match reply with
  | .ok true => exact compositional.done _
  | .error failure => exact compositional.done _
  | .ok false =>
      apply compositional.andThen handles
      intro result
      cases result with
      | error failure => exact compositional.done _
      | ok _ =>
          simp only [mark_eq]
          refine compositional.ask marks fun reply => ?_
          cases reply with
          | ok _ => exact compositional.done _
          | error failure => exact compositional.done _

theorem Bus.deliverAll_fine (compositional : Script.Compositional allowed fine) {event : Event}
    {subscriptions : List Subscription}
    (delivers : ∀ subscription ∈ subscriptions, fine _ (subscription.deliver event).attempt) :
    fine _ (deliverAll event subscriptions) := by
  induction subscriptions with
  | nil => exact compositional.done []
  | cons subscription rest ih =>
      rw [List.forall_mem_cons] at delivers
      rw [deliverAll_cons]
      apply compositional.andThen delivers.1
      exact fun _ => compositional.andThen (ih delivers.2) fun _ => compositional.done _

theorem Dispatcher.pause_fine (compositional : Script.Compositional allowed fine)
    (sleeps : ∀ duration, allowed (.sleep duration)) (aborts : ∀ cause, fine Unit (.abort cause))
    (step n : Nat) : fine _ (pause step n) := by
  unfold pause
  cases Backoff.pause? step n with
  | ok duration => exact compositional.ask (sleeps duration) fun _ => compositional.done ()
  | error cause => exact aborts cause

section event

variable {bus : Bus} {event : Event} (delivers : ∀ subscription ∈ bus.subscriptions,
  fine _ (subscription.deliver event).attempt)
include delivers

/-- What holds of the deliveries to consumers and passes to scripts that are composed of them
holds of a publication, which asks for nothing by itself. -/
theorem Bus.publish_fine (compositional : Script.Compositional allowed fine) :
    fine _ (bus.publish event).attempt := by
  rw [publish_eq]
  refine compositional.andThen (deliverAll_fine compositional ?_) fun _ => compositional.done _
  intro subscription member
  exact delivers subscription (List.mem_filter.mp member).1

theorem Dispatcher.retry_fine (compositional : Script.Compositional allowed fine)
    (step left made : Nat)
    (pauses : ∀ n, made < n → n ≤ made + left → fine _ (pause step n)) :
    fine _ (retry bus step event left made).attempt := by
  induction left generalizing made with
  | zero => exact bus.publish_fine delivers compositional
  | succ left ih =>
      rw [retry_succ]
      apply compositional.andThen (bus.publish_fine delivers compositional)
      intro result
      cases result with
      | ok _ => exact compositional.done _
      | error failure =>
          apply compositional.andThen (pauses (made + 1) (by omega) (by omega))
          exact fun _ => ih (made + 1) fun n later within => pauses n (by omega) (by omega)

end event

namespace Dispatcher

variable {bus : Bus} (delivers : ∀ subscription ∈ bus.subscriptions, ∀ event,
  fine _ (subscription.deliver event).attempt)
include delivers

variable {settings : DispatchSettings}

section deliveries

variable (compositional : Script.Compositional allowed fine)
include compositional

variable (pauses : ∀ n, 0 < n → n ≤ Backoff.retries settings.maxAttempts →
  fine _ (pause settings.retryStep n))
include pauses

theorem deliver_fine (message : Message) : fine _ (deliver ⟨settings, bus⟩ message) := by
  rw [deliver_eq]
  cases message.decode with
  | error error => exact compositional.done _
  | ok event =>
      refine compositional.andThen ?_ fun _ => compositional.done _
      apply retry_fine (fun subscription member => delivers subscription member event) compositional
      intro n later within
      rw [Nat.zero_add] at within
      exact pauses n later within

theorem deliverAll_fine (checks : allowed .isCancelled) (stamps : allowed .now)
    (messages : List Message) (report : DispatchReport) :
    fine _ (deliverAll ⟨settings, bus⟩ messages report) := by
  induction messages generalizing report with
  | nil => exact compositional.done _
  | cons message rest ih =>
      rw [deliverAll_cons]
      refine compositional.ask checks fun isCancelled => ?_
      cases isCancelled with
      | true => exact compositional.done _
      | false =>
          apply compositional.andThen (deliver_fine delivers compositional pauses message)
          intro delivery
          refine compositional.ask stamps fun now => ?_
          exact compositional.andThen (ih _) fun _ => compositional.done _

end deliveries

/-- What holds of the deliveries to consumers and of the pauses, and passes to scripts that are
composed of them, holds of a batch. -/
theorem dispatchBatch_fine (compositional : Script.Compositional IsBatchwork fine)
    (pauses : ∀ n, 0 < n → n ≤ Backoff.retries settings.maxAttempts →
      fine _ (pause settings.retryStep n)) :
    fine _ (dispatchBatch ⟨settings, bus⟩).attempt := by
  rw [dispatchBatch_eq]
  refine compositional.ask True.intro fun reply => ?_
  cases reply with
  | error failure => exact compositional.done _
  | ok messages =>
      apply compositional.andThen
        (deliverAll_fine delivers compositional pauses True.intro True.intro messages _)
      intro reached
      split
      · exact compositional.done _
      · refine compositional.ask True.intro fun saved => ?_
        cases saved with
        | ok _ => exact compositional.done _
        | error failure => exact compositional.done _

end Dispatcher

end compositional

/-! ## The kinds of requests -/

/-- All that a batch asks for, without its handlers. -/
def Dispatcher.IsDelivery : Effect → Prop
  | .isConsumed _ | .markConsumed _ => True
  | request => IsBatchwork request

theorem Dispatcher.IsBatchwork.isDelivery {request : Effect} (isBatchwork : IsBatchwork request) :
    IsDelivery request := by
  cases request with
  | isConsumed | markConsumed => exact True.intro
  | _ => exact isBatchwork

/-- All that a dispatch run asks for by itself, without its handlers. -/
def Dispatcher.IsDispatch : Effect → Prop
  | .tryLease | .releaseLease _ | .dropLease _ => True
  | request => IsDelivery request

theorem Dispatcher.IsDelivery.isDispatch {request : Effect} (isDelivery : IsDelivery request) :
    IsDispatch request := by
  cases request with
  | tryLease | releaseLease | dropLease => exact True.intro
  | _ => exact isDelivery

/-- All handlers of a bus only make requests of a kind. -/
def Bus.Handles (bus : Bus) (allowed : Effect → Prop) : Prop :=
  ∀ subscription ∈ bus.subscriptions, ∀ event,
    (subscription.handler event).attempt.Asks allowed

theorem Bus.Handles.mono {bus : Bus} {allowed more : Effect → Prop}
    (handles : bus.Handles allowed) (wider : ∀ request, allowed request → more request) :
    bus.Handles more :=
  fun subscription member event => (handles subscription member event).mono wider

variable {allowed : Effect → Prop}

theorem Subscription.deliver_asks {subscription : Subscription} {event : Event}
    (delivery : ∀ request, Dispatcher.IsDelivery request → allowed request)
    (handles : (subscription.handler event).attempt.Asks allowed) :
    (subscription.deliver event).attempt.Asks allowed :=
  deliver_fine Script.compositional_asks (delivery _ True.intro) (delivery _ True.intro) handles

/-- A batch asks for nothing beside its own requests and those of its handlers. -/
theorem Dispatcher.dispatchBatch_asks {dispatcher : Dispatcher}
    (delivery : ∀ request, IsDelivery request → allowed request)
    (handles : dispatcher.bus.Handles allowed) : dispatcher.dispatchBatch.attempt.Asks allowed := by
  have batchwork (request : Effect) (isBatchwork : IsBatchwork request) : allowed request :=
    delivery request isBatchwork.isDelivery
  have compositional := (Script.compositional_asks (I := Effect.interface)).mono batchwork
  apply dispatchBatch_fine _ compositional
  · exact fun n _ _ => pause_fine compositional (fun _ => True.intro) (fun _ => True.intro) _ n
  · exact fun subscription member event =>
      Subscription.deliver_asks delivery (handles subscription member event)

/-- A run asks for nothing beside its own requests and those of its handlers. -/
theorem Dispatcher.runOnce_asks {dispatcher : Dispatcher}
    (dispatch : ∀ request, IsDispatch request → allowed request)
    (handles : dispatcher.bus.Handles allowed) : dispatcher.runOnce.attempt.Asks allowed := by
  have batch : dispatcher.dispatchBatch.attempt.Asks allowed :=
    dispatchBatch_asks (fun request isDelivery => dispatch request isDelivery.isDispatch) handles
  rw [runOnce_eq]
  refine ⟨dispatch _ True.intro, fun reply => ?_⟩
  match reply with
  | .error failure => exact True.intro
  | .ok none => exact True.intro
  | .ok (some lease) =>
      have drops : (ask (.dropLease lease)).Asks allowed :=
        ⟨dispatch _ True.intro, fun _ => True.intro⟩
      apply (batch.onAbort drops).andThen
      exact fun _ => ⟨dispatch _ True.intro, fun _ => True.intro⟩

end Shortlink
