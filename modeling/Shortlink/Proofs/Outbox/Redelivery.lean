import Shortlink.Proofs.Link.Event
import Shortlink.Proofs.Outbox.Consumption
import Shortlink.Proofs.Script.Alone

/-!
# Deliveries beside a store of markers that fails

A consumer is marked only after its handler has ended well. If the store of markers refuses the
mark, nothing tells of the success, and the handler runs once more: with the next retry, or when
the message is delivered again. So a handler ends well as often as its mark is refused, and once
more for the mark that is stored.
-/

namespace Shortlink

namespace Redelivery

open Consumption (success? successes successes_extend)

/-! ## A store of markers that fails -/

/-- The answer where the store of markers may refuse any request with a failure. Where it does
not it tells the truth, and a refusal that is a conflict means that the mark is there. -/
def answer (chance : Chance × Option Failure) (request : Effect) (shared : Shared) :
    Except Abort request.Reply × Shared :=
  match request, chance.2 with
  | .isConsumed _, some failure => shared.query (.error failure)
  | .markConsumed marker, some failure =>
    shared.onStore fun store =>
      (.error failure, if failure.isConflict then store.markConsumed marker else store)
  | request, _ => Shared.answer chance.1 request shared

/-- The surroundings of deliveries beside such a store. -/
def surroundings : Surroundings Effect.interface Shared where
  Chance := Chance × Option Failure
  answer := answer
  Disturbance := Empty
  disturb := nofun

/-- The mark that an exchange has been refused, so that nothing is known of it. -/
def refusal? : Exchange Unit Effect.interface Shared → Option Marker
  | ⟨_, .markConsumed marker, .ok (.error failure), _, _⟩ =>
    if failure.isConflict then none else some marker
  | _ => none

/-- All marks that have been refused, as often as they have. -/
def refusals (course : SharedCourse Unit) : List Marker := course.history.filterMap refusal?

/-- The course after messages have been delivered one after another, each with its retries. -/
def afterDeliveries (dispatcher : Dispatcher) (course : SharedCourse Unit)
    (deliveries : List (Message × (Nat → Chance × Option Failure))) : SharedCourse Unit :=
  deliveries.foldl (fun course delivery =>
    ((surroundings.recorded ()).perform delivery.2 (dispatcher.deliver delivery.1) course).2)
    course

/-! ## The account of successes -/

variable {course : SharedCourse Unit} {owed left : List Marker} {α : Type}

/-- Each success has been marked or its mark has been refused, except those that are owed a mark,
and no mark is stored twice. -/
structure Balanced (owed : List Marker) (course : SharedCourse Unit) : Prop where
  account : (successes course).Perm (owed ++ (refusals course ++ course.state.store.markers))
  once : course.state.store.markers.Nodup

theorem refusals_extend (course : SharedCourse Unit)
    (exchange : Exchange Unit Effect.interface Shared) :
    refusals (course.extend exchange) = refusals course ++ (refusal? exchange).toList :=
  course.filterMap_extend refusal? exchange

/-- The rule of exchanges: what was owed and what has ended well is owed still, or refused, or
marked. -/
theorem Balanced.extend (balanced : Balanced owed course)
    {exchange : Exchange Unit Effect.interface Shared} {marked : List Marker}
    (markers : exchange.after.store.markers = course.state.store.markers ++ marked)
    (once : (course.state.store.markers ++ marked).Nodup)
    (settles : (owed ++ (success? exchange).toList).Perm
      (left ++ ((refusal? exchange).toList ++ marked))) :
    Balanced left (course.extend exchange) := by
  have account := balanced.account
  refine ⟨?_, ?_⟩
  · rw [successes_extend, refusals_extend, Course.extend_state, markers]
    rw [List.perm_iff_count] at account settles ⊢
    intro marker
    have before := account marker
    have change := settles marker
    simp only [List.count_append] at before change ⊢
    omega
  · rw [Course.extend_state, markers]
    exact once

/-- An exchange that stores no mark: what has ended well is owed, or its mark is refused. -/
theorem Balanced.unmarked (balanced : Balanced owed course)
    {exchange : Exchange Unit Effect.interface Shared}
    (markers : exchange.after.store.markers = course.state.store.markers)
    (settles : owed ++ (success? exchange).toList = left ++ (refusal? exchange).toList) :
    Balanced left (course.extend exchange) := by
  have nothing : exchange.after.store.markers = course.state.store.markers ++ [] := by
    rw [markers, List.append_nil]
  apply balanced.extend nothing
  · rw [List.append_nil]
    exact balanced.once
  · rw [settles, List.append_nil]

/-- A mark that is stored is owed no longer. -/
theorem Balanced.mark {marker : Marker} (balanced : Balanced [marker] course)
    (isNew : marker ∉ course.state.store.markers)
    {exchange : Exchange Unit Effect.interface Shared} (success : success? exchange = none)
    (refusal : refusal? exchange = none)
    (marked : exchange.after.store.markers = (course.state.store.markConsumed marker).markers) :
    Balanced [] (course.extend exchange) := by
  rw [Store.markers_markConsumed _ isNew] at marked
  apply balanced.extend marked
  · exact balanced.once.append (List.nodup_singleton marker) (List.disjoint_singleton.mpr isNew)
  · rw [success, refusal]
    exact List.Perm.refl _

/-! ## A delivery -/

/-- A part of a delivery leaves nothing owed if nothing was. -/
def Settles (program : Program α) : Prop :=
  ∀ course, Balanced [] course →
    program.Assures (surroundings.recorded ()) (.alone _) (fun _ => Balanced []) course

theorem compositional_settles :
    Script.Compositional Dispatcher.IsBatchwork fun _ => Settles where
  done _ _ balanced := balanced
  ask := by
    intro α request next isBatchwork continues course balanced
    apply Script.Assures.step_of_ok
    intro chance
    cases request with
    | fetchMessages | saveProcessed | isCancelled | now | sleep =>
        exact ⟨_, _, rfl, continues _ _ (balanced.unmarked rfl rfl)⟩
    | _ => exact isBatchwork.elim
  andThen first second := fun course balanced => (first course balanced).andThen
    (fun value course balanced => second value course balanced) (fun _ _ balanced => balanced)

/-- A mark that is owed is stored or refused. -/
theorem mark_settles (subscription : Subscription) (event : Event)
    (balanced : Balanced [subscription.marker event] course)
    (isNew : subscription.marker event ∉ course.state.store.markers) :
    (subscription.mark event).attempt.Assures (surroundings.recorded ()) (.alone _)
      (fun _ => Balanced []) course := by
  rw [Subscription.mark_eq]
  apply Script.Assures.step_of_ok
  rintro ⟨chance, refused⟩
  cases refused with
  | none => exact ⟨.ok (), _, rfl, balanced.mark isNew rfl rfl rfl⟩
  | some failure =>
      refine ⟨.error failure, _, rfl, ?_⟩
      cases isConflict : failure.isConflict with
      | true =>
          exact balanced.mark isNew rfl (if_pos isConflict) rfl
      | false =>
          refine balanced.unmarked rfl ?_
          simp [success?, refusal?, isConflict]

/-- A handler that runs for an event whose mark is not stored owes the mark if it ends well. -/
theorem handle_settles (eventType consumer : String) (event : Event)
    (balanced : Balanced [] course)
    (isNew : (⟨event.id, consumer⟩ : Marker) ∉ course.state.store.markers) :
    Script.Assures (surroundings.recorded ()) (.alone _) (fun _ => Balanced [])
      ((Handler.external consumer event).attempt.andThen fun
        | .ok _ =>
          ((⟨eventType, consumer, .external consumer⟩ : Subscription).mark event).attempt
        | .error failure => .done (.error failure)) course := by
  rw [Handler.external_eq]
  simp only [Script.andThen_ask, Script.andThen_done]
  apply Script.Assures.step_of_ok
  rintro ⟨⟨elapsed, now, id, isCancelled, duration, outcome⟩, refused⟩
  refine ⟨⟨duration, outcome⟩, _, rfl, ?_⟩
  apply Script.Assures.step_of_ok
  intro waiting
  refine ⟨(), _, rfl, ?_⟩
  let consulted := course.extend ⟨(), .consult consumer event, .ok ⟨duration, outcome⟩,
    course.state, course.state.later elapsed⟩
  cases outcome with
  | error failure =>
      have failed : Balanced [] consulted := balanced.unmarked rfl rfl
      exact failed.unmarked rfl rfl
  | ok value =>
      have succeeded : Balanced [⟨event.id, consumer⟩] consulted := balanced.unmarked rfl rfl
      exact mark_settles _ event (succeeded.unmarked rfl rfl) isNew

/-- A delivery to one consumer leaves nothing owed. -/
theorem subscription_settles (eventType consumer : String) (event : Event) :
    Settles ((⟨eventType, consumer, .external consumer⟩ : Subscription).deliver event).attempt := by
  intro course balanced
  rw [Subscription.deliver_eq]
  apply Script.Assures.step_of_ok
  rintro ⟨chance, refused⟩
  cases refused with
  | some failure => exact ⟨.error failure, _, rfl, balanced.unmarked rfl rfl⟩
  | none =>
      let marker : Marker := ⟨event.id, consumer⟩
      refine ⟨.ok (course.state.store.isConsumed marker), _, rfl, ?_⟩
      cases isConsumed : course.state.store.isConsumed marker with
      | true => exact balanced.unmarked rfl rfl
      | false =>
          have isNew : marker ∉ course.state.store.markers := by
            simpa [Store.isConsumed] using isConsumed
          exact handle_settles eventType consumer event (balanced.unmarked rfl rfl) isNew

/-- Deliveries leave nothing owed. -/
theorem balanced_afterDeliveries (settings : DispatchSettings) (consumers : List (String × String))
    (balanced : Balanced [] course)
    (deliveries : List (Message × (Nat → Chance × Option Failure))) :
    Balanced [] (afterDeliveries ⟨settings, .external consumers⟩ course deliveries) := by
  have delivers : ∀ subscription ∈ (Bus.external consumers).subscriptions, ∀ event,
      Settles (subscription.deliver event).attempt := by
    intro subscription member event
    obtain ⟨⟨eventType, consumer⟩, -, rfl⟩ := List.mem_map.mp member
    exact subscription_settles eventType consumer event
  induction deliveries generalizing course with
  | nil => exact balanced
  | cons next rest ih =>
      apply ih
      have pauses (n : Nat) : Settles (Dispatcher.pause settings.retryStep n) :=
        Dispatcher.pause_fine compositional_settles (fun _ => True.intro)
          (fun _ _ balanced => balanced) _ n
      exact (Dispatcher.deliver_fine delivers compositional_settles (fun n _ _ => pauses n) next.1
        course balanced).perform next.2

/-- The course after the message of one event has been delivered. -/
theorem afterDeliveries_ofEvent (dispatcher : Dispatcher) (course : SharedCourse Unit)
    (event : Event) (chances : Nat → Chance × Option Failure) :
    afterDeliveries dispatcher course [(.ofEvent event, chances)] =
      ((surroundings.recorded ()).perform chances
        ((Dispatcher.retry dispatcher.bus dispatcher.settings.retryStep event
          (Backoff.retries dispatcher.settings.maxAttempts) 0).attempt.andThen fun result =>
            .done (Dispatcher.delivery result)) course).2 := by
  rw [afterDeliveries, List.foldl_cons, List.foldl_nil, Dispatcher.deliver_eq,
    Message.decode_ofEvent]

end Redelivery

open Redelivery Consumption in
/-- A handler ends well as often as its mark is refused, and once more if the mark is stored.
Messages are delivered one after another, each with its retries, to external consumers whose
handlers may end as they like, and the store of markers may refuse any request. In particular
a handler ends well once at most for an event whose mark is never refused. -/
theorem successes_are_marked_or_refused (settings : DispatchSettings)
    (consumers : List (String × String))
    (deliveries : List (Message × (Nat → Chance × Option Failure))) :
    let reached := afterDeliveries ⟨settings, .external consumers⟩ ⟨[], {}, none, 0⟩ deliveries
    (successes reached).Perm (refusals reached ++ reached.state.store.markers) ∧
      reached.state.store.markers.Nodup ∧
      ∀ marker, marker ∉ refusals reached → (successes reached).count marker ≤ 1 := by
  intro reached
  have start : Balanced [] (⟨[], {}, none, 0⟩ : SharedCourse Unit) :=
    ⟨List.Perm.refl _, List.nodup_nil⟩
  have balanced : Balanced [] reached :=
    balanced_afterDeliveries settings consumers start deliveries
  refine ⟨balanced.account, balanced.once, ?_⟩
  intro marker isUnrefused
  rw [balanced.account.count_eq, List.nil_append, List.count_append,
    List.count_eq_zero_of_not_mem isUnrefused, Nat.zero_add]
  exact List.nodup_iff_count_le_one.mp balanced.once marker

open Redelivery Consumption Time in
/-- A handler that ends well twice in one delivery, since its first mark is refused. -/
theorem succeeds_twice_of_refused_mark :
    let now : Moment := ⟨⟨2026, 1, 2, by decide, by decide, by decide⟩, 3, 4, 5, 6,
      by decide, by decide, by decide, by decide⟩
    let event : Event := ⟨⟨1⟩, now, .removed ⟨⟨2⟩, "abc"⟩⟩
    let failures : List (Option Failure) := [none, none, none, some (.database "connection lost")]
    let chances (n : Nat) : Chance × Option Failure :=
      (⟨0, now, ⟨0⟩, false, ⟨0, .ok ()⟩⟩, failures.getD n none)
    let reached := afterDeliveries ⟨.standard, .external [(event.typeName, "audit")]⟩
      ⟨[], {}, none, 0⟩ [(.ofEvent event, chances)]
    (successes reached).count ⟨event.id, "audit"⟩ = 2 := by
  intro now event failures chances
  rw [afterDeliveries_ofEvent]
  decide

end Shortlink
