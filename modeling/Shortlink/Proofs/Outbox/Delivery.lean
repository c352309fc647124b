import Shortlink.Proofs.Calls.Call
import Shortlink.Proofs.Outbox.Dispatch
import Shortlink.Proofs.Script.Ends
import Shortlink.Proofs.Text.Integer

/-!
# The deliveries of a run

What a run does with its messages, said without the scripts that do it: an event is published
until a publication succeeds or no retry is left, a message is delivered, fails with the last
publication or cannot be decoded, and the messages are reached one after another until the run
is cancelled. Each of these is a relation between the courses on both sides, and what the
scripts do is an instance of it.
-/

namespace Shortlink

open Time (Moment)

/-- The surroundings of a run alone, with all that happens written down. -/
abbrev Shared.logged : Surroundings Effect.interface (SharedCourse Unit) :=
  surroundings.recorded ()

/-- Where a request of a run and what follows it have come to their end, the request has got its
reply from the shared state, and what follows has gone on from the course after it. -/
theorem Shared.parts_of_perform_ask {α : Type} {chances : Nat → Chance} {request : Effect}
    {next : request.Reply → Program α} {begins ends : SharedCourse Unit} {value : α}
    (performed : logged.perform chances (.ask request next) begins = (.ok value, ends)) :
    ∃ reply, (answer (chances 0) request begins.state).1 = .ok reply ∧
      logged.Ends (ask request) begins reply
        (begins.extend (begins.exchange () request (chances 0))) ∧
      logged.perform (fun n => chances (n + 1)) (next reply)
        (begins.extend (begins.exchange () request (chances 0))) = (.ok value, ends) := by
  obtain ⟨reply, between, answered, rest⟩ := Surroundings.parts_of_perform_ask performed
  have asked : logged.Ends (ask request) begins reply between :=
    ⟨chances, Surroundings.perform_ask_of_ok (I := Effect.interface) answered⟩
  obtain ⟨isReply, rfl⟩ := Prod.mk.inj answered
  exact ⟨reply, isReply, asked, rest⟩

/-! ## Publications -/

/-- An event is published again and again, with a pause before each retry, until it succeeds or
no retry is left. `made` are the retries so far, and the result is that of the last publication. -/
inductive Bus.Publishes (bus : Bus) (step : Nat) (event : Event) :
    (left made : Nat) → SharedCourse Unit → Except Failure Unit → SharedCourse Unit → Prop where
  | succeeds {left made : Nat} {begins ends : SharedCourse Unit}
      (published : Shared.logged.Ends (bus.publish event).attempt begins (.ok ()) ends) :
      Publishes bus step event left made begins (.ok ()) ends
  | fails {made : Nat} {begins ends : SharedCourse Unit} {failure : Failure}
      (published : Shared.logged.Ends (bus.publish event).attempt begins (.error failure) ends) :
      Publishes bus step event 0 made begins (.error failure) ends
  | again {left made : Nat} {begins failed paused ends : SharedCourse Unit} {failure : Failure}
      {result : Except Failure Unit}
      (published : Shared.logged.Ends (bus.publish event).attempt begins (.error failure) failed)
      (pauses : Shared.logged.Ends (Dispatcher.pause step (made + 1)) failed () paused)
      (rest : Publishes bus step event left (made + 1) paused result ends) :
      Publishes bus step event (left + 1) made begins result ends

/-- A publication that fails tells which handlers have failed. -/
theorem Bus.exists_failures {bus : Bus} {event : Event} {begins ends : SharedCourse Unit}
    {failure : Failure}
    (published : Shared.logged.Ends (bus.publish event).attempt begins (.error failure) ends) :
    ∃ failures, failure = .handlers event.id.toString event.typeName failures := by
  obtain ⟨chances, performed⟩ := published
  rw [publish_eq] at performed
  obtain ⟨failures, between, count, -, concluded⟩ :=
    Surroundings.parts_of_perform_andThen performed
  refine ⟨failures, ?_⟩
  cases failures with
  | nil => cases concluded
  | cons text rest =>
      cases concluded
      rfl

theorem Bus.Publishes.exists_failures {bus : Bus} {step left made : Nat} {event : Event}
    {begins ends : SharedCourse Unit} {result : Except Failure Unit}
    (publishes : bus.Publishes step event left made begins result ends) {failure : Failure}
    (failed : result = .error failure) :
    ∃ failures, failure = .handlers event.id.toString event.typeName failures := by
  induction publishes with
  | succeeds => cases failed
  | fails published =>
      cases failed
      exact bus.exists_failures published
  | again published pauses rest ih => exact ih failed

/-- The report of failed handlers begins with their number. -/
theorem Failure.handlers_message_ne (id eventType : String) (failures : List String)
    (reason : String) :
    (handlers id eventType failures).message ≠ "deserialization failed: " ++ reason := by
  intro same
  obtain ⟨c, rest, isText, isDigit⟩ := Text.exists_repr_eq_cons failures.length
  have texts := congrArg (fun text => text.toList.head?) same
  have count : (toString failures.length).toList = c :: rest := isText
  simp only [handlers, String.toList_append, count, List.cons_append, List.head?_cons] at texts
  cases texts
  contradiction

/-! ## Deliveries -/

namespace Dispatcher

/-- A message is delivered: its event is published, unless it cannot be decoded. -/
inductive Delivers (dispatcher : Dispatcher) (message : Message) :
    SharedCourse Unit → Delivery → SharedCourse Unit → Prop where
  | undecodable {course : SharedCourse Unit} {error : DecodeError}
      (decoded : message.decode = .error error) :
      Delivers dispatcher message course
        (.undecodable ("deserialization failed: " ++ error.message)) course
  | delivered {begins ends : SharedCourse Unit} {event : Event}
      (decoded : message.decode = .ok event)
      (publishes : dispatcher.bus.Publishes dispatcher.settings.retryStep event
        (Backoff.retries dispatcher.settings.maxAttempts) 0 begins (.ok ()) ends) :
      Delivers dispatcher message begins .delivered ends
  | failed {begins ends : SharedCourse Unit} {event : Event} {failure : Failure}
      (decoded : message.decode = .ok event)
      (publishes : dispatcher.bus.Publishes dispatcher.settings.retryStep event
        (Backoff.retries dispatcher.settings.maxAttempts) 0 begins (.error failure) ends) :
      Delivers dispatcher message begins (.failed failure.message) ends

/-- The error of a message tells of its decoding exactly if it cannot be decoded. -/
theorem Delivers.error?_iff {dispatcher : Dispatcher} {message : Message}
    {begins ends : SharedCourse Unit} {delivery : Delivery}
    (delivers : dispatcher.Delivers message begins delivery ends) :
    (∃ reason, delivery.error? = some ("deserialization failed: " ++ reason)) ↔
      ∃ error, message.decode = .error error := by
  cases delivers with
  | undecodable decoded => exact ⟨fun _ => ⟨_, decoded⟩, fun _ => ⟨_, rfl⟩⟩
  | delivered decoded publishes => simp [Delivery.error?, decoded]
  | failed decoded publishes =>
      obtain ⟨failures, rfl⟩ := publishes.exists_failures rfl
      simp [Delivery.error?, decoded, Failure.handlers_message_ne]

/-- A message that a run has reached, what has become of it, and when it was marked. -/
structure Reached where
  message : Message
  delivery : Delivery
  now : Moment

/-- The message as the run stores it. -/
def Reached.outcome (reached : Reached) : Message :=
  reached.message.markProcessed reached.now reached.delivery.error?

/-- Messages are reached one after another: before each of them the run is asked whether it has
been cancelled, and ends there if so. -/
inductive Reaches (dispatcher : Dispatcher) :
    SharedCourse Unit → List Message → List Reached → SharedCourse Unit → Prop where
  | all {course : SharedCourse Unit} : Reaches dispatcher course [] [] course
  | cancelled {begins ends : SharedCourse Unit} {message : Message} {rest : List Message}
      (asked : Shared.logged.Ends (ask .isCancelled) begins true ends) :
      Reaches dispatcher begins (message :: rest) [] ends
  | next {begins asked delivered marked ends : SharedCourse Unit} {message : Message}
      {rest : List Message} {delivery : Delivery} {now : Moment} {reached : List Reached}
      (goesOn : Shared.logged.Ends (ask .isCancelled) begins false asked)
      (delivers : dispatcher.Delivers message asked delivery delivered)
      (marks : Shared.logged.Ends (ask .now) delivered now marked)
      (reaches : Reaches dispatcher marked rest reached ends) :
      Reaches dispatcher begins (message :: rest) (⟨message, delivery, now⟩ :: reached) ends

section Reaches

variable {dispatcher : Dispatcher} {begins ends : SharedCourse Unit} {messages : List Message}
  {reached : List Reached}

/-- The messages reached are the first ones. -/
theorem Reaches.isPrefix (reaches : dispatcher.Reaches begins messages reached ends) :
    reached.map Reached.message <+: messages := by
  induction reaches with
  | all => exact List.prefix_refl []
  | cancelled asked => exact List.nil_prefix
  | next goesOn delivers marks reaches ih => exact List.cons_prefix_cons.mpr ⟨rfl, ih⟩

theorem Reaches.delivers (reaches : dispatcher.Reaches begins messages reached ends) :
    ∀ message ∈ reached, ∃ begins ends,
      dispatcher.Delivers message.message begins message.delivery ends := by
  induction reaches with
  | all => simp
  | cancelled asked => simp
  | next goesOn delivers marks reaches ih =>
      rw [List.forall_mem_cons]
      exact ⟨⟨_, _, delivers⟩, ih⟩

end Reaches

/-! ## What the scripts do -/

variable {dispatcher : Dispatcher} {chances : Nat → Chance} {begins ends : SharedCourse Unit}

theorem publishes_of_retry {bus : Bus} {step left made : Nat} {event : Event}
    {result : Except Failure Unit}
    (performed : Shared.logged.perform chances (retry bus step event left made).attempt begins =
      (.ok result, ends)) : bus.Publishes step event left made begins result ends := by
  induction left generalizing made chances begins with
  | zero =>
      cases result with
      | ok _ => exact .succeeds ⟨chances, performed⟩
      | error failure => exact .fails ⟨chances, performed⟩
  | succ left ih =>
      rw [retry_succ] at performed
      obtain ⟨published, failed, count, first, rest⟩ :=
        Surroundings.parts_of_perform_andThen performed
      cases published with
      | ok _ =>
          cases rest
          exact .succeeds ⟨chances, first⟩
      | error failure =>
          obtain ⟨_, paused, count, pauses, again⟩ := Surroundings.parts_of_perform_andThen rest
          exact .again ⟨_, first⟩ ⟨_, pauses⟩ (ih again)

theorem delivers_of_deliver {message : Message} {delivery : Delivery}
    (performed : Shared.logged.perform chances (dispatcher.deliver message) begins =
      (.ok delivery, ends)) : dispatcher.Delivers message begins delivery ends := by
  rw [deliver_eq] at performed
  cases decoded : message.decode with
  | error error =>
      rw [decoded] at performed
      cases performed
      exact .undecodable decoded
  | ok event =>
      rw [decoded] at performed
      obtain ⟨result, between, count, retries, concluded⟩ :=
        Surroundings.parts_of_perform_andThen performed
      cases concluded
      cases result with
      | ok _ => exact .delivered decoded (publishes_of_retry retries)
      | error failure => exact .failed decoded (publishes_of_retry retries)

/-- The report of a batch, its marked messages, and how far a run gets that is not cancelled. -/
theorem reaches_of_deliverAll {messages outcomes : List Message}
    {report after : DispatchReport}
    (performed : Shared.logged.perform chances (dispatcher.deliverAll messages report) begins =
      (.ok (after, outcomes), ends)) :
    ∃ reached, dispatcher.Reaches begins messages reached ends ∧
      after = reached.foldl (fun report message => message.delivery.count report) report ∧
      outcomes = reached.map Reached.outcome ∧
      ((∀ n, (chances n).isCancelled = false) → reached.length = messages.length) := by
  induction messages generalizing report after outcomes chances begins with
  | nil =>
      cases performed
      exact ⟨[], .all, rfl, rfl, fun _ => rfl⟩
  | cons message rest ih =>
      rw [deliverAll_cons] at performed
      obtain ⟨isCancelled, isReply, asked, performed⟩ := Shared.parts_of_perform_ask performed
      have drawn : (chances 0).isCancelled = isCancelled := Except.ok.inj isReply
      cases isCancelled with
      | true =>
          cases performed
          refine ⟨[], .cancelled asked, rfl, rfl, fun goesOn => ?_⟩
          rw [goesOn] at drawn
          contradiction
      | false =>
          obtain ⟨delivery, delivered, count, delivers, performed⟩ :=
            Surroundings.parts_of_perform_andThen performed
          obtain ⟨now, -, marks, performed⟩ := Shared.parts_of_perform_ask performed
          obtain ⟨⟨report, processed⟩, between, later, others, concluded⟩ :=
            Surroundings.parts_of_perform_andThen performed
          cases concluded
          obtain ⟨reached, reaches, rfl, rfl, all⟩ := ih others
          refine ⟨_, .next asked (delivers_of_deliver delivers) marks reaches, rfl, rfl,
            fun goesOn => ?_⟩
          rw [List.length_cons, List.length_cons, all fun n => goesOn _]

end Dispatcher

end Shortlink
