import Shortlink.Proofs.Link.Service
import Shortlink.Proofs.Outbox.Dispatch
import Shortlink.Proofs.Outbox.Lease

/-!
# Consumption at most once

A dispatch run asks each consumer whether it has handled an event, runs its handler and marks
it, and does so for every message of a batch and every retry. Each part of it starts and ends
where all successes are marked, so that a handler that runs has never ended well before.
-/

namespace Shortlink

/-- The bus of consumers outside the library, given by the types of events and the names. -/
def Bus.external (consumers : List (String × String)) : Bus :=
  ⟨consumers.map fun (eventType, consumer) => ⟨eventType, consumer, .external consumer⟩⟩

namespace Consumption

variable {ι : Type} [DecidableEq ι] {call : ι} {course : SharedCourse ι} {α β : Type}

/-! ## The calls beside the runs -/

theorem isInert_of_isCreation (request : Effect) (isCreation : LinkService.IsCreation request) :
    IsInert request := by
  cases request with
  | newId | now | codeExists | addLink => exact True.intro
  | _ => exact isCreation.elim

theorem isInert_of_isRemoval (request : Effect) (isRemoval : LinkService.IsRemoval request) :
    IsInert request := by
  cases request with
  | findByCode | newId | now | updateLink => exact True.intro
  | _ => exact isRemoval.elim

/-- No call of a caller has to do with the lease, with marks or with handlers. -/
theorem program_asks (call : Call) : call.program.Asks IsInert := by
  cases call with
  | create service request =>
      apply Script.Asks.andThen
      · exact (LinkService.create_asks service request).mono isInert_of_isCreation
      · exact fun result => True.intro
  | remove code =>
      apply Script.Asks.andThen
      · exact (LinkService.remove_asks code).mono isInert_of_isRemoval
      · exact fun result => True.intro
  | requeue id => exact ⟨True.intro, fun reply => True.intro⟩

/-! ## A run that holds the lease -/

/-- From a point where the holder has all its successes marked, a part of a run gets to such
a point. -/
def Orderly (call : ι) (program : Program α) : Prop :=
  ∀ course, Holding call [] course →
    program.Assures (Shared.surroundings.recorded call) (contract call)
      (fun _ => Holding call []) course

/-- The rule of requests that have nothing to do with the lease, marks or handlers and that
never break off; the condition on the successes may be any. -/
theorem Holding.ask {unmarked : List Marker} {post : Except Abort α → SharedCourse ι → Prop}
    {request : Effect} {next : request.Reply → Program α} (inert : IsInert request)
    (answered : ∀ chance shared, ∃ reply, (Shared.answer chance request shared).1 = .ok reply)
    (holding : Holding call unmarked course)
    (continues : ∀ reply course, Holding call unmarked course →
      (next reply).Assures (Shared.surroundings.recorded call) (contract call) post course) :
    Script.Assures (I := Effect.interface) (Shared.surroundings.recorded call) (contract call)
      post (.ask request next) course := by
  refine .ask (keeps_holding unmarked) holding ?_
  intro course chance holding
  have extended := holding.inert (inert_exchange inert call chance course) rfl
  refine ⟨holding.guarantee extended.serialised, ?_⟩
  obtain ⟨reply, isReply⟩ := answered chance course.state
  rw [isReply]
  exact continues reply _ extended

/-- What a batch asks for by itself is orderly, and parts of a run that are orderly are so
together. -/
theorem compositional_orderly :
    Script.Compositional Dispatcher.IsBatchwork fun _ => Orderly call where
  done _ _ holding := holding
  ask := by
    intro α request next isBatchwork continues course holding
    cases request with
    | fetchMessages | saveProcessed | isCancelled | now | sleep =>
        exact holding.ask True.intro (fun _ _ => ⟨_, rfl⟩) fun reply course =>
          continues reply course
    | _ => exact isBatchwork.elim
  andThen first second := fun course holding => (first course holding).andThen
    (fun value course holding => second value course holding) (fun _ _ holding => holding)

/-- The mark of a handler that has ended well settles the account. -/
theorem mark_assures (subscription : Subscription) (event : Event)
    (holding : Holding call [subscription.marker event] course) :
    (subscription.mark event).attempt.Assures (Shared.surroundings.recorded call)
      (contract call) (fun _ => Holding call []) course := by
  rw [Subscription.mark_eq]
  refine .ask (keeps_holding _) holding ?_
  intro course chance holding
  have marked : Holding call []
      (course.extend (course.exchange call (.markConsumed (subscription.marker event)) chance)) :=
    holding.mark rfl rfl rfl
  exact ⟨holding.guarantee marked.serialised, marked⟩

/-- A handler that runs for an event that its consumer has not handled, and the mark after
it, are orderly: the handler ends well at this point only if it never has before. -/
theorem handle_assures (eventType consumer : String) (event : Event)
    (holding : Holding call [] course)
    (isNew : (⟨event.id, consumer⟩ : Marker) ∉ course.state.store.markers) :
    Script.Assures (Shared.surroundings.recorded call) (contract call)
      (fun _ => Holding call [])
      ((Handler.external consumer event).attempt.andThen fun
        | .ok _ =>
          ((⟨eventType, consumer, .external consumer⟩ : Subscription).mark event).attempt
        | .error failure => .done (.error failure)) course := by
  rw [Handler.external_eq]
  simp only [Script.andThen_ask, Script.andThen_done]
  have stable : (contract call).Keeps fun course =>
      Holding call [] course ∧ (⟨event.id, consumer⟩ : Marker) ∉ course.state.store.markers := by
    intro course other holding change
    have markers := ((change holding.1.serialised).2.2 holding.1.isHeld).2
    exact ⟨keeps_holding [] holding.1 change, markers ▸ holding.2⟩
  refine .ask stable ⟨holding, isNew⟩ ?_
  rintro course ⟨elapsed, now, id, isCancelled, duration, outcome⟩ ⟨holding, isNew⟩
  let chance : Chance := ⟨elapsed, now, id, isCancelled, duration, outcome⟩
  cases outcome with
  | ok value =>
      have succeeded : Holding call [⟨event.id, consumer⟩]
          (course.extend (course.exchange call (.consult consumer event) chance)) :=
        holding.success isNew rfl rfl rfl
      refine ⟨holding.guarantee succeeded.serialised, ?_⟩
      refine succeeded.ask True.intro (fun _ _ => ⟨_, rfl⟩) ?_
      exact fun _ course holding => mark_assures _ event holding
  | error failure =>
      have failed : Holding call []
          (course.extend (course.exchange call (.consult consumer event) chance)) :=
        holding.inert ⟨rfl, rfl, rfl, rfl⟩ rfl
      refine ⟨holding.guarantee failed.serialised, ?_⟩
      exact failed.ask True.intro (fun _ _ => ⟨_, rfl⟩) fun _ course holding => holding

/-- A delivery to one consumer is orderly: the handler runs only if the consumer is not
marked, and then all its successes so far would be. -/
theorem subscription_deliver_orderly (eventType consumer : String) (event : Event) :
    Orderly call
      ((⟨eventType, consumer, .external consumer⟩ : Subscription).deliver event).attempt := by
  intro course holding
  rw [Subscription.deliver_eq]
  refine .ask (keeps_holding []) holding ?_
  intro course chance holding
  let marker : Marker := ⟨event.id, consumer⟩
  have inert : IsInert (.isConsumed marker) := True.intro
  have extended : Holding call []
      (course.extend (course.exchange call (.isConsumed marker) chance)) :=
    holding.inert (inert_exchange inert call chance course) rfl
  refine ⟨holding.guarantee extended.serialised, ?_⟩
  have answered : (Shared.answer chance (.isConsumed marker) course.state).1 =
      .ok (.ok (course.state.store.isConsumed marker)) := rfl
  rw [Subscription.marker, answered]
  cases isConsumed : course.state.store.isConsumed marker with
  | true => exact extended
  | false =>
      have isNew : marker ∉ course.state.store.markers := by
        simpa [Store.isConsumed] using isConsumed
      exact handle_assures eventType consumer event extended isNew

variable (settings : DispatchSettings) (consumers : List (String × String))

theorem dispatchBatch_orderly :
    Orderly call (Dispatcher.dispatchBatch ⟨settings, .external consumers⟩).attempt := by
  apply Dispatcher.dispatchBatch_fine _ compositional_orderly
  · have aborts (cause : Abort) : Orderly call (Script.abort cause : Program Unit) :=
      fun _ holding => holding
    exact fun n _ _ =>
      Dispatcher.pause_fine compositional_orderly (fun _ => True.intro) aborts _ n
  · intro subscription member event
    obtain ⟨⟨eventType, consumer⟩, -, rfl⟩ := List.mem_map.mp member
    exact subscription_deliver_orderly eventType consumer event

/-! ## The whole run -/

/-- How the requests for the lease end while somebody holds it, and while nobody does. -/
theorem answer_tryLease (chance : Chance) (shared : Shared) :
    Shared.answer chance .tryLease shared =
      (.ok (.ok (if shared.store.isLeased then none else some ⟨0⟩)),
        { shared.later chance.elapsed with store := { shared.store with isLeased := true } }) := by
  rcases shared with ⟨⟨links, outbox, markers, failingSaves, isLeased⟩, cache, ticks⟩
  cases isLeased with
  | true => rfl
  | false => rfl

/-- The lease is given back by a release and by a drop alike. -/
theorem giveBack_assures {request : Effect} {next : request.Reply → Program α}
    {post : Except Abort α → SharedCourse ι → Prop}
    (isGivenBack : ∀ chance course, leaseChange (Course.exchange course call request chance) =
        some false ∧ success? (Course.exchange course call request chance) = none ∧
      ∃ reply, Shared.answer chance request course.state =
        (.ok reply, { course.state.later chance.elapsed with store := course.state.store.release }))
    (continues : ∀ reply course, Serialised course →
      (next reply).Assures (Shared.surroundings.recorded call) (contract call) post course)
    (holding : Holding call [] course) :
    Script.Assures (I := Effect.interface) (Shared.surroundings.recorded call) (contract call)
      post (.ask request next) course := by
  refine .ask (keeps_holding []) holding ?_
  intro course chance holding
  obtain ⟨lease, ended, reply, answered⟩ := isGivenBack chance course
  have released : (course.exchange call request chance).after.store =
      course.state.store.release := by
    rw [Course.exchange, answered]
  have serialised := holding.release rfl lease ended released
  refine ⟨holding.guarantee serialised, ?_⟩
  rw [answered]
  exact continues reply _ serialised

/-- Where a batch has come to its end the lease is still held, and all successes are marked;
where it has broken off the lease may be gone. -/
def AfterBatch (call : ι) :
    Except Abort (Except Failure DispatchReport) → SharedCourse ι → Prop
  | .ok _ => Holding call []
  | .error _ => Serialised

theorem batch_assures (lease : Lease) (holding : Holding call [] course) :
    ((Dispatcher.dispatchBatch ⟨settings, .external consumers⟩).attempt.onAbort
      (ask (.dropLease lease))).Assures (Shared.surroundings.recorded call) (contract call)
      (AfterBatch call) course := by
  refine (dispatchBatch_orderly settings consumers _ holding).onAbort ?_ ?_ ?_
  · exact fun _ _ holding => holding
  · exact fun _ _ holding => holding.serialised
  · intro cause course holding
    refine giveBack_assures ?_ (fun _ _ serialised _ => serialised) holding
    exact fun _ _ => ⟨rfl, rfl, _, rfl⟩

/-- A whole run keeps the invariant. -/
theorem runOnce_assures (serialised : Serialised course) :
    (Dispatcher.runOnce ⟨settings, .external consumers⟩).attempt.Assures
      (Shared.surroundings.recorded call) (contract call) (fun _ => Serialised) course := by
  rw [Dispatcher.runOnce_eq]
  refine .ask keeps_serialised serialised ?_
  intro course chance serialised
  have answered := answer_tryLease chance course.state
  have exchanged : course.exchange call .tryLease chance = ⟨call, .tryLease,
      .ok (.ok (if course.state.store.isLeased then none else some ⟨0⟩)), course.state,
      { course.state.later chance.elapsed with
        store := { course.state.store with isLeased := true } }⟩ := by
    rw [Course.exchange, answered]
  rw [exchanged, answered]
  cases isLeased : course.state.store.isLeased with
  | true =>
      have denied : Inert (⟨call, .tryLease, .ok (.ok none), course.state,
          { course.state.later chance.elapsed with
            store := { course.state.store with isLeased := true } }⟩ :
          Exchange ι Effect.interface Shared) := ⟨rfl, rfl, isLeased.symm, rfl⟩
      have extended := serialised.inert denied rfl
      exact ⟨fun _ => ⟨extended, fun _ => ⟨denied.successes course, rfl⟩⟩, extended⟩
  | false =>
      have taken : Holding call [] (course.extend ⟨call, .tryLease, .ok (.ok (some ⟨0⟩)),
          course.state, { course.state.later chance.elapsed with
            store := { course.state.store with isLeased := true } }⟩) :=
        serialised.lease isLeased rfl rfl rfl rfl
      refine ⟨fun _ => ⟨taken.serialised, fun _ => ?_⟩, ?_⟩
      · exact ⟨by rw [successes_extend]; exact List.append_nil _, rfl⟩
      · apply (batch_assures settings consumers ⟨0⟩ taken).andThen
        · intro result course holding
          refine giveBack_assures ?_ (fun _ _ serialised => serialised) holding
          exact fun _ _ => ⟨rfl, rfl, _, rfl⟩
        · exact fun _ _ serialised => serialised

/-! ## All runs and calls together -/

variable {κ : Type} [DecidableEq κ]

/-- Dispatch runs and other calls beside each other. -/
def agreement (ι : Type) [DecidableEq ι] :
    Concurrent.Agreement ι Shared.surroundings Ending where
  contract := contract
  post _ _ := Serialised
  stable _ _ := keeps_serialised
  compatible := by
    intro call other course exchange isOwn different connected guaranteed serialised
    obtain ⟨extended, untouched⟩ := guaranteed serialised
    subst isOwn
    refine ⟨extended, holds_extend_of_ne course different, fun isHeld => untouched ?_⟩
    by_contra isHolder
    rw [Bool.not_eq_false] at isHolder
    exact different (serialised.alone _ _ isHolder isHeld)
  undisturbed _ _ _ := fun serialised =>
    ⟨⟨serialised.leased, serialised.alone, serialised.once, serialised.marked,
      serialised.settled⟩, rfl, fun _ => ⟨rfl, rfl⟩⟩

/-- The programs of dispatch runs and of other calls. -/
def programs (runs : ι → DispatchSettings × List (String × String)) (others : κ → Call) :
    ι ⊕ κ → Program Ending
  | .inl run => (Dispatcher.run ⟨(runs run).1, .external (runs run).2⟩)
  | .inr call => (others call).program

/-- The agreement holds at the beginning, over a store without marks whose lease is free. -/
theorem agreement_holds (runs : ι → DispatchSettings × List (String × String))
    (others : κ → Call) {shared : Shared}
    (serialised : Serialised (⟨[], shared⟩ : SharedCourse (ι ⊕ κ))) :
    (agreement (ι ⊕ κ)).Holds (.start shared (programs runs others)) := by
  intro call
  cases call with
  | inl run =>
      apply (runOnce_assures (runs run).1 (runs run).2 serialised).andThen
      · exact fun _ _ serialised => serialised
      · exact fun _ _ serialised => serialised
  | inr call => exact assures_of_asks (program_asks (others call)) serialised

theorem serialised_start {shared : Shared} (unmarked : shared.store.markers = [])
    (isFree : shared.store.isLeased = false) :
    Serialised (⟨[], shared⟩ : SharedCourse ι) := by
  constructor
  · simp [isFree, holds, Course.own]
  · simp [holds, Course.own]
  · simp [successes]
  · simp [unmarked]
  · simp [successes]

/-- Every turn that the calls allow keeps the invariant. -/
theorem serialised_of_allows {course after : SharedCourse ι} (serialised : Serialised course)
    (allowed : (agreement ι).Allows course after) : Serialised after := by
  cases allowed with
  | rest => exact serialised
  | move exchange connected guaranteed => exact (guaranteed serialised).1
  | disturb count =>
      exact ⟨serialised.leased, serialised.alone, serialised.once, serialised.marked,
        serialised.settled⟩

end Consumption

open Consumption in
/-- Consumption at most once under any schedule. Any number of dispatch runs, with any
settings and buses of external consumers whose handlers may end as they like, run interleaved
in any order with each other and with any creations, removals and requeues over one store
with any URLs and messages, no marks and a free lease. Then at any time one call at most is
between getting the lease and giving it back; for every event and consumer the handler has
ended well once at most over the whole history; and a mark is there only if the handler has
ended well. -/
theorem consumption_at_most_once {ι κ : Type} [DecidableEq ι] [DecidableEq κ]
    (runs : ι → DispatchSettings × List (String × String)) (others : κ → Call)
    (links : List Link) (outbox : List Message) (failing : Nat) (cache : Option Cache.Memory)
    (ticks : Nat) (schedule : List (Turn (ι ⊕ κ) Shared.surroundings)) :
    let store : Store := { links := links, outbox := outbox, failingSaves := failing }
    let reached := ((Concurrent.start ⟨store, cache, ticks⟩ (programs runs others)).play
      schedule).course
    (∀ call other, holds call reached = true → holds other reached = true → call = other) ∧
      (∀ marker, (successes reached).count marker ≤ 1) ∧
      (∀ marker ∈ reached.state.store.markers, marker ∈ successes reached) := by
  intro store reached
  have serialised : Serialised reached :=
    (agreement_holds runs others (serialised_start rfl rfl)).keeps serialised_of_allows
      (serialised_start rfl rfl) schedule
  exact ⟨serialised.alone, List.nodup_iff_count_le_one.mp serialised.once, serialised.marked⟩

end Shortlink
