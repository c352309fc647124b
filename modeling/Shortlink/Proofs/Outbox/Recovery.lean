import Shortlink.Proofs.Outbox.Retries

/-!
# Recovery from a failed save

A run whose outcomes cannot be stored leaves all its messages waiting. But the mark of a consumer
has been stored as soon as its handler has succeeded. So the next run fetches the same messages
first, calls just the handlers that have not succeeded yet, and stores the outcomes of all.
-/

namespace Shortlink

namespace Recovery

open Consumption (success? successes successes_extend)
open Retries (called? calls calls_extend Settles)

/-! ## A store that refuses outcomes -/

/-- Stores the outcomes of messages, or refuses all of them. -/
def save (refusal? : Option Failure) (messages : List Message) (store : Store) :
    Except Failure Unit × Store :=
  match refusal? with
  | some refusal => (.error refusal, store)
  | none => (.ok (), store.saveProcessed messages)

theorem markers_save (refusal? : Option Failure) (messages : List Message) (store : Store) :
    (save refusal? messages store).2.markers = store.markers := by
  cases refusal? with
  | none => rfl
  | some refusal => rfl

/-- The outbox after a save depends on the outbox before it alone. -/
theorem outbox_save {refusal? : Option Failure} {messages : List Message} {store other : Store}
    (same : store.outbox = other.outbox) :
    (save refusal? messages store).2.outbox = (save refusal? messages other).2.outbox := by
  cases refusal? with
  | none => exact congrArg (messages.foldl Store.saveOutcome) same
  | some refusal => exact same

/-- The answer where outcomes may be refused. -/
def answer (refusal? : Option Failure) (chance : Chance) (request : Effect) (shared : Shared) :
    Except Abort request.Reply × Shared :=
  match request with
  | .saveProcessed messages => (shared.later chance.elapsed).onStore (save refusal? messages)
  | request => Shared.answer chance request shared

/-- The surroundings of calls where outcomes may be refused. -/
def surroundings (refusal? : Option Failure) : Surroundings Effect.interface Shared :=
  { Shared.surroundings with answer := answer refusal? }

/-- The surroundings of a run alone, with all that happens written down, where outcomes may be
refused. -/
abbrev logged (refusal? : Option Failure) : Surroundings Effect.interface (SharedCourse Unit) :=
  (surroundings refusal?).recorded ()

/-- The messages that an exchange has fetched. -/
def fetched? : Exchange Unit Effect.interface Shared → Option (List Message)
  | ⟨_, .fetchMessages _, .ok (.ok messages), _, _⟩ => some messages
  | _ => none

/-- The messages of each fetch. -/
def fetches (course : SharedCourse Unit) : List (List Message) := course.history.filterMap fetched?

/-- What an exchange has told of whether the run is to stop. -/
def check? : Exchange Unit Effect.interface Shared → Option Bool
  | ⟨_, .isCancelled, .ok isCancelled, _, _⟩ => some isCancelled
  | _ => none

/-- What each check has told, before the first message and before the others. -/
def checks (course : SharedCourse Unit) : List Bool := course.history.filterMap check?

/-- The mark of a call that succeeds. -/
def mark (call : String × Event) : Marker := ⟨call.2.id, call.1⟩

/-- An event of a batch. -/
def IsOf (batch : List Message) (event : Event) : Prop :=
  ∃ message ∈ batch, message.decode = .ok event

/-! ## What deliveries keep -/

/-- What has happened since the store was `base`, where marks may be owed: the batch has been
fetched, the outbox is the same, whatever has succeeded is marked, handlers that were marked have
not been called, and those that have heard are marked or have been called. -/
structure Kept (batch : List Message) (base : Store) (owed : List Marker)
    (heard : List (String × Event)) (course : SharedCourse Unit) : Prop where
  fetched : fetches course = [batch]
  outbox : course.state.store.outbox = base.outbox
  marked : ∀ marker, marker ∈ course.state.store.markers ∨ marker ∈ owed ↔
    marker ∈ base.markers ∨ marker ∈ successes course
  called : ∀ call ∈ calls course, IsOf batch call.2 ∧ mark call ∉ base.markers
  heard : ∀ call ∈ heard, mark call ∈ course.state.store.markers ∨ call ∈ calls course

/-- The mark that is owed to a handler that has ended so. -/
def owing (marker : Marker) : Except Failure Unit → List Marker
  | .ok _ => [marker]
  | .error _ => []

variable {batch : List Message} {base : Store} {owed left : List Marker}
  {heard : List (String × Event)} {course : SharedCourse Unit}
  {exchange : Exchange Unit Effect.interface Shared}

theorem fetches_extend (course : SharedCourse Unit)
    (exchange : Exchange Unit Effect.interface Shared) :
    fetches (course.extend exchange) = fetches course ++ (fetched? exchange).toList :=
  course.filterMap_extend fetched? exchange

theorem checks_extend (course : SharedCourse Unit)
    (exchange : Exchange Unit Effect.interface Shared) :
    checks (course.extend exchange) = checks course ++ (check? exchange).toList :=
  course.filterMap_extend check? exchange

theorem checks_quiet (silent : check? exchange = none) (course : SharedCourse Unit) :
    checks (course.extend exchange) = checks course := by
  rw [checks_extend, silent]
  exact List.append_nil _

/-- Whatever has succeeded has been called. -/
theorem exists_call_of_success {marker : Marker} (succeeded : marker ∈ successes course) :
    ∃ call ∈ calls course, mark call = marker := by
  obtain ⟨exchange, member, success⟩ := List.mem_filterMap.mp succeeded
  unfold success? at success
  split at success
  · next consumer event _ _ _ =>
      refine ⟨(consumer, event), List.mem_filterMap.mpr ⟨_, member, rfl⟩, ?_⟩
      exact Option.some.inj success
  · contradiction

namespace Kept

theorem mono {fewer : List (String × Event)} (kept : Kept batch base owed heard course)
    (subset : fewer ⊆ heard) : Kept batch base owed fewer course :=
  { kept with heard := fun call member => kept.heard call (subset member) }

theorem hear (kept : Kept batch base owed heard course) {call : String × Event}
    (hears : mark call ∈ course.state.store.markers ∨ call ∈ calls course) :
    Kept batch base owed (call :: heard) course :=
  { kept with heard := List.forall_mem_cons.mpr ⟨hears, kept.heard⟩ }

/-- The rule of exchanges that do not fetch. -/
theorem extend (kept : Kept batch base owed heard course) (unfetched : fetched? exchange = none)
    (outbox : exchange.after.store.outbox = course.state.store.outbox)
    (grows : course.state.store.markers ⊆ exchange.after.store.markers)
    (settles : ∀ marker, marker ∈ exchange.after.store.markers ∨ marker ∈ left ↔
      (marker ∈ course.state.store.markers ∨ marker ∈ owed) ∨ success? exchange = some marker)
    (calls : ∀ call ∈ called? exchange, IsOf batch call.2 ∧ mark call ∉ base.markers) :
    Kept batch base left heard (course.extend exchange) where
  fetched := by rw [fetches_extend, unfetched, kept.fetched]; rfl
  outbox := outbox.trans kept.outbox
  marked marker := by
    rw [Course.extend_state, settles, kept.marked, successes_extend, List.mem_append,
      Option.mem_toList]
    exact or_assoc
  called call member := by
    rw [calls_extend, List.mem_append, Option.mem_toList] at member
    exact member.elim (kept.called call) (calls call)
  heard call member := by
    rw [calls_extend, List.mem_append]
    exact (kept.heard call member).imp (fun isMarked => grows isMarked) .inl

/-- An exchange that has nothing to do with messages, handlers or marks. -/
theorem quiet (kept : Kept batch base owed heard course) (unfetched : fetched? exchange = none)
    (silent : called? exchange = none) (fruitless : success? exchange = none)
    (outbox : exchange.after.store.outbox = course.state.store.outbox)
    (markers : exchange.after.store.markers = course.state.store.markers) :
    Kept batch base owed heard (course.extend exchange) := by
  apply kept.extend unfetched outbox
  · rw [markers]
    exact List.Subset.refl _
  · intro marker
    simp [markers, fruitless]
  · simp [silent]

/-- A handler is called that was not marked; it is owed a mark if it succeeds. -/
theorem consult (kept : Kept batch base [] heard course) {event : Event} {consumer : String}
    (isOf : IsOf batch event) (isNew : (⟨event.id, consumer⟩ : Marker) ∉ base.markers)
    {duration : Nat} {outcome : Except Failure Unit} {before after : Shared}
    (same : after.store = course.state.store) :
    Kept batch base (owing ⟨event.id, consumer⟩ outcome) ((consumer, event) :: heard)
      (course.extend
        ⟨(), .consult consumer event, .ok ⟨duration, outcome⟩, before, after⟩) := by
  apply Kept.hear
  · apply kept.extend rfl (congrArg Store.outbox same)
    · rw [same]
      exact List.Subset.refl _
    · intro marker
      cases outcome with
      | ok _ => simp [success?, owing, same, eq_comm]
      | error failure => simp [success?, owing, same]
    · rintro call ⟨⟩
      exact ⟨isOf, isNew⟩
  · right
    rw [calls_extend]
    exact List.mem_append_right _ List.mem_cons_self

end Kept

/-! ## Deliveries -/

/-- The calls that subscribers are due for an event. -/
def due (event : Event) (subscriptions : List Subscription) : List (String × Event) :=
  subscriptions.map fun subscription => (subscription.consumer, event)

/-- The calls that the subscribers of a bus are due for a message. -/
def dueFor (bus : Bus) (message : Message) : List (String × Event) :=
  match message.decode with
  | .error _ => []
  | .ok event => due event (bus.subscribers event.typeName)

variable {refusal? : Option Failure} {allowed : Chance → Prop} {event : Event}

/-- A handler that has succeeded is marked. -/
theorem mark_keeps (subscription : Subscription)
    (kept : Kept batch base [subscription.marker event] heard course) :
    (subscription.mark event).attempt.Yields ((logged refusal?).given allowed)
      (fun _ => Kept batch base [] heard) course := by
  rw [Subscription.mark_eq]
  apply Script.Yields.ask
  rintro ⟨marking, isAllowed⟩
  refine ⟨.ok (), _, rfl, .done (kept.extend rfl (Store.markConsumed_frame _ _).2 ?_ ?_ ?_)⟩
  · exact fun marker isMarked => (Store.mem_markConsumed _).mpr (.inl isMarked)
  · intro marker
    refine (or_iff_left List.not_mem_nil).trans ((Store.mem_markConsumed _).trans ?_)
    simp [success?, Shared.later]
  · exact fun call isCall => absurd isCall (Option.not_mem_none call)

/-- A handler that was not marked is called, and marked if it succeeds. -/
theorem handle_keeps (eventType : String) {consumer : String} (isOf : IsOf batch event)
    (isNew : (⟨event.id, consumer⟩ : Marker) ∉ base.markers)
    (kept : Kept batch base [] heard course) :
    Script.Yields ((logged refusal?).given allowed)
      (fun _ => Kept batch base [] ((consumer, event) :: heard))
      ((Handler.external consumer event).attempt.andThen fun
        | .ok _ =>
          ((⟨eventType, consumer, .external consumer⟩ : Subscription).mark event).attempt
        | .error failure => .done (.error failure)) course := by
  rw [Handler.external_eq]
  simp only [Script.andThen_ask, Script.andThen_done]
  apply Script.Yields.ask
  rintro ⟨⟨elapsed, now, id, isCancelled, duration, outcome⟩, isAllowed⟩
  have consulted : Kept batch base (owing ⟨event.id, consumer⟩ outcome)
      ((consumer, event) :: heard) (course.extend
        ⟨(), .consult consumer event, .ok ⟨duration, outcome⟩, course.state,
          course.state.later elapsed⟩) := kept.consult isOf isNew rfl
  refine ⟨⟨duration, outcome⟩, _, rfl, ?_⟩
  apply Script.Yields.ask
  rintro ⟨waiting, isAllowed⟩
  refine ⟨(), _, rfl, ?_⟩
  cases outcome with
  | error failure => exact .done (consulted.quiet rfl rfl rfl rfl rfl)
  | ok _ => exact mark_keeps _ (consulted.quiet rfl rfl rfl rfl rfl)

/-- A consumer hears of an event: it is marked already, or its handler is called. -/
theorem subscription_keeps {subscription : Subscription}
    (isExternal : subscription.handler = .external subscription.consumer)
    (isOf : IsOf batch event) (kept : Kept batch base [] heard course) :
    (subscription.deliver event).attempt.Yields ((logged refusal?).given allowed)
      (fun _ => Kept batch base [] ((subscription.consumer, event) :: heard)) course := by
  obtain ⟨eventType, consumer, handler⟩ := subscription
  dsimp only at isExternal
  subst isExternal
  rw [Subscription.deliver_eq]
  apply Script.Yields.ask
  rintro ⟨asking, isAllowed⟩
  let marker : Marker := ⟨event.id, consumer⟩
  refine ⟨.ok (course.state.store.isConsumed marker), _, rfl, ?_⟩
  cases isConsumed : course.state.store.isConsumed marker with
  | true =>
      have isMarked := course.state.store.isConsumed_iff.mp isConsumed
      exact .done ((kept.quiet rfl rfl rfl rfl rfl).hear (.inl isMarked))
  | false =>
      -- Marks are never taken back, so what is not marked now was not marked before.
      have isNew : marker ∉ base.markers := by
        intro wasMarked
        have isMarked := ((kept.marked marker).mpr (.inl wasMarked)).resolve_right List.not_mem_nil
        rw [← Store.isConsumed_iff, isConsumed] at isMarked
        contradiction
      exact handle_keeps eventType isOf isNew (kept.quiet rfl rfl rfl rfl rfl)

/-- All subscriptions are those of consumers outside the library. -/
def AreExternal (subscriptions : List Subscription) : Prop :=
  ∀ subscription ∈ subscriptions, subscription.handler = .external subscription.consumer

theorem areExternal_external (consumers : List (String × String)) :
    AreExternal (Bus.external consumers).subscriptions := by
  intro subscription member
  obtain ⟨⟨eventType, consumer⟩, -, rfl⟩ := List.mem_map.mp member
  rfl

theorem subscriptions_keep {subscriptions : List Subscription}
    (external : AreExternal subscriptions) (isOf : IsOf batch event)
    (kept : Kept batch base [] heard course) :
    (Bus.deliverAll event subscriptions).Yields ((logged refusal?).given allowed)
      (fun _ => Kept batch base [] (due event subscriptions ++ heard)) course := by
  induction subscriptions generalizing heard course with
  | nil => exact .done kept
  | cons subscription rest ih =>
      obtain ⟨isExternal, external⟩ := List.forall_mem_cons.mp external
      rw [Bus.deliverAll_cons]
      apply (subscription_keeps isExternal isOf kept).andThen
      intro result between kept
      apply (ih external kept).andThen
      intro failures after kept
      exact .done (kept.mono List.perm_middle.symm.subset)

section

variable {bus : Bus} (external : AreExternal bus.subscriptions)
include external

theorem publish_keeps (isOf : IsOf batch event) (kept : Kept batch base [] heard course) :
    (bus.publish event).attempt.Yields ((logged refusal?).given allowed)
      (fun _ => Kept batch base [] (due event (bus.subscribers event.typeName) ++ heard))
      course := by
  have subscribed : AreExternal (bus.subscribers event.typeName) :=
    fun subscription member => external subscription (List.mem_filter.mp member).1
  rw [Bus.publish_eq]
  apply (subscriptions_keep subscribed isOf kept).andThen
  exact fun failures after kept => .done kept

theorem retry_keeps {step left made : Nat} (isOf : IsOf batch event)
    (fit : ∀ n, made < n → n ≤ made + left → ∃ duration, Backoff.pause? step n = .ok duration)
    (kept : Kept batch base [] heard course) :
    (Dispatcher.retry bus step event left made).attempt.Yields ((logged refusal?).given allowed)
      (fun _ => Kept batch base [] (due event (bus.subscribers event.typeName) ++ heard))
      course := by
  induction left generalizing made heard course with
  | zero => exact publish_keeps external isOf kept
  | succ left ih =>
      rw [Dispatcher.retry_succ]
      apply (publish_keeps external isOf kept).andThen
      intro result published kept
      cases result with
      | ok _ => exact .done kept
      | error failure =>
          obtain ⟨duration, represented⟩ := fit (made + 1) (by omega) (by omega)
          rw [Dispatcher.pause, represented]
          apply Script.Yields.ask
          intro waiting
          refine ⟨(), _, rfl, ?_⟩
          have fitAfter : ∀ n, made + 1 < n → n ≤ made + 1 + left →
              ∃ duration, Backoff.pause? step n = .ok duration :=
            fun n later within => fit n (by omega) (by omega)
          apply (ih fitAfter (kept.quiet rfl rfl rfl rfl rfl)).imp
          exact fun result after kept => kept.mono (List.subset_append_right _ _)

variable {settings : DispatchSettings} (fit : settings.PausesFit)
include fit

theorem deliver_keeps {message : Message} (member : message ∈ batch)
    (kept : Kept batch base [] heard course) :
    (Dispatcher.deliver ⟨settings, bus⟩ message).Yields ((logged refusal?).given allowed)
      (fun _ => Kept batch base [] (dueFor bus message ++ heard)) course := by
  rw [Dispatcher.deliver_eq, dueFor]
  cases decoded : message.decode with
  | error error => exact .done kept
  | ok event =>
      refine (retry_keeps external ⟨message, member, decoded⟩ ?_ kept).andThen ?_
      · intro n isRetry within
        rw [Nat.zero_add] at within
        exact fit n isRetry within
      · exact fun result after kept => .done kept

/-- What a run has reached of its messages, and the outcomes of these. -/
structure Reached (allowed : Chance → Prop) (messages outcomes reached : List Message)
    (isStopped : Prop) : Prop where
  begins : reached <+: messages
  settles : Settles reached outcomes
  /-- A run that is not cancelled reaches all. -/
  all : (∀ chance, allowed chance → chance.isCancelled = false) → reached = messages
  /-- A run that reaches none of its messages has been cancelled before the first of them. -/
  stopped : reached = [] → messages = [] ∨ isStopped

theorem deliverAll_keeps {messages : List Message} (inBatch : messages ⊆ batch)
    (report : DispatchReport) (kept : Kept batch base [] heard course) :
    (Dispatcher.deliverAll ⟨settings, bus⟩ messages report).Yields ((logged refusal?).given allowed)
      (fun ended after => ∃ reached,
        Reached allowed messages ended.2 reached (checks after = checks course ++ [true]) ∧
          Kept batch base [] (reached.flatMap (dueFor bus) ++ heard) after) course := by
  induction messages generalizing heard course report with
  | nil =>
      have nothing : Reached allowed [] [] [] (checks course = checks course ++ [true]) :=
        ⟨List.nil_prefix, ⟨rfl, List.forall_mem_nil _⟩, fun _ => rfl, fun _ => .inl rfl⟩
      exact .done ⟨[], nothing, kept⟩
  | cons message rest ih =>
      obtain ⟨member, inBatch⟩ := List.cons_subset.mp inBatch
      rw [Dispatcher.deliverAll_cons]
      apply Script.Yields.ask
      rintro ⟨checking, isAllowed⟩
      let checked := course.extend (course.exchange () .isCancelled checking)
      have keptChecked : Kept batch base [] heard checked := kept.quiet rfl rfl rfl rfl rfl
      refine ⟨checking.isCancelled, checked, rfl, ?_⟩
      cases isCancelled : checking.isCancelled with
      | true =>
          refine .done ⟨[], ⟨List.nil_prefix, ⟨rfl, List.forall_mem_nil _⟩, ?_, ?_⟩, keptChecked⟩
          · intro goesOn
            rw [goesOn checking isAllowed] at isCancelled
            contradiction
          · intro none
            have told : check? (course.exchange () .isCancelled checking) = some true :=
              congrArg some isCancelled
            exact .inr (by rw [checks_extend, told]; rfl)
      | false =>
          apply (deliver_keeps external fit member keptChecked).andThen
          intro delivery delivered kept
          apply Script.Yields.ask
          intro marking
          refine ⟨_, _, rfl, ?_⟩
          apply (ih inBatch _ (kept.quiet rfl rfl rfl rfl rfl)).andThen
          rintro ended after ⟨reached, isReached, kept⟩
          refine .done ⟨message :: reached, ⟨?_, ?_, ?_, ?_⟩, kept.mono ?_⟩
          · exact List.cons_prefix_cons.mpr ⟨rfl, isReached.begins⟩
          · exact isReached.settles.cons message _ _
          · exact fun goesOn => congrArg (message :: ·) (isReached.all goesOn)
          · exact fun none => absurd none (List.cons_ne_nil _ _)
          · rw [List.flatMap_cons, List.append_assoc]
            exact (List.perm_append_comm_assoc _ _ _).subset

end

/-! ## Runs -/

theorem Reached.imp {messages outcomes reached : List Message} {isStopped other : Prop}
    (isReached : Reached allowed messages outcomes reached isStopped)
    (implies : isStopped → other) : Reached allowed messages outcomes reached other :=
  { isReached with stopped := fun none => (isReached.stopped none).imp_right implies }

/-- Nothing has been reached exactly if there are no outcomes. -/
theorem Reached.eq_nil_iff {messages outcomes reached : List Message} {isStopped : Prop}
    (isReached : Reached allowed messages outcomes reached isStopped) :
    outcomes = [] ↔ reached = [] := by
  rw [← List.map_eq_nil_iff (f := Message.id), isReached.settles.ids, List.map_eq_nil_iff]

/-- A run has begun, and has not fetched its messages yet. -/
structure Begun (base : Store) (course : SharedCourse Unit) : Prop where
  unfetched : fetches course = []
  unchecked : checks course = []
  silent : calls course = []
  fruitless : successes course = []
  outbox : course.state.store.outbox = base.outbox
  markers : course.state.store.markers = base.markers

/-- What a batch or a run reports that has stored these outcomes, if there are any. -/
def ended (refusal? : Option Failure) (outcomes : List Message) (report : DispatchReport) :
    Except Failure DispatchReport :=
  match outcomes, refusal? with
  | _ :: _, some refusal => .error refusal
  | _, _ => .ok report

/-- After a fetch nothing else has happened yet. -/
theorem Begun.kept (begun : Begun base course) {limit : Int} {messages : List Message}
    {before after : Shared} (same : after.store = course.state.store) :
    Kept messages base [] [] (course.extend
      ⟨(), .fetchMessages limit, .ok (.ok messages), before, after⟩) where
  fetched := by
    rw [fetches_extend, begun.unfetched]
    rfl
  outbox := (congrArg Store.outbox same).trans begun.outbox
  marked marker := by
    rw [successes_extend, begun.fruitless, Course.extend_state, same, begun.markers]
    rfl
  called call member := by
    rw [calls_extend, begun.silent] at member
    contradiction
  heard := List.forall_mem_nil _

theorem calls_save (course : SharedCourse Unit) (outcomes : List Message)
    (reply : Except Abort (Except Failure Unit)) (before after : Shared) :
    calls (course.extend ⟨(), .saveProcessed outcomes, reply, before, after⟩) = calls course := by
  rw [calls_extend]
  exact List.append_nil _

/-- Storing outcomes changes the outbox, unless it is refused, and nothing else. -/
theorem Kept.save (kept : Kept batch base owed heard course) {outcomes : List Message}
    {reply : Except Failure Unit} {before after : Shared}
    (saved : after.store = (Recovery.save refusal? outcomes course.state.store).2) :
    Kept batch (Recovery.save refusal? outcomes base).2 owed heard
      (course.extend ⟨(), .saveProcessed outcomes, .ok reply, before, after⟩) where
  fetched := by
    rw [fetches_extend, kept.fetched]
    rfl
  outbox := by
    rw [Course.extend_state, saved]
    exact outbox_save kept.outbox
  marked marker := by
    rw [Course.extend_state, saved, markers_save, markers_save, kept.marked, successes_extend]
    simp [success?]
  called call member := by
    rw [calls_save] at member
    rw [markers_save]
    exact kept.called call member
  heard call member := by
    rw [Course.extend_state, saved, markers_save, calls_save]
    exact kept.heard call member

/-- What a batch or a run has done that has reached these messages. -/
structure Ran (refusal? : Option Failure) (allowed : Chance → Prop) (dispatcher : Dispatcher)
    (base : Store) (reached outcomes : List Message) (result : Except Failure DispatchReport)
    (after : SharedCourse Unit) : Prop where
  isReached : Reached allowed (base.fetch dispatcher.settings.batchSize) outcomes reached
    (checks after = [true])
  kept : Kept (base.fetch dispatcher.settings.batchSize) (save refusal? outcomes base).2 []
    (reached.flatMap (dueFor dispatcher.bus)) after
  result : ∃ report, result = ended refusal? outcomes report

/-- Without outcomes nothing is stored. -/
theorem save_nil (refusal? : Option Failure) (store : Store) :
    (save refusal? [] store).2 = store := by
  cases refusal? with
  | none => rfl
  | some refusal => rfl

section

variable {bus : Bus} (external : AreExternal bus.subscriptions) {settings : DispatchSettings}
  (fit : settings.PausesFit)
include external fit

theorem dispatchBatch_keeps (begun : Begun base course) :
    (Dispatcher.dispatchBatch ⟨settings, bus⟩).attempt.Yields ((logged refusal?).given allowed)
      (fun result after => ∃ reached outcomes,
        Ran refusal? allowed ⟨settings, bus⟩ base reached outcomes result after) course := by
  rw [Dispatcher.dispatchBatch_eq]
  apply Script.Yields.ask
  rintro ⟨fetching, isAllowed⟩
  refine ⟨.ok (course.state.store.fetch settings.batchSize), _, rfl, ?_⟩
  have fetched : course.state.store.fetch settings.batchSize = base.fetch settings.batchSize := by
    rw [Store.fetch, Store.fetch, begun.outbox]
  let opened := course.extend ⟨(), .fetchMessages settings.batchSize,
    .ok (.ok (base.fetch settings.batchSize)), course.state, course.state.later fetching.elapsed⟩
  have fresh : Kept (base.fetch settings.batchSize) base [] [] opened := begun.kept rfl
  have unchecked : checks opened = [] := (checks_quiet rfl course).trans begun.unchecked
  simp only [Shared.later, fetched]
  apply (deliverAll_keeps external fit (List.Subset.refl _) _ fresh).andThen
  rintro ⟨report, outcomes⟩ stopped ⟨reached, isReached, kept⟩
  rw [unchecked, List.nil_append] at isReached
  rw [List.append_nil] at kept
  cases outcomes with
  | nil =>
      refine .done ⟨reached, [], isReached, ?_, report, ?_⟩
      · rwa [save_nil]
      · cases refusal? with
        | none => rfl
        | some refusal => rfl
  | cons outcome rest =>
      simp only [List.isEmpty_cons, Bool.false_eq_true, if_false]
      apply Script.Yields.ask
      rintro ⟨saving, isAllowed⟩
      cases refusal? with
      | none =>
          exact ⟨.ok (), _, rfl, .done ⟨reached, _, isReached.imp (checks_quiet rfl stopped).trans,
            kept.save rfl, report, rfl⟩⟩
      | some refusal =>
          exact ⟨.error refusal, _, rfl, .done ⟨reached, _,
            isReached.imp (checks_quiet rfl stopped).trans, kept.save rfl, report, rfl⟩⟩

/-- A run that gets the lease dispatches a batch and gives it back. -/
theorem runOnce_keeps {before : Shared} (free : before.store.isLeased = false) :
    (Dispatcher.runOnce ⟨settings, bus⟩).attempt.Yields ((logged refusal?).given allowed)
      (fun result after => after.state.store.isLeased = false ∧ ∃ reached outcomes,
        Ran refusal? allowed ⟨settings, bus⟩ before.store reached outcomes result after)
      ⟨[], before⟩ := by
  rw [Dispatcher.runOnce_eq]
  apply Script.Yields.ask
  rintro ⟨chance, isAllowed⟩
  let leased : SharedCourse Unit := Course.extend ⟨[], before⟩
    ⟨(), .tryLease, .ok (.ok (some ⟨0⟩)), before,
      { before.later chance.elapsed with store := { before.store with isLeased := true } }⟩
  have answered := Consumption.answer_tryLease chance before
  rw [free] at answered
  refine ⟨.ok (some ⟨0⟩), leased, ?_, ?_⟩
  · change (match Shared.answer chance .tryLease before with
      | (reply, after) => (reply, Course.extend ⟨[], before⟩
          ⟨(), .tryLease, reply, before, after⟩)) = (.ok (.ok (some ⟨0⟩)), leased)
    rw [answered]
    rfl
  have begun : Begun before.store leased := ⟨rfl, rfl, rfl, rfl, rfl, rfl⟩
  apply ((dispatchBatch_keeps external fit begun).onAbort _).andThen
  rintro result after ⟨reached, outcomes, isReached, kept, ended⟩
  apply Script.Yields.ask
  rintro ⟨releasing, isAllowed⟩
  exact ⟨.ok (), _, rfl, .done ⟨rfl, reached, outcomes,
    isReached.imp (checks_quiet rfl after).trans, kept.quiet rfl rfl rfl rfl rfl, ended⟩⟩

end

/-! ## The next run -/

/-- The messages of an outbox are told apart by their ids, and a message that waits has the id of
its event. -/
structure Owned (outbox : List Message) : Prop where
  distinct : (outbox.map Message.id).Nodup
  own : ∀ message ∈ outbox, message.isProcessed = false → ∀ event, message.decode = .ok event →
    event.id = message.id

/-- Between two runs messages may only have been added, and the lease is free. -/
structure Follows (after between : Store) : Prop where
  added : ∃ more, between.outbox = after.outbox ++ more
  markers : between.markers = after.markers
  free : between.isLeased = false

/-- What a run makes up for that has fetched these messages, where `earlier` have been marked before
a run that has failed. -/
structure Recovers (consumers : List (String × String)) (earlier : List Marker)
    (failed final : SharedCourse Unit) (messages : List Message) : Prop where
  fetched : fetches final = [messages]
  /-- Handlers that have succeeded, by then or in the run that has failed, are not called. -/
  spared : ∀ call ∈ calls final, mark call ∉ earlier ∧ mark call ∉ successes failed
  /-- All others that are subscribed are called. -/
  called : ∀ message ∈ messages, ∀ event, message.decode = .ok event →
    ∀ consumer, (event.typeName, consumer) ∈ consumers → ⟨event.id, consumer⟩ ∉ earlier →
      ⟨event.id, consumer⟩ ∉ successes failed → (consumer, event) ∈ calls final
  processed : ∀ message ∈ messages, ∃ now error?,
    message.markProcessed now error? ∈ final.state.store.outbox

theorem perform_logged_none {α : Type} (chances : Nat → Chance) (script : Program α)
    (course : SharedCourse Unit) :
    (logged none).perform chances script course = Shared.logged.perform chances script course := by
  have same : answer none = Shared.answer := by
    funext chance request shared
    cases request <;> rfl
  -- The type of the chances must not depend on the answers that are rewritten.
  change (Surroundings.recorded ⟨Chance, answer none, Nat, Shared.failSaves⟩ ()).perform chances
    script course = _
  rw [same]
  rfl

theorem ended_none (outcomes : List Message) (report : DispatchReport) :
    ended none outcomes report = .ok report := by
  cases outcomes <;> rfl

/-- What waits first in an outbox waits first when messages have been added. -/
theorem fetch_prefix {after between : Store} (follows : Follows after between) (limit : Int) :
    after.fetch limit <+: between.fetch limit := by
  obtain ⟨more, added⟩ := follows.added
  rw [Store.fetch, Store.fetch, added, List.filter_append]
  refine List.prefix_take_iff.mpr ⟨?_, List.length_take_le _ _⟩
  exact (List.take_prefix _ _).trans (List.prefix_append _ _)

theorem fetch_sublist (store : Store) (limit : Int) :
    (store.fetch limit).Sublist store.outbox :=
  (List.take_sublist _ _).trans List.filter_sublist

theorem waits_of_mem {store : Store} {limit : Int} {message : Message}
    (member : message ∈ store.fetch limit) : message.isProcessed = false := by
  simpa using (List.mem_filter.mp (List.mem_of_mem_take member)).2

theorem mem_dueFor {consumers : List (String × String)} {message : Message}
    (decoded : message.decode = .ok event) {consumer : String}
    (subscribed : (event.typeName, consumer) ∈ consumers) :
    (consumer, event) ∈ dueFor (.external consumers) message := by
  rw [dueFor, decoded]
  refine List.mem_map.mpr ⟨⟨event.typeName, consumer, .external consumer⟩, ?_, rfl⟩
  refine List.mem_filter.mpr ⟨List.mem_map.mpr ⟨_, subscribed, rfl⟩, ?_⟩
  exact beq_self_eq_true _

/-- Of messages with their own ids, a handler that was not marked has been called for each. -/
theorem Kept.call_of_heard (kept : Kept batch base [] heard course)
    (distinct : (batch.map Message.id).Nodup)
    (own : ∀ message ∈ batch, ∀ event, message.decode = .ok event → event.id = message.id)
    (isOf : IsOf batch event) {consumer : String} (hears : (consumer, event) ∈ heard)
    (isNew : (⟨event.id, consumer⟩ : Marker) ∉ base.markers) :
    (consumer, event) ∈ calls course := by
  rcases kept.heard _ hears with isMarked | called
  · -- The mark has come with a success, which could be that for another event of the same id.
    have succeeded := ((kept.marked _).mp (.inl isMarked)).resolve_left isNew
    obtain ⟨⟨other, about⟩, called, same⟩ := exists_call_of_success succeeded
    obtain ⟨⟨message, member, decoded⟩, -⟩ := kept.called _ called
    obtain ⟨message', member', decoded'⟩ := isOf
    obtain ⟨sameId, rfl⟩ : about.id = event.id ∧ other = consumer := by
      simpa [mark] using same
    have sameMessage : message = message' := by
      apply List.inj_on_of_nodup_map distinct member member'
      rw [← own _ member _ decoded, ← own _ member' _ decoded', sameId]
    subst sameMessage
    obtain rfl : about = event := by
      rw [decoded] at decoded'
      exact Except.ok.inj decoded'
    exact called
  · exact called

/-- A row that has an outcome is stored as processed. -/
theorem processed_of_save {outcomes : List Message} (owned : Owned base.outbox)
    (inOutbox : batch.Sublist base.outbox) (settles : Settles batch outcomes) {message : Message}
    (member : message ∈ batch) :
    ∃ now error?, message.markProcessed now error? ∈ (base.saveProcessed outcomes).outbox := by
  have once : (outcomes.map Message.id).Nodup :=
    settles.nodup (owned.distinct.sublist (inOutbox.map Message.id))
  have isReached : message.id ∈ outcomes.map Message.id :=
    settles.ids ▸ List.mem_map_of_mem member
  obtain ⟨outcome, isOutcome, same⟩ := List.mem_map.mp isReached
  obtain ⟨now, processed⟩ := Option.isSome_iff_exists.mp (settles.processed outcome isOutcome)
  refine ⟨now, outcome.error, ?_⟩
  rw [Store.outbox_saveProcessed owned.distinct once]
  refine List.mem_map.mpr ⟨message, inOutbox.subset member, ?_⟩
  rw [Store.settle_of_mem once isOutcome same.symm, Message.withOutcome, processed]
  rfl

/-- What a run has done that was not cancelled makes up for a run that has failed. -/
theorem Ran.recovers {settings : DispatchSettings} {consumers : List (String × String)}
    {earlier : List Marker} {failed final : SharedCourse Unit} {reached outcomes : List Message}
    {result : Except Failure DispatchReport}
    (ran : Ran none allowed ⟨settings, .external consumers⟩ base reached outcomes result final)
    (goesOn : ∀ chance, allowed chance → chance.isCancelled = false) (owned : Owned base.outbox)
    (marked : ∀ marker, marker ∈ base.markers ↔ marker ∈ earlier ∨ marker ∈ successes failed) :
    (∃ report, result = .ok report) ∧
      Recovers consumers earlier failed final (base.fetch settings.batchSize) := by
  obtain ⟨isReached, kept, report, rfl⟩ := ran
  obtain rfl := isReached.all goesOn
  have inOutbox := fetch_sublist base settings.batchSize
  refine ⟨⟨report, ended_none outcomes report⟩, kept.fetched, ?_, ?_, ?_⟩
  · intro call called
    have isNew : mark call ∉ base.markers := (kept.called call called).2
    rwa [marked, not_or] at isNew
  · intro message member event decoded consumer subscribed notEarlier notBefore
    have isNew : (⟨event.id, consumer⟩ : Marker) ∉ base.markers := by
      rw [marked, not_or]
      exact ⟨notEarlier, notBefore⟩
    apply kept.call_of_heard (owned.distinct.sublist (inOutbox.map Message.id)) ?_
      ⟨message, member, decoded⟩ ?_ isNew
    · exact fun message member => owned.own message (inOutbox.subset member) (waits_of_mem member)
    · exact List.mem_flatMap.mpr ⟨message, member, mem_dueFor decoded subscribed⟩
  · intro message member
    rw [kept.outbox]
    exact processed_of_save owned inOutbox isReached.settles member

end Recovery

open Recovery in
/-- For consumers whose handlers may end as they like, a run whose outcomes are refused returns the
refusal, unless it has no messages or is cancelled before the first of them, and leaves the outbox
as it was. Before the next run messages may be added. If it is not cancelled, and the messages that
wait have the ids of their events, then it fetches the same messages first, calls no handler that
has succeeded for its event, calls all others that are subscribed, and marks as processed all that
it has fetched. -/
theorem failed_save_is_recoverable {settings : DispatchSettings} (fit : settings.PausesFit)
    (consumers : List (String × String)) (refusal : Failure) {before : Shared}
    (free : before.store.isLeased = false) (chances : Nat → Chance) :
    let dispatcher : Dispatcher := ⟨settings, .external consumers⟩
    let batch := before.store.fetch settings.batchSize
    ∃ result failed, (Recovery.logged (some refusal)).perform chances dispatcher.runOnce.attempt
        ⟨[], before⟩ = (.ok result, failed) ∧
      (batch ≠ [] → checks failed ≠ [true] → result = .error refusal) ∧
      failed.state.store.outbox = before.store.outbox ∧ failed.state.store.isLeased = false ∧
      fetches failed = [batch] ∧
      ∀ between again, Follows failed.state.store between.store → Owned between.store.outbox →
        (∀ n, (again n).isCancelled = false) →
        let messages := between.store.fetch settings.batchSize
        batch <+: messages ∧ ∃ report final,
          Shared.logged.perform again dispatcher.runOnce.attempt ⟨[], between⟩ =
            (.ok (.ok report), final) ∧
          Recovers consumers before.store.markers failed final messages := by
  intro dispatcher batch
  have external := areExternal_external consumers
  have failing : dispatcher.runOnce.attempt.Yields
      ((logged (some refusal)).given fun _ => True) _ ⟨[], before⟩ :=
    runOnce_keeps external fit free
  obtain ⟨result, failed, performed, isFree, reached, outcomes, isReached, kept, report, rfl⟩ :=
    failing.perform_given chances fun _ => True.intro
  refine ⟨_, failed, performed, ?_, kept.outbox, isFree, kept.fetched, ?_⟩
  · intro waits unstopped
    have reaches : reached ≠ [] := fun none => (isReached.stopped none).elim waits unstopped
    obtain ⟨outcome, rest, rfl⟩ := List.exists_cons_of_ne_nil (mt isReached.eq_nil_iff.mp reaches)
    rfl
  · intro between again follows owned goesOn
    have working : dispatcher.runOnce.attempt.Yields
        ((logged none).given fun chance => chance.isCancelled = false) _ ⟨[], between⟩ :=
      runOnce_keeps external fit follows.free
    obtain ⟨_, final, performedAgain, -, _, _, ran⟩ := working.perform_given again goesOn
    have marked : ∀ marker, marker ∈ between.store.markers ↔
        marker ∈ before.store.markers ∨ marker ∈ Consumption.successes failed := by
      intro marker
      rw [follows.markers]
      exact (or_iff_left List.not_mem_nil).symm.trans (kept.marked marker)
    obtain ⟨⟨worked, rfl⟩, recovers⟩ := ran.recovers (fun _ isAllowed => isAllowed) owned marked
    have begins := fetch_prefix follows settings.batchSize
    rw [Store.fetch, kept.outbox] at begins
    exact ⟨begins, worked, final, (perform_logged_none again _ _).symm.trans performedAgain,
      recovers⟩

open Recovery Time in
/-- Both consumers of an event fail in the run whose save is refused, and succeed in the next run.
Beside the event waits a message that cannot be decoded. -/
theorem failed_save_is_recoverable_of_two :
    let now : Moment := ⟨⟨2026, 1, 2, by decide, by decide, by decide⟩, 3, 4, 5, 6,
      by decide, by decide, by decide, by decide⟩
    let event : Event := ⟨⟨1⟩, now, .removed ⟨⟨2⟩, "abc"⟩⟩
    let unreadable : Message := ⟨⟨2⟩, event.typeName, "not an event", now, none, none⟩
    let settings : DispatchSettings := ⟨10, 2, 100⟩
    let consumers := [(event.typeName, "audit"), (event.typeName, "mail")]
    let dispatcher : Dispatcher := ⟨settings, .external consumers⟩
    let before : Shared := ⟨{ outbox := [unreadable, .ofEvent event] }, none, 0⟩
    let fails : Nat → Chance := fun _ => ⟨1, now, ⟨0⟩, false, ⟨20, .error (.database "gone")⟩⟩
    let works : Nat → Chance := fun _ => ⟨1, now, ⟨0⟩, false, ⟨20, .ok ()⟩⟩
    settings.PausesFit ∧ before.store.isLeased = false ∧
      ∃ result failed, (Recovery.logged (some (.database "lost"))).perform fails
          dispatcher.runOnce.attempt ⟨[], before⟩ = (.ok result, failed) ∧
        Follows failed.state.store failed.state.store ∧ Owned failed.state.store.outbox ∧
        (∀ n, (works n).isCancelled = false) ∧
        ∃ report final,
          Shared.logged.perform works dispatcher.runOnce.attempt ⟨[], failed.state⟩ =
            (.ok (.ok report), final) ∧
          Recovers consumers [] failed final [unreadable, .ofEvent event] := by
  intro now event unreadable settings consumers dispatcher before fails works
  have fit : settings.PausesFit := DispatchSettings.pausesFit_of_few (by decide) (by decide)
  have owned : Owned before.store.outbox := by
    refine ⟨by decide, ?_⟩
    intro message member _ about decoded
    simp only [before, List.mem_cons, List.not_mem_nil, or_false] at member
    obtain rfl | rfl := member
    · have undecodable : unreadable.decode.isOk = false := by decide
      rw [decoded] at undecodable
      contradiction
    · rw [Message.decode_ofEvent] at decoded
      cases decoded
      rfl
  have free : before.store.isLeased = false := rfl
  obtain ⟨result, failed, performed, -, outbox, released, -, recovers⟩ :=
    failed_save_is_recoverable fit consumers (.database "lost") free fails
  have follows : Follows failed.state.store failed.state.store :=
    ⟨⟨[], (List.append_nil _).symm⟩, rfl, released⟩
  have messages : failed.state.store.fetch settings.batchSize = [unreadable, .ofEvent event] := by
    rw [Store.fetch, outbox]
    rfl
  rw [← outbox] at owned
  obtain ⟨-, report, final, performedAgain, recovered⟩ :=
    recovers failed.state works follows owned fun _ => rfl
  rw [messages] at recovered
  exact ⟨fit, free, result, failed, performed, follows, owned, fun _ => rfl, report, final,
    performedAgain, recovered⟩

end Shortlink
