import Shortlink.Proofs.Link.Event
import Shortlink.Proofs.Outbox.Recipients
import Shortlink.Proofs.Outbox.Run

/-!
# Retries are per handler

A dispatch run delivers other messages beside the one of an event. They leave alone what concerns
the event: the calls for it, its marks and, up to the end of the run, the outbox. So a run does for
the event what one delivery does, and stores its error with the message. A message that is waiting
again is delivered again, and calls the recipients that are not marked by then.
-/

namespace Shortlink

open Time (Moment)

namespace Retries

variable {behaviour : Behaviour} {recipients : List Recipient} {event : Event}
  {base course after : SharedCourse Unit} {recipient : Recipient}

/-! ## Deliveries of other events -/

/-- The handlers called for an event, in their order. -/
def callsFor (event : Event) (course : SharedCourse Unit) : List String :=
  (calls course).filterMap fun call => if call.2 = event then some call.1 else none

theorem count_callsFor (handler : String) (course : SharedCourse Unit) :
    (callsFor event course).count handler = (calls course).count (handler, event) := by
  rw [callsFor]
  induction calls course with
  | nil => rfl
  | cons call rest ih =>
      obtain ⟨other, about⟩ := call
      by_cases same : about = event
      · simp [same, ih, List.count_cons]
      · simp [same, ih]

/-- Between two courses nothing has happened that concerns an event. -/
structure Unconcerned (event : Event) (base course : SharedCourse Unit) : Prop where
  calls : callsFor event course = callsFor event base
  marked : ∀ consumer, (⟨event.id, consumer⟩ : Marker) ∈ course.state.store.markers ↔
    ⟨event.id, consumer⟩ ∈ base.state.store.markers
  outbox : course.state.store.outbox = base.state.store.outbox

namespace Unconcerned

theorem refl (course : SharedCourse Unit) : Unconcerned event course course :=
  ⟨rfl, fun _ => Iff.rfl, rfl⟩

theorem waiting_eq (unconcerned : Unconcerned event base course) :
    waiting recipients event course = waiting recipients event base := by
  apply List.filter_congr
  intro recipient _
  have marked := unconcerned.marked recipient.consumer
  congr 2
  rw [Bool.eq_iff_iff, Store.isConsumed_iff, Store.isConsumed_iff]
  exact marked

theorem left_eq (unconcerned : Unconcerned event base course) :
    behaviour.left event course = behaviour.left event base := by
  funext recipient
  rw [Behaviour.left, Behaviour.left, ← count_callsFor, ← count_callsFor, unconcerned.calls]

theorem report_eq (unconcerned : Unconcerned event base course) :
    report behaviour event course = report behaviour event base := by
  funext made recipient
  rw [report, report, failureAfter, failureAfter, ← count_callsFor, ← count_callsFor,
    unconcerned.calls]

end Unconcerned

theorem callsFor_extend {exchange : Exchange Unit Effect.interface Shared}
    (silent : ∀ call ∈ called? exchange, call.2 ≠ event) (course : SharedCourse Unit) :
    callsFor event (course.extend exchange) = callsFor event course := by
  rw [callsFor, callsFor, calls_extend, List.filterMap_append]
  cases called : called? exchange with
  | none => simp
  | some call => simp [silent call called]

theorem callsFor_quiet {exchange : Exchange Unit Effect.interface Shared}
    (silent : called? exchange = none) (course : SharedCourse Unit) :
    callsFor event (course.extend exchange) = callsFor event course := by
  refine callsFor_extend ?_ course
  rw [silent]
  exact fun call absent => absurd absent (Option.not_mem_none call)

namespace Unconcerned

theorem extend (unconcerned : Unconcerned event base course)
    {exchange : Exchange Unit Effect.interface Shared}
    (silent : ∀ call ∈ called? exchange, call.2 ≠ event)
    (marked : ∀ consumer, (⟨event.id, consumer⟩ : Marker) ∈ exchange.after.store.markers ↔
      ⟨event.id, consumer⟩ ∈ course.state.store.markers)
    (outbox : exchange.after.store.outbox = course.state.store.outbox) :
    Unconcerned event base (course.extend exchange) where
  calls := (callsFor_extend silent course).trans unconcerned.calls
  marked consumer := (marked consumer).trans (unconcerned.marked consumer)
  outbox := outbox.trans unconcerned.outbox

/-- An exchange that calls no handler. -/
theorem quiet (unconcerned : Unconcerned event base course)
    {exchange : Exchange Unit Effect.interface Shared} (silent : called? exchange = none)
    (marked : ∀ consumer, (⟨event.id, consumer⟩ : Marker) ∈ exchange.after.store.markers ↔
      ⟨event.id, consumer⟩ ∈ course.state.store.markers)
    (outbox : exchange.after.store.outbox = course.state.store.outbox) :
    Unconcerned event base (course.extend exchange) where
  calls := (callsFor_quiet silent course).trans unconcerned.calls
  marked consumer := (marked consumer).trans (unconcerned.marked consumer)
  outbox := outbox.trans unconcerned.outbox

end Unconcerned

/-- A request that does not concern an event. -/
def Unconcerning (event : Event) : Effect → Prop
  | .consult _ about => about.id ≠ event.id
  | .markConsumed marker => marker.eventId ≠ event.id
  | .isConsumed _ | .isCancelled | .now | .sleep _ => True
  | _ => False

/-- Nothing that concerns an event happens in a script, which comes to its end. -/
abbrev Ignores (behaviour : Behaviour) (event : Event) (base : SharedCourse Unit) {α : Type}
    (program : Program α) : Prop :=
  ∀ course, Unconcerned event base course →
    program.Yields behaviour.surroundings (fun _ => Unconcerned event base) course

theorem compositional_ignores (behaviour : Behaviour) (event : Event) (base : SharedCourse Unit) :
    Script.Compositional (Unconcerning event) fun _ => Ignores behaviour event base := by
  refine Script.compositional_keeps (I := Effect.interface) ?_
  intro request unconcerning chance course unconcerned
  cases request with
  | consult handler about =>
      refine ⟨_, _, rfl, unconcerned.extend ?_ (fun _ => Iff.rfl) rfl⟩
      rintro call ⟨⟩ rfl
      exact unconcerning rfl
  | markConsumed marker =>
      refine ⟨_, _, rfl, unconcerned.quiet rfl ?_ (Store.markConsumed_frame _ _).2⟩
      intro consumer
      refine (Store.mem_markConsumed _).trans (or_iff_left ?_)
      rintro rfl
      exact unconcerning rfl
  | isConsumed | isCancelled | now | sleep =>
      exact ⟨_, _, rfl, unconcerned.quiet rfl (fun _ => Iff.rfl) rfl⟩
  | _ => exact unconcerning.elim

/-! ## The delivery of an event -/

/-- What has happened between two courses that concerns an event, if its message was delivered with
so many attempts and this error. -/
structure Handled (behaviour : Behaviour) (recipients : List Recipient) (event : Event)
    (count : Nat) (base after : SharedCourse Unit) (error? : Option String) : Prop where
  /-- Each attempt has called the recipients that had not succeeded, in their order. -/
  calls : callsFor event after =
    callsFor event base ++ attempted behaviour recipients event base count
  often : ∀ recipient ∈ waiting recipients event base,
    (attempted behaviour recipients event base count).count recipient.handler =
      min (behaviour.left event base recipient + 1) count
  never : ∀ recipient ∈ recipients, recipient ∉ waiting recipients event base →
    recipient.handler ∉ attempted behaviour recipients event base count
  marked : ∀ consumer, (⟨event.id, consumer⟩ : Marker) ∈ after.state.store.markers ↔
    ⟨event.id, consumer⟩ ∈ base.state.store.markers ∨
      ∃ recipient ∈ waiting recipients event base,
        behaviour.left event base recipient < count ∧ recipient.consumer = consumer
  delivered : error? = none ↔
    ∀ recipient ∈ waiting recipients event base, behaviour.left event base recipient < count
  /-- The error names the recipients that have not succeeded, in their order. -/
  failed : ∀ error, error? = some error → error =
    (Failure.handlers event.id.toString event.typeName
      (((waiting recipients event base).filter (count ≤ behaviour.left event base ·)).map
        (report behaviour event base (count - 1)))).message

namespace Handled

variable {count : Nat} {error? : Option String}

/-- Before a delivery nothing needs to have happened. -/
theorem before {between : SharedCourse Unit} (unconcerned : Unconcerned event base between)
    (handled : Handled behaviour recipients event count between after error?) :
    Handled behaviour recipients event count base after error? := by
  obtain ⟨calls, often, never, marked, delivered, failed⟩ := handled
  simp only [attempted, unconcerned.waiting_eq, unconcerned.left_eq, unconcerned.report_eq,
    unconcerned.calls, unconcerned.marked] at *
  exact ⟨calls, often, never, marked, delivered, failed⟩

/-- After a delivery nothing needs to have happened but to the outbox. -/
theorem thereafter {final : SharedCourse Unit} (calls : callsFor event final = callsFor event after)
    (marked : ∀ consumer, (⟨event.id, consumer⟩ : Marker) ∈ final.state.store.markers ↔
      ⟨event.id, consumer⟩ ∈ after.state.store.markers)
    (handled : Handled behaviour recipients event count base after error?) :
    Handled behaviour recipients event count base final error? where
  calls := calls.trans handled.calls
  often := handled.often
  never := handled.never
  marked consumer := (marked consumer).trans (handled.marked consumer)
  delivered := handled.delivered
  failed := handled.failed

end Handled

theorem error?_publication (texts : List String) :
    (Dispatcher.delivery (Bus.publication event texts)).error? =
      if texts.isEmpty then none
      else some (Failure.handlers event.id.toString event.typeName texts).message := by
  cases texts with
  | nil => rfl
  | cons text texts => rfl

/-- The handlers that attempts have called tell all that has happened. -/
theorem Tried.handled (distinct : Distinct recipients) {made : Nat}
    (tried : Tried behaviour recipients event base
      (attempted behaviour recipients event base (made + 1)) after) :
    Handled behaviour recipients event (made + 1) base after
      (Dispatcher.delivery (Bus.publication event
        (reports behaviour recipients event base made))).error? := by
  have handlers : ((waiting recipients event base).map Recipient.handler).Nodup :=
    distinct.handlers.sublist (List.filter_sublist.map Recipient.handler)
  have often : ∀ recipient ∈ waiting recipients event base,
      (attempted behaviour recipients event base (made + 1)).count recipient.handler =
        min (behaviour.left event base recipient + 1) (made + 1) :=
    fun recipient isWaiting => count_rounds handlers isWaiting (made + 1)
  constructor
  · rw [callsFor, tried.calls, List.filterMap_append, List.filterMap_map]
    simp [callsFor]
  · exact often
  · intro recipient member notWaiting called
    obtain ⟨other, isWaiting, sameHandler⟩ := mem_rounds_of_mem called
    have same : other = recipient :=
      List.inj_on_of_nodup_map distinct.handlers (mem_waiting.mp isWaiting).1 member sameHandler
    exact notWaiting (same ▸ isWaiting)
  · intro consumer
    rw [tried.marked]
    refine or_congr_right (exists_congr fun recipient => and_congr_right fun isWaiting => ?_)
    have counted := often recipient isWaiting
    refine and_congr (by omega) ?_
    simp [Recipient.marker, Subscription.marker, Recipient.subscription]
  · rw [← reports_eq_nil_iff, error?_publication]
    cases reports behaviour recipients event base made with
    | nil => simp
    | cons text texts => simp
  · intro error failed
    rw [error?_publication] at failed
    split at failed
    · cases failed
    · exact (Option.some.inj failed).symm

/-! ## Batches -/

/-- What a batch makes of its messages. -/
structure Settles (batch outcomes : List Message) : Prop where
  ids : outcomes.map Message.id = batch.map Message.id
  processed : ∀ outcome ∈ outcomes, outcome.isProcessed = true

section batches

variable {batch outcomes : List Message} {message row : Message}

namespace Settles

theorem cons (settles : Settles batch outcomes) (message : Message) (now : Moment)
    (error? : Option String) :
    Settles (message :: batch) (message.markProcessed now error? :: outcomes) where
  ids := congrArg (message.id :: ·) settles.ids
  processed := List.forall_mem_cons.mpr ⟨rfl, settles.processed⟩

theorem nodup (settles : Settles batch outcomes) (distinct : (batch.map Message.id).Nodup) :
    (outcomes.map Message.id).Nodup := settles.ids ▸ distinct

/-- The rows that wait after a batch are those that have waited and were not in it. -/
theorem waits_iff (settles : Settles batch outcomes) (distinct : (batch.map Message.id).Nodup) :
    (Store.settle outcomes row).isProcessed = false ↔
      row.isProcessed = false ∧ row.id ∉ batch.map Message.id := by
  rw [← settles.ids]
  by_cases isReached : row.id ∈ outcomes.map Message.id
  · obtain ⟨outcome, member, same⟩ := List.mem_map.mp isReached
    have processed : (row.withOutcome outcome).isProcessed = true :=
      settles.processed outcome member
    rw [Store.settle_of_mem (settles.nodup distinct) member same.symm]
    simp [processed, isReached]
  · rw [Store.settle_of_not_mem isReached]
    simp [isReached]

end Settles

/-- A message of a batch that waits again is first in the next batch if all others of its batch are
processed, since whatever waited before it was in the batch too. -/
theorem mem_next_batch {outbox : List Message} {limit : Nat} (distinct : outbox.Nodup)
    (member : message ∈ (outbox.filter fun row => !row.isProcessed).take limit)
    {change : Message → Message} (again : (change message).isProcessed = false)
    (others : ∀ row ∈ outbox, row ≠ message →
      (row.isProcessed = false → row ∈ (outbox.filter fun row => !row.isProcessed).take limit) →
      (change row).isProcessed = true) :
    change message ∈ ((outbox.map change).filter fun row => !row.isProcessed).take limit := by
  obtain ⟨isRow, waits⟩ := List.mem_filter.mp (List.mem_of_mem_take member)
  obtain ⟨front, back, rfl⟩ := List.append_of_mem isRow
  rw [List.nodup_middle, List.nodup_cons] at distinct
  have notFront : message ∉ front := fun inFront => distinct.1 (List.mem_append_left back inFront)
  rw [List.filter_append, List.filter_cons_of_pos (by simpa using waits)] at member others
  have early : (front.filter fun row => !row.isProcessed).length < limit := by
    rw [List.mem_take_iff_idxOf_lt (by simp), List.idxOf_append_of_notMem, List.idxOf_cons_self,
      Nat.add_zero] at member
    · exact member
    · exact fun inFront => notFront (List.mem_filter.mp inFront).1
  have nobody : (front.map change).filter (fun row => !row.isProcessed) = [] := by
    rw [List.filter_eq_nil_iff]
    intro changed isChanged
    obtain ⟨row, inFront, rfl⟩ := List.mem_map.mp isChanged
    have processed := others row (by simp [inFront]) (fun same => notFront (same ▸ inFront))
      fun waits => by
        rw [List.take_append, List.take_of_length_le (Nat.le_of_lt early), List.mem_append,
          List.mem_filter]
        exact .inl ⟨inFront, by simp [waits]⟩
    simp [processed]
  obtain ⟨more, rfl⟩ : ∃ more, limit = more + 1 := ⟨limit - 1, by omega⟩
  rw [List.map_append, List.map_cons, List.filter_append, nobody, List.nil_append,
    List.filter_cons_of_pos (by simpa using again), List.take_succ_cons]
  exact List.mem_cons_self

end batches

/-- The rows of the outbox are different, a run can begin, and its batch has the message of an
event. No other message that waits is of the event. -/
structure Ready (batchSize : Int) (event : Event) (message : Message)
    (course : SharedCourse Unit) : Prop where
  rows : (course.state.store.outbox.map Message.id).Nodup
  free : course.state.store.isLeased = false
  member : message ∈ course.state.store.fetch batchSize
  decoded : message.decode = .ok event
  others : ∀ other ∈ course.state.store.outbox, other.isProcessed = false → other ≠ message →
    ∀ about, other.decode = .ok about → about.id ≠ event.id

namespace Ready

variable {batchSize : Int} {message : Message} (ready : Ready batchSize event message base)
include ready

theorem mem_outbox : message ∈ base.state.store.outbox ∧ message.isProcessed = false := by
  simpa using List.mem_filter.mp (List.mem_of_mem_take ready.member)

theorem nodup_batch : ((base.state.store.fetch batchSize).map Message.id).Nodup :=
  ready.rows.sublist (((List.take_sublist _ _).trans List.filter_sublist).map Message.id)

/-- A batch has the message and others, all different from it. -/
theorem exists_batch :
    ∃ front back, base.state.store.fetch batchSize = front ++ message :: back ∧
      ∀ other ∈ front ++ back, ∀ about, other.decode = .ok about → about.id ≠ event.id := by
  obtain ⟨front, back, split⟩ := List.append_of_mem ready.member
  refine ⟨front, back, split, ?_⟩
  intro other isOther about decoded
  have nodup : (front ++ message :: back).Nodup := split ▸ ready.nodup_batch.of_map
  have inBatch : other ∈ base.state.store.fetch batchSize := by
    rw [split, List.perm_middle.mem_iff]
    exact List.mem_cons_of_mem message isOther
  obtain ⟨isRow, waits⟩ := List.mem_filter.mp (List.mem_of_mem_take inBatch)
  apply ready.others other isRow (by simpa using waits) _ about decoded
  rintro rfl
  rw [List.nodup_middle, List.nodup_cons] at nodup
  exact nodup.1 isOther

end Ready

/-- What a run leaves whose batch has got these outcomes. -/
structure WorkedOff (batch outcomes : List Message) (base after : SharedCourse Unit) : Prop where
  settles : Settles batch outcomes
  outbox : after.state.store.outbox = base.state.store.outbox.map (Store.settle outcomes)
  free : after.state.store.isLeased = false

/-- The outcome of the message is stored with its row. -/
theorem Ready.mem_stored {batchSize : Int} {message : Message} {outcomes : List Message}
    (ready : Ready batchSize event message base)
    (workedOff : WorkedOff (base.state.store.fetch batchSize) outcomes base after) {now : Moment}
    {error? : Option String} (member : message.markProcessed now error? ∈ outcomes) :
    message.markProcessed now error? ∈ after.state.store.outbox := by
  rw [workedOff.outbox, List.mem_map]
  exact ⟨message, ready.mem_outbox.1,
    Store.settle_of_mem (workedOff.settles.nodup ready.nodup_batch) member rfl⟩

section dispatcher

variable {settings : DispatchSettings} {bus : Bus}
  (isBus : bus.subscriptions = recipients.map Recipient.subscription) (fit : settings.PausesFit)
include isBus fit

/-- The delivery of another event. -/
theorem deliver_ignores {message : Message}
    (other : ∀ about, message.decode = .ok about → about.id ≠ event.id) :
    Ignores behaviour event base (Dispatcher.deliver ⟨settings, bus⟩ message) := by
  have compositional := compositional_ignores behaviour event base
  rw [Dispatcher.deliver_eq]
  cases decoded : message.decode with
  | error error => exact compositional.done _
  | ok about =>
      refine compositional.andThen ?_ fun _ => compositional.done _
      refine Dispatcher.retry_fine ?_ compositional _ _ _ ?_
      · intro subscription member
        rw [isBus] at member
        obtain ⟨recipient, -, rfl⟩ := List.mem_map.mp member
        apply Subscription.deliver_fine compositional True.intro (other about decoded)
        refine compositional.ask (other about decoded) fun consultation => ?_
        exact compositional.ask True.intro fun _ => compositional.done _
      · intro n isRetry within
        rw [Nat.zero_add] at within
        obtain ⟨duration, represented⟩ := fit n isRetry within
        rw [Dispatcher.pause, represented]
        exact compositional.ask True.intro fun _ => compositional.done _

/-! ## A run -/

theorem deliverAll_ignores {messages : List Message}
    (others : ∀ message ∈ messages, ∀ about, message.decode = .ok about → about.id ≠ event.id)
    (report : DispatchReport) (unconcerned : Unconcerned event base course) :
    (Dispatcher.deliverAll ⟨settings, bus⟩ messages report).Yields behaviour.surroundings
      (fun reached after => Unconcerned event base after ∧ Settles messages reached.2) course := by
  induction messages generalizing course report with
  | nil => exact .done ⟨unconcerned, rfl, List.forall_mem_nil _⟩
  | cons message rest ih =>
      rw [List.forall_mem_cons] at others
      rw [Dispatcher.deliverAll_cons]
      apply Script.Yields.ask
      intro chance
      refine ⟨false, _, rfl, ?_⟩
      apply (deliver_ignores isBus fit others.1 _
        (unconcerned.quiet rfl (fun _ => Iff.rfl) rfl)).andThen
      intro delivery delivered unconcerned
      apply Script.Yields.ask
      intro marking
      refine ⟨_, _, rfl, ?_⟩
      apply (ih others.2 _ (unconcerned.quiet rfl (fun _ => Iff.rfl) rfl)).andThen
      rintro reached after ⟨unconcerned, settles⟩
      exact .done ⟨unconcerned, settles.cons message _ _⟩

variable (distinct : Distinct recipients) {count : Nat}
  (attempts : Backoff.retries settings.maxAttempts + 1 = count) {message : Message}
  (decoded : message.decode = .ok event)
include distinct attempts decoded

theorem deliver_handles (base : SharedCourse Unit) :
    (Dispatcher.deliver ⟨settings, bus⟩ message).Yields behaviour.surroundings
      (fun delivery after =>
        Tried behaviour recipients event base (attempted behaviour recipients event base count)
            after ∧
          Handled behaviour recipients event count base after delivery.error?) base := by
  subst attempts
  refine (deliver_message_yields distinct isBus decoded fit).imp ?_
  rintro _ after ⟨tried, rfl⟩
  exact ⟨tried, tried.handled distinct⟩

/-- What a batch does for an event whose message is among others. -/
theorem deliverAll_handles {front back : List Message}
    (others : ∀ message ∈ front ++ back, ∀ about,
      message.decode = .ok about → about.id ≠ event.id)
    (report : DispatchReport) (unconcerned : Unconcerned event base course) :
    (Dispatcher.deliverAll ⟨settings, bus⟩ (front ++ message :: back) report).Yields
      behaviour.surroundings
      (fun reached after => Settles (front ++ message :: back) reached.2 ∧
        after.state.store.outbox = base.state.store.outbox ∧
        ∃ now error?, message.markProcessed now error? ∈ reached.2 ∧
          Handled behaviour recipients event count base after error?) course := by
  induction front generalizing course report with
  | nil =>
      rw [List.nil_append, Dispatcher.deliverAll_cons]
      apply Script.Yields.ask
      intro chance
      refine ⟨false, _, rfl, ?_⟩
      apply (deliver_handles isBus fit distinct attempts decoded _).andThen
      rintro delivery delivered ⟨tried, handled⟩
      apply Script.Yields.ask
      intro marking
      refine ⟨_, _, rfl, ?_⟩
      have unchanged : Unconcerned event delivered delivered := .refl delivered
      apply (deliverAll_ignores isBus fit others _
        (unchanged.quiet rfl (fun _ => Iff.rfl) rfl)).andThen
      rintro reached after ⟨later, settles⟩
      refine .done ⟨settles.cons message _ _, ?_, _, _, List.mem_cons_self, ?_⟩
      · exact later.outbox.trans (tried.outbox.trans unconcerned.outbox)
      · exact (handled.before (unconcerned.quiet rfl (fun _ => Iff.rfl) rfl)).thereafter later.calls
          later.marked
  | cons other front ih =>
      rw [List.cons_append, List.forall_mem_cons] at others
      rw [List.cons_append, Dispatcher.deliverAll_cons]
      apply Script.Yields.ask
      intro chance
      refine ⟨false, _, rfl, ?_⟩
      apply (deliver_ignores isBus fit others.1 _
        (unconcerned.quiet rfl (fun _ => Iff.rfl) rfl)).andThen
      intro delivery delivered unconcerned
      apply Script.Yields.ask
      intro marking
      refine ⟨_, _, rfl, ?_⟩
      apply (ih others.2 _ (unconcerned.quiet rfl (fun _ => Iff.rfl) rfl)).andThen
      rintro reached after ⟨settles, outbox, now, error?, member, handled⟩
      exact .done ⟨settles.cons other _ _, outbox, now, error?, List.mem_cons_of_mem _ member,
        handled⟩

omit decoded in
/-- A batch with the message of an event does for the event what one delivery does, and its error
is in the outcome of the message. -/
theorem dispatchBatch_handles (ready : Ready settings.batchSize event message base)
    (unconcerned : Unconcerned event base course) :
    (Dispatcher.dispatchBatch ⟨settings, bus⟩).attempt.Yields behaviour.surroundings
      (fun result after => (∃ report, result = .ok report) ∧ ∃ outcomes,
        Settles (base.state.store.fetch settings.batchSize) outcomes ∧
          after.state.store.outbox = base.state.store.outbox.map (Store.settle outcomes) ∧
          ∃ now error?, message.markProcessed now error? ∈ outcomes ∧
            Handled behaviour recipients event count base after error?) course := by
  obtain ⟨front, back, split, others⟩ := ready.exists_batch
  rw [Dispatcher.dispatchBatch_eq]
  apply Script.Yields.ask
  intro fetching
  refine ⟨.ok (course.state.store.fetch settings.batchSize), _, rfl, ?_⟩
  have fetched : course.state.store.fetch settings.batchSize = front ++ message :: back := by
    rw [← split, Store.fetch, Store.fetch, unconcerned.outbox]
  simp only [fetched]
  apply (deliverAll_handles isBus fit distinct attempts ready.decoded others _
    (unconcerned.quiet rfl (fun _ => Iff.rfl) rfl)).andThen
  rintro ⟨report, outcomes⟩ stopped ⟨settles, outbox, now, error?, member, handled⟩
  rw [if_neg (by simpa using List.ne_nil_of_mem member)]
  apply Script.Yields.ask
  intro saving
  refine ⟨.ok (), _, rfl, .done ?_⟩
  rw [← split] at settles
  have rows : (stopped.state.store.outbox.map Message.id).Nodup := outbox ▸ ready.rows
  have saved := Store.outbox_saveProcessed rows (settles.nodup ready.nodup_batch)
  rw [outbox] at saved
  exact ⟨⟨report, rfl⟩, outcomes, settles, saved, now, error?, member,
    handled.thereafter (callsFor_quiet rfl stopped) fun _ => Iff.rfl⟩

omit decoded in
/-- A run that has the message of an event in its batch does the same. -/
theorem runOnce_handles (ready : Ready settings.batchSize event message base) :
    (Dispatcher.runOnce ⟨settings, bus⟩).attempt.Yields behaviour.surroundings
      (fun result after => (∃ report, result = .ok report) ∧ ∃ outcomes,
        WorkedOff (base.state.store.fetch settings.batchSize) outcomes base after ∧
          ∃ now error?, message.markProcessed now error? ∈ outcomes ∧
            Handled behaviour recipients event count base after error?) base := by
  rw [Dispatcher.runOnce_eq]
  apply Script.Yields.ask
  intro chance
  have answered := Consumption.answer_tryLease (behaviour.draw base chance .tryLease) base.state
  rw [ready.free] at answered
  let leased := base.extend ⟨(), .tryLease, .ok (.ok (some ⟨0⟩)), base.state,
    { base.state.later chance.elapsed with store := { base.state.store with isLeased := true } }⟩
  refine ⟨.ok (some ⟨0⟩), leased, ?_, ?_⟩
  · simp only [Behaviour.surroundings, Shared.logged, Surroundings.recorded, Shared.surroundings,
      answered]
    rfl
  have unconcerned : Unconcerned event base leased :=
    (Unconcerned.refl base).quiet rfl (fun _ => Iff.rfl) rfl
  apply ((dispatchBatch_handles isBus fit distinct attempts ready unconcerned).onAbort _).andThen
  rintro _ after ⟨⟨report, rfl⟩, outcomes, settles, saved, now, error?, member, handled⟩
  apply Script.Yields.ask
  intro releasing
  exact ⟨.ok (), _, rfl, .done ⟨⟨report, rfl⟩, outcomes, ⟨settles, saved, rfl⟩, now, error?,
    member, handled.thereafter (callsFor_quiet rfl after) fun _ => Iff.rfl⟩⟩

end dispatcher

/-! ## Another delivery -/

namespace Handled

variable {count : Nat} {error? : Option String} (distinct : Distinct recipients)
  (handled : Handled behaviour recipients event count base after error?)
include distinct handled

theorem marked_iff (member : recipient ∈ recipients)
    (isType : recipient.eventType = event.typeName) :
    recipient.marker event ∈ after.state.store.markers ↔
      recipient.marker event ∈ base.state.store.markers ∨
        recipient ∈ waiting recipients event base ∧
          behaviour.left event base recipient < count := by
  refine (handled.marked recipient.consumer).trans (or_congr_right ?_)
  constructor
  · rintro ⟨other, isWaiting, few, sameConsumer⟩
    exact distinct.eq_of_consumer isWaiting member isType sameConsumer ▸ ⟨isWaiting, few⟩
  · rintro ⟨isWaiting, few⟩
    exact ⟨recipient, isWaiting, few, rfl⟩

/-- The recipients that have not succeeded wait for another delivery. -/
theorem waiting_eq :
    waiting recipients event after =
      (waiting recipients event base).filter (count ≤ behaviour.left event base ·) := by
  rw [waiting, waiting, List.filter_filter]
  apply List.filter_congr
  intro recipient member
  rw [Bool.eq_iff_iff]
  simp only [Bool.and_eq_true, beq_iff_eq, Bool.not_eq_true', decide_eq_true_eq, Store.isConsumed,
    List.contains_eq_mem, decide_eq_false_iff_not, ← Nat.not_lt]
  by_cases isType : recipient.eventType = event.typeName
  · rw [handled.marked_iff distinct member isType, mem_waiting]
    tauto
  · simp [isType]

end Handled

/-- A message of a batch waits again after a requeue, and is in the next batch. -/
theorem Ready.requeue {batchSize : Int} {message : Message} {outcomes : List Message}
    (ready : Ready batchSize event message base) (behaviour : Behaviour)
    (workedOff : WorkedOff (base.state.store.fetch batchSize) outcomes base after)
    (chances : Nat → Chance) :
    ∃ requeued, behaviour.surroundings.perform chances (ask (.requeue message.id)) after =
        (.ok (.ok true), requeued) ∧
      requeued.state.store.markers = after.state.store.markers ∧
      Ready batchSize event message.requeue requeued := by
  obtain ⟨settles, settled, free⟩ := workedOff
  have rows := ready.rows
  obtain ⟨isRow, waits⟩ := ready.mem_outbox
  -- What becomes of a row by the batch and the requeue.
  let change (row : Message) : Message :=
    if row.id == message.id then row.requeue else Store.settle outcomes row
  have changed : Store.replaceFirst (·.id == message.id) Message.requeue
      (base.state.store.outbox.map (Store.settle outcomes)) =
        base.state.store.outbox.map change := by
    rw [Store.replaceFirst_eq_map, List.map_map]
    · refine List.map_congr_left fun row _ => ?_
      simp only [Function.comp_apply, Store.settle_id, Store.settle_requeue, change]
    · rw [List.Nodup, List.pairwise_map] at rows
      rw [List.pairwise_map]
      refine rows.imp fun different isOne => ?_
      simp only [Store.settle_id, beq_iff_eq] at isOne
      simpa [← isOne] using Ne.symm different
  obtain ⟨absent, -⟩ | ⟨-, found⟩ := after.state.store.requeue_cases message.id
  · rw [settled] at absent
    exact absurd (Store.settle_id outcomes message) (absent _ (List.mem_map_of_mem isRow))
  rw [settled, changed] at found
  let requeued := after.extend ⟨(), .requeue message.id,
    .ok (.ok (after.state.store.requeue message.id).1), after.state,
    { after.state.later (chances 0).elapsed with
      store := (after.state.store.requeue message.id).2 }⟩
  have outbox : requeued.state.store.outbox = base.state.store.outbox.map change :=
    congrArg (fun requeued => requeued.2.outbox) found
  have changeMessage : change message = message.requeue := if_pos (beq_self_eq_true message.id)
  have changeOther {row : Message} (member : row ∈ base.state.store.outbox)
      (other : row ≠ message) : change row = Store.settle outcomes row :=
    if_neg fun same => other (List.inj_on_of_nodup_map rows member isRow (by simpa using same))
  have performed : behaviour.surroundings.perform chances (ask (.requeue message.id)) after =
      (.ok (.ok (after.state.store.requeue message.id).1), requeued) := rfl
  rw [congrArg Prod.fst found] at performed
  refine ⟨requeued, performed, (after.state.store.requeue_frame message.id).2, ?_⟩
  constructor
  · have ids : Message.id ∘ change = Message.id := by
      funext row
      simp only [Function.comp_apply, change]
      split
      · rfl
      · exact Store.settle_id outcomes row
    rw [outbox, List.map_map, ids]
    exact rows
  · exact (after.state.store.requeue_frame message.id).1.trans free
  · rw [Store.fetch, outbox, ← changeMessage]
    refine mem_next_batch rows.of_map ready.member (congrArg Message.isProcessed changeMessage) ?_
    intro row member other inBatch
    rw [changeOther member other]
    by_contra notProcessed
    obtain ⟨waits, outside⟩ :=
      (settles.waits_iff ready.nodup_batch).mp (by simpa using notProcessed)
    exact outside (List.mem_map_of_mem (inBatch waits))
  · exact ready.decoded
  · intro other member waits different
    rw [outbox] at member
    obtain ⟨row, isRow, rfl⟩ := List.mem_map.mp member
    have isOther : row ≠ message := by
      rintro rfl
      exact different changeMessage
    rw [changeOther isRow isOther] at waits ⊢
    obtain ⟨waited, outside⟩ := (settles.waits_iff ready.nodup_batch).mp waits
    rw [Store.settle_of_not_mem (settles.ids ▸ outside)]
    exact ready.others row isRow waited isOther

theorem waiting_of_markers (markers : after.state.store.markers = base.state.store.markers) :
    waiting recipients event after = waiting recipients event base := by
  simp only [waiting, Store.isConsumed, markers]

end Retries

/-- With a step of one word of milliseconds the pauses between few attempts can be represented. -/
theorem DispatchSettings.pausesFit_of_few {settings : DispatchSettings}
    (step : settings.retryStep ≤ Number.maxWord64) (few : settings.maxAttempts ≤ 20) :
    settings.PausesFit := by
  intro n isRetry within
  have fewer : n ≤ 20 := by
    have low : settings.maxAttempts &&& Number.maxWord32 ≤ settings.maxAttempts := Nat.and_le_left
    rw [Backoff.retries] at within
    omega
  refine ⟨settings.retryStep * n, if_pos ?_⟩
  have product : settings.retryStep * n ≤ Number.maxWord64 * 20 := Nat.mul_le_mul step fewer
  omega

/-- Few attempts are as many as the settings say. -/
theorem Backoff.retries_add_one {maxAttempts : Nat} (isAttempt : 1 ≤ maxAttempts)
    (few : maxAttempts ≤ 20) : retries maxAttempts + 1 = maxAttempts := by
  have low : maxAttempts &&& Number.maxWord32 = maxAttempts :=
    Nat.and_two_pow_sub_one_of_lt_two_pow (n := 32) (by omega)
  rw [retries, low]
  omega

open Retries in
/-- Retries are per handler. Each attempt of a delivery calls the recipients of the event that are
not marked and have not succeeded, in the order of their subscription, so that each is called once
more than it fails, or as often as there are attempts. Those that succeed are marked. The message is
delivered if all of them do, and its error names the others. A run of a dispatcher does the same
for the event of a message in its batch, and once the message has been put back, another run calls
the recipients that are still not marked. The pauses must be such as can be represented, which those
of a step of one word of milliseconds are. -/
theorem retries_are_per_handler {recipients : List Recipient} {bus : Bus}
    (accepted : Bus.of (recipients.map Recipient.subscription) = .ok bus)
    (own : (recipients.map Recipient.handler).Nodup) {settings : DispatchSettings}
    (isAttempt : 1 ≤ settings.maxAttempts) (few : settings.maxAttempts ≤ 20)
    (fit : settings.PausesFit) (behaviour : Behaviour) {event : Event} {message : Message}
    (decoded : message.decode = .ok event) (before : SharedCourse Unit) :
    let dispatcher : Dispatcher := ⟨settings, bus⟩
    let count := settings.maxAttempts
    let unmarked := waiting recipients event before
    let left := behaviour.left event before
    (∀ chances, ∃ delivery after,
        behaviour.surroundings.perform chances (dispatcher.deliver message) before =
            (.ok delivery, after) ∧
          Handled behaviour recipients event count before after delivery.error? ∧
          (delivery = .delivered ↔ ∀ recipient ∈ unmarked, left recipient < count) ∧
          calls after = calls before ++ (rounds unmarked left count).map (·, event) ∧
          ∀ marker, marker ∈ after.state.store.markers ↔
            marker ∈ before.state.store.markers ∨ ∃ recipient ∈ unmarked,
              left recipient < count ∧ recipient.marker event = marker) ∧
      (Ready settings.batchSize event message before → ∀ first between second,
        ∃ report after requeued again final,
          behaviour.surroundings.perform first dispatcher.runOnce.attempt before =
              (.ok (.ok report), after) ∧
            (∃ row ∈ after.state.store.outbox, row.id = message.id ∧ row.isProcessed = true ∧
              Handled behaviour recipients event count before after row.error) ∧
            behaviour.surroundings.perform between (ask (.requeue message.id)) after =
              (.ok (.ok true), requeued) ∧
            behaviour.surroundings.perform second dispatcher.runOnce.attempt requeued =
              (.ok (.ok again), final) ∧
            (∃ row ∈ final.state.store.outbox, row.id = message.id ∧ row.isProcessed = true ∧
              Handled behaviour recipients event count requeued final row.error) ∧
            waiting recipients event requeued = unmarked.filter (count ≤ left ·) ∧
            ∀ recipient ∈ recipients,
              recipient.handler ∈ attempted behaviour recipients event requeued count ↔
                recipient ∈ waiting recipients event requeued) := by
  intro dispatcher count unmarked left
  obtain ⟨names, isBus⟩ := Bus.of_eq_ok_iff.mp accepted
  rw [List.map_map] at names
  have distinct : Distinct recipients := ⟨own, names⟩
  have attempts : Backoff.retries settings.maxAttempts + 1 = count :=
    Backoff.retries_add_one isAttempt few
  constructor
  · intro chances
    obtain ⟨delivery, after, performed, tried, handled⟩ :=
      (deliver_handles isBus fit distinct attempts decoded before).perform chances
    refine ⟨delivery, after, performed, handled, ?_, tried.calls, ?_⟩
    · exact (Delivery.error?_eq_none_iff delivery).symm.trans handled.delivered
    · intro marker
      rw [tried.marked]
      refine or_congr_right (exists_congr fun recipient => and_congr_right fun isWaiting => ?_)
      have often : (attempted behaviour recipients event before count).count recipient.handler =
          min (left recipient + 1) count := handled.often recipient isWaiting
      have succeeds : left recipient <
          (attempted behaviour recipients event before count).count recipient.handler ↔
            left recipient < count := by
        rw [often]
        omega
      exact and_congr_left fun _ => succeeds
  · intro ready first between second
    obtain ⟨_, after, performed, ⟨report, rfl⟩, outcomes, workedOff, now, error?, isOutcome,
      handled⟩ := (runOnce_handles isBus fit distinct attempts ready).perform first
    have stored := ready.mem_stored workedOff isOutcome
    obtain ⟨requeued, putBack, markers, readyAgain⟩ := ready.requeue behaviour workedOff between
    obtain ⟨_, final, performedAgain, ⟨again, rfl⟩, outcomesAgain, workedOffAgain, later, error,
      isOutcomeAgain, handledAgain⟩ :=
      (runOnce_handles isBus fit distinct attempts readyAgain).perform second
    have storedAgain := readyAgain.mem_stored workedOffAgain isOutcomeAgain
    refine ⟨report, after, requeued, again, final, performed, ⟨_, stored, rfl, rfl, handled⟩,
      putBack, performedAgain, ⟨_, storedAgain, rfl, rfl, handledAgain⟩, ?_, ?_⟩
    · rw [waiting_of_markers markers]
      exact handled.waiting_eq distinct
    · intro recipient member
      constructor
      · intro called
        by_contra notWaiting
        exact handledAgain.never recipient member notWaiting called
      · intro isWaiting
        have often : (attempted behaviour recipients event requeued count).count
            recipient.handler = min (behaviour.left event requeued recipient + 1) count :=
          handledAgain.often recipient isWaiting
        exact List.count_pos_iff.mp (by omega)

open Retries Time in
/-- With two attempts a handler that fails once succeeds and one that fails three times does not. A
run calls the second one alone after the message has been put back. The handler of another type of
events is never called. -/
theorem retries_are_per_handler_of_three :
    let now : Moment := ⟨⟨2026, 1, 2, by decide, by decide, by decide⟩, 3, 4, 5, 6,
      by decide, by decide, by decide, by decide⟩
    let event : Event := ⟨⟨1⟩, now, .removed ⟨⟨2⟩, "abc"⟩⟩
    let audit : Recipient := ⟨event.typeName, "audit", "write"⟩
    let mail : Recipient := ⟨event.typeName, "mail", "send"⟩
    let recipients : List Recipient := [audit, mail, ⟨"ShortenedUrlCreated", "audit", "count"⟩]
    let bus : Bus := ⟨recipients.map Recipient.subscription⟩
    let settings : DispatchSettings := ⟨10, 2, 100⟩
    let behaviour : Behaviour := ⟨fun handler _ => if handler = "send" then 3 else 1,
      fun _ _ _ => .database "gone", fun _ _ _ => 20⟩
    let before : SharedCourse Unit := ⟨[], { outbox := [.ofEvent event] }, none, 0⟩
    Bus.of (recipients.map Recipient.subscription) = .ok bus ∧
      (recipients.map Recipient.handler).Nodup ∧ 1 ≤ settings.maxAttempts ∧
      settings.maxAttempts ≤ 20 ∧ settings.PausesFit ∧
      (Message.ofEvent event).decode = .ok event ∧
      Ready settings.batchSize event (.ofEvent event) before ∧
      (∀ chances, ∃ delivery after,
        behaviour.surroundings.perform chances
            (Dispatcher.deliver ⟨settings, bus⟩ (.ofEvent event)) before = (.ok delivery, after) ∧
          delivery ≠ .delivered ∧
          calls after = ["write", "send", "write", "send"].map (·, event) ∧
          audit.marker event ∈ after.state.store.markers) ∧
      ∀ chances, ∃ report after requeued again final,
        behaviour.surroundings.perform chances (Dispatcher.runOnce ⟨settings, bus⟩).attempt before =
            (.ok (.ok report), after) ∧
          behaviour.surroundings.perform chances (ask (.requeue event.id)) after =
            (.ok (.ok true), requeued) ∧
          behaviour.surroundings.perform chances (Dispatcher.runOnce ⟨settings, bus⟩).attempt
              requeued = (.ok (.ok again), final) ∧
          "send" ∈ attempted behaviour recipients event requeued 2 ∧
          "write" ∉ attempted behaviour recipients event requeued 2 := by
  intro now event audit mail recipients bus settings behaviour before
  have accepted : Bus.of (recipients.map Recipient.subscription) = .ok bus :=
    Bus.of_eq_ok_iff.mpr ⟨by decide, rfl⟩
  have own : (recipients.map Recipient.handler).Nodup := by decide
  have isAttempt : 1 ≤ settings.maxAttempts := by decide
  have few : settings.maxAttempts ≤ 20 := by decide
  have fit : settings.PausesFit := DispatchSettings.pausesFit_of_few (by decide) few
  have decoded : (Message.ofEvent event).decode = .ok event := Message.decode_ofEvent event
  have ready : Ready settings.batchSize event (.ofEvent event) before := by
    refine ⟨by decide, rfl, List.mem_singleton_self _, decoded, ?_⟩
    intro other member _ different
    exact absurd (List.mem_singleton.mp member) different
  obtain ⟨delivers, runs⟩ :=
    retries_are_per_handler accepted own isAttempt few fit behaviour decoded before
  refine ⟨accepted, own, isAttempt, few, fit, decoded, ready, ?_, ?_⟩
  · intro chances
    obtain ⟨delivery, after, performed, -, delivered, called, marked⟩ := delivers chances
    refine ⟨delivery, after, performed, ?_, called, ?_⟩
    · rw [ne_eq, delivered]
      decide
    · exact (marked _).mpr (.inr ⟨audit, by decide, by decide, rfl⟩)
  · intro chances
    obtain ⟨report, after, requeued, again, final, performed, -, putBack, performedAgain, -, left,
      called⟩ := runs ready chances chances chances
    refine ⟨report, after, requeued, again, final, performed, putBack, performedAgain, ?_, ?_⟩
    · rw [called mail (by decide), left]
      decide
    · rw [called audit (by decide), left]
      decide

end Shortlink
