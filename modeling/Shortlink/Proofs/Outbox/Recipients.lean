import Mathlib.Data.List.Count
import Mathlib.Data.List.Nodup
import Shortlink.Proofs.Outbox.Delivery
import Shortlink.Proofs.Store.Tables

/-!
# Handlers that fail before they succeed

Handlers outside the library that fail for an event as often as they like before they succeed. An
attempt to publish the event calls those whose consumers are not marked, in the order of their
subscription. A handler that succeeds is marked, and no later attempt calls it. So a handler is
called once more often than it fails, or as often as there are attempts, whatever the others do.
-/

namespace Shortlink

/-- A handler outside the library that is subscribed to a type of events. -/
structure Recipient where
  eventType : String
  /-- The name under which its success is recorded. -/
  consumer : String
  /-- The name by which it is called. -/
  handler : String
  deriving DecidableEq, Repr

namespace Recipient

/-- The recipient as a subscription of a bus. -/
def subscription (recipient : Recipient) : Subscription :=
  ⟨recipient.eventType, recipient.consumer, .external recipient.handler⟩

/-- The mark that the recipient has handled an event. -/
def marker (recipient : Recipient) (event : Event) : Marker := recipient.subscription.marker event

end Recipient

/-! ## Buses -/

namespace Bus

theorem duplicate?_eq_none_iff {seen : List (String × String)}
    {subscriptions : List Subscription} :
    duplicate? seen subscriptions = none ↔
      (subscriptions.map key).Nodup ∧ ∀ name ∈ subscriptions.map key, name ∉ seen := by
  induction subscriptions generalizing seen with
  | nil => simp [duplicate?]
  | cons subscription rest ih =>
      rw [duplicate?, List.map_cons, List.nodup_cons, List.forall_mem_cons]
      by_cases isSeen : key subscription ∈ seen
      · simp [isSeen]
      · rw [if_neg (by simpa using isSeen), ih]
        constructor
        · intro ⟨distinct, unseen⟩
          refine ⟨⟨fun again => ?_, distinct⟩, isSeen, fun name member => ?_⟩
          · exact unseen _ again List.mem_cons_self
          · exact fun old => unseen name member (List.mem_cons_of_mem _ old)
        · intro ⟨⟨once, distinct⟩, _, unseen⟩
          refine ⟨distinct, fun name member => ?_⟩
          rw [List.mem_cons, not_or]
          exact ⟨fun same => once (same ▸ member), unseen name member⟩

/-- A bus is made of subscriptions whose names are all different. -/
theorem of_eq_ok_iff {subscriptions : List Subscription} {bus : Bus} :
    Bus.of subscriptions = .ok bus ↔
      (subscriptions.map key).Nodup ∧ bus.subscriptions = subscriptions := by
  have accepted : duplicate? [] subscriptions = none ↔ (subscriptions.map key).Nodup := by
    simp [duplicate?_eq_none_iff]
  rw [Bus.of]
  cases found : duplicate? [] subscriptions with
  | some subscription =>
      rw [found] at accepted
      simp_all
  | none =>
      rw [found] at accepted
      obtain ⟨of⟩ := bus
      simp_all [eq_comm]

end Bus

namespace Retries

/-! ## Calls -/

/-- The handler that an exchange has called, and the event. -/
def called? : Exchange Unit Effect.interface Shared → Option (String × Event)
  | ⟨_, .consult handler event, _, _, _⟩ => some (handler, event)
  | _ => none

/-- All calls of handlers, in their order. -/
def calls (course : SharedCourse Unit) : List (String × Event) := course.history.filterMap called?

theorem calls_extend (course : SharedCourse Unit)
    (exchange : Exchange Unit Effect.interface Shared) :
    calls (course.extend exchange) = calls course ++ (called? exchange).toList :=
  course.filterMap_extend called? exchange

/-- How handlers behave. -/
structure Behaviour where
  /-- How often a handler fails for an event before it succeeds. -/
  fails : String → Event → Nat
  /-- What it fails with after so many calls. -/
  failure : String → Event → Nat → Failure
  /-- How long it takes after so many calls. -/
  duration : String → Event → Nat → Nat

namespace Behaviour

variable (behaviour : Behaviour)

/-- How a handler answers after so many calls for the event. -/
def consultation (handler : String) (event : Event) (made : Nat) : Consultation where
  duration := behaviour.duration handler event made
  outcome :=
    if made < behaviour.fails handler event then .error (behaviour.failure handler event made)
    else .ok ()

/-- A chance by which handlers behave so, and nobody cancels. -/
def draw (course : SharedCourse Unit) (chance : Chance) : Effect → Chance
  | .consult handler event =>
    { chance with
      consultation :=
        behaviour.consultation handler event ((calls course).count (handler, event)) }
  | _ => { chance with isCancelled := false }

/-- The surroundings of a run alone, with all that happens written down, where handlers behave so
and nobody cancels. -/
def surroundings : Surroundings Effect.interface (SharedCourse Unit) where
  Chance := Chance
  answer chance request course :=
    Shared.logged.answer (behaviour.draw course chance request) request course
  Disturbance := Empty
  disturb := nofun

/-- How often the handler of a recipient still fails for the event. -/
def left (event : Event) (course : SharedCourse Unit) (recipient : Recipient) : Nat :=
  behaviour.fails recipient.handler event - (calls course).count (recipient.handler, event)

end Behaviour

/-! ## Rounds -/

/-- The recipients of an event whose consumers are not marked, in the order of their
subscription. -/
def waiting (recipients : List Recipient) (event : Event) (course : SharedCourse Unit) :
    List Recipient :=
  recipients.filter fun recipient =>
    recipient.eventType == event.typeName &&
      !course.state.store.isConsumed (recipient.marker event)

/-- Whom so many attempts call one after another: each calls all recipients that have not yet
succeeded, which is those that fail at least as often as there were attempts before. -/
def rounds (recipients : List Recipient) (left : Recipient → Nat) (count : Nat) : List String :=
  (List.range count).flatMap fun made =>
    (recipients.filter (made ≤ left ·)).map Recipient.handler

section rounds

variable {recipients : List Recipient} {left : Recipient → Nat} {recipient : Recipient}

theorem rounds_succ (recipients : List Recipient) (left : Recipient → Nat) (count : Nat) :
    rounds recipients left (count + 1) =
      rounds recipients left count ++
        (recipients.filter (count ≤ left ·)).map Recipient.handler := by
  simp [rounds, List.range_succ]

/-- When all have succeeded no further attempt calls anybody. -/
theorem rounds_of_succeeded {made : Nat}
    (succeeded : ∀ recipient ∈ recipients, left recipient < made) (more : Nat) :
    rounds recipients left (made + more) = rounds recipients left made := by
  induction more with
  | zero => rfl
  | succ more ih =>
      have nobody : recipients.filter (made + more ≤ left ·) = [] := by
        rw [List.filter_eq_nil_iff]
        intro recipient member
        have few := succeeded recipient member
        simp
        omega
      rw [← Nat.add_assoc, rounds_succ, nobody, ih, List.map_nil, List.append_nil]

/-- A recipient is called once more often than it fails, or as often as there are attempts. -/
theorem count_rounds (distinct : (recipients.map Recipient.handler).Nodup)
    (member : recipient ∈ recipients) (count : Nat) :
    (rounds recipients left count).count recipient.handler = min (left recipient + 1) count := by
  induction count with
  | zero => simp [rounds]
  | succ count ih =>
      have once : ((recipients.filter (count ≤ left ·)).map Recipient.handler).Nodup :=
        distinct.sublist ((List.filter_sublist).map Recipient.handler)
      have called : recipient.handler ∈
          (recipients.filter (count ≤ left ·)).map Recipient.handler ↔ count ≤ left recipient := by
        rw [List.mem_map]
        constructor
        · rintro ⟨other, isCalled, same⟩
          obtain ⟨isOther, few⟩ := List.mem_filter.mp isCalled
          obtain rfl := List.inj_on_of_nodup_map distinct isOther member same
          simpa using few
        · intro few
          exact ⟨recipient, List.mem_filter.mpr ⟨member, by simpa using few⟩, rfl⟩
      rw [rounds_succ, List.count_append, ih, once.count]
      simp only [called]
      split
      · omega
      · omega

-- Three attempts for two handlers, of which the second fails once.
example :
    let audit : Recipient := ⟨"ShortenedUrlCreated", "audit", "write"⟩
    let mail : Recipient := ⟨"ShortenedUrlCreated", "mail", "send"⟩
    rounds [audit, mail] (if · = mail then 1 else 0) 3 = ["write", "send", "send"] := by
  decide

theorem mem_rounds_of_mem {handler : String} {count : Nat}
    (called : handler ∈ rounds recipients left count) :
    ∃ recipient ∈ recipients, recipient.handler = handler := by
  obtain ⟨made, -, isCalled⟩ := List.mem_flatMap.mp called
  obtain ⟨recipient, member, same⟩ := List.mem_map.mp isCalled
  exact ⟨recipient, (List.mem_filter.mp member).1, same⟩

end rounds

/-! ## Attempts -/

/-- The handlers of the recipients are all different, and so are the consumers of one type of
events. -/
structure Distinct (recipients : List Recipient) : Prop where
  handlers : (recipients.map Recipient.handler).Nodup
  consumers : (recipients.map fun recipient => (recipient.eventType, recipient.consumer)).Nodup

/-- From one course to another the handlers of a log have been called for an event, and recipients
that were called more often than they fail are marked. -/
structure Tried (behaviour : Behaviour) (recipients : List Recipient) (event : Event)
    (base : SharedCourse Unit) (log : List String) (course : SharedCourse Unit) : Prop where
  calls : calls course = calls base ++ log.map (·, event)
  marked : ∀ marker, marker ∈ course.state.store.markers ↔
    marker ∈ base.state.store.markers ∨ ∃ recipient ∈ waiting recipients event base,
      behaviour.left event base recipient < log.count recipient.handler ∧
        recipient.marker event = marker
  outbox : course.state.store.outbox = base.state.store.outbox

variable {behaviour : Behaviour} {recipients : List Recipient} {event : Event}
  {base course after : SharedCourse Unit} {log : List String} {recipient : Recipient}

theorem mem_waiting :
    recipient ∈ waiting recipients event base ↔
      recipient ∈ recipients ∧ recipient.eventType = event.typeName ∧
        recipient.marker event ∉ base.state.store.markers := by
  simp [waiting, Store.isConsumed]

/-- A consumer is waiting for an event as one recipient only. -/
theorem Distinct.eq_of_consumer (distinct : Distinct recipients) {other : Recipient}
    (isWaiting : other ∈ waiting recipients event base) (member : recipient ∈ recipients)
    (isType : recipient.eventType = event.typeName)
    (sameConsumer : other.consumer = recipient.consumer) : other = recipient := by
  obtain ⟨isOther, otherType, _⟩ := mem_waiting.mp isWaiting
  apply List.inj_on_of_nodup_map distinct.consumers isOther member
  rw [otherType, isType, sameConsumer]

namespace Tried

theorem start : Tried behaviour recipients event base [] base where
  calls := by simp
  marked := by simp
  outbox := rfl

/-- An exchange that calls no handler and leaves marks and outbox as they were. -/
theorem quiet (tried : Tried behaviour recipients event base log course)
    {exchange : Exchange Unit Effect.interface Shared} (silent : called? exchange = none)
    (markers : exchange.after.store.markers = course.state.store.markers)
    (outbox : exchange.after.store.outbox = course.state.store.outbox) :
    Tried behaviour recipients event base log (course.extend exchange) where
  calls := by
    rw [calls_extend, silent, tried.calls]
    simp
  marked := by
    rw [Course.extend_state, markers]
    exact tried.marked
  outbox := by rw [Course.extend_state, outbox, tried.outbox]

theorem count_calls (tried : Tried behaviour recipients event base log course) (handler : String) :
    (Retries.calls course).count (handler, event) =
      (Retries.calls base).count (handler, event) + log.count handler := by
  have injective : Function.Injective fun handler : String => (handler, event) :=
    fun _ _ same => (Prod.mk.inj same).1
  rw [tried.calls, List.count_append, List.count_map_of_injective log _ injective]

section distinct

variable (distinct : Distinct recipients) (tried : Tried behaviour recipients event base log course)
include distinct tried

/-- A recipient of the event is not marked exactly if it was not before and has not been called
more often than it fails. -/
theorem not_marked_iff (member : recipient ∈ recipients)
    (isType : recipient.eventType = event.typeName) :
    recipient.marker event ∉ course.state.store.markers ↔
      recipient ∈ waiting recipients event base ∧
        log.count recipient.handler ≤ behaviour.left event base recipient := by
  rw [tried.marked, mem_waiting, not_or]
  constructor
  · intro ⟨notBefore, notSince⟩
    refine ⟨⟨member, isType, notBefore⟩, Nat.not_lt.mp fun many => ?_⟩
    exact notSince ⟨recipient, mem_waiting.mpr ⟨member, isType, notBefore⟩, many, rfl⟩
  · rintro ⟨⟨_, _, notBefore⟩, few⟩
    refine ⟨notBefore, ?_⟩
    rintro ⟨other, isWaiting, many, sameMarker⟩
    have same : other = recipient :=
      distinct.eq_of_consumer isWaiting member isType (congrArg Marker.consumer sameMarker)
    rw [same] at many
    exact absurd many (Nat.not_lt.mpr few)

variable (isWaiting : recipient ∈ waiting recipients event base)
  (called : Retries.calls after = Retries.calls course ++ [(recipient.handler, event)])
  (outbox : after.state.store.outbox = course.state.store.outbox)
include isWaiting called outbox

/-- A recipient has failed once more. -/
theorem fail (markers : after.state.store.markers = course.state.store.markers)
    (fails : log.count recipient.handler < behaviour.left event base recipient) :
    Tried behaviour recipients event base (log ++ [recipient.handler]) after where
  calls := by
    rw [called, tried.calls]
    simp
  marked := by
    intro marker
    rw [markers, tried.marked]
    refine or_congr_right (exists_congr fun other => and_congr_right fun isOther => ?_)
    refine and_congr_left fun _ => ?_
    rw [List.count_append, List.count_singleton]
    split
    · next same =>
        have sameHandler : recipient.handler = other.handler := by simpa using same
        have isRecipient : recipient = other :=
          List.inj_on_of_nodup_map distinct.handlers (mem_waiting.mp isWaiting).1
            (mem_waiting.mp isOther).1 sameHandler
        subst isRecipient
        omega
    · rfl
  outbox := outbox.trans tried.outbox

/-- A recipient has succeeded, and was marked. -/
theorem succeed
    (markers : ∀ marker, marker ∈ after.state.store.markers ↔
      marker ∈ course.state.store.markers ∨ marker = recipient.marker event)
    (succeeds : log.count recipient.handler = behaviour.left event base recipient) :
    Tried behaviour recipients event base (log ++ [recipient.handler]) after where
  calls := by
    rw [called, tried.calls]
    simp
  marked := by
    intro marker
    rw [markers, tried.marked, or_assoc]
    refine or_congr_right ?_
    constructor
    · rintro (⟨other, isOther, many, rfl⟩ | rfl)
      · refine ⟨other, isOther, ?_, rfl⟩
        rw [List.count_append]
        omega
      · refine ⟨recipient, isWaiting, ?_, rfl⟩
        rw [List.count_append, List.count_singleton_self]
        omega
    · rintro ⟨other, isOther, many, rfl⟩
      by_cases same : other.handler = recipient.handler
      · right
        rw [List.inj_on_of_nodup_map distinct.handlers (mem_waiting.mp isOther).1
          (mem_waiting.mp isWaiting).1 same]
      · left
        refine ⟨other, isOther, ?_, rfl⟩
        rw [List.count_append, List.count_singleton, if_neg (by simpa using Ne.symm same)] at many
        exact many
  outbox := outbox.trans tried.outbox

end distinct

end Tried

/-! ## What an attempt does -/

/-- After so many attempts the recipient has not succeeded, so that the next one calls it. -/
def isDue (behaviour : Behaviour) (recipients : List Recipient) (event : Event)
    (base : SharedCourse Unit) (made : Nat) (recipient : Recipient) : Bool :=
  recipient ∈ waiting recipients event base ∧ made ≤ behaviour.left event base recipient

/-- The failure of the recipient after so many attempts. -/
def failureAfter (behaviour : Behaviour) (event : Event) (base : SharedCourse Unit) (made : Nat)
    (recipient : Recipient) : Failure :=
  behaviour.failure recipient.handler event
    ((calls base).count (recipient.handler, event) + made)

/-- How the next attempt ends for the recipient after so many others. -/
def resultAfter (behaviour : Behaviour) (recipients : List Recipient) (event : Event)
    (base : SharedCourse Unit) (made : Nat) (recipient : Recipient) : Except Failure Unit :=
  if isDue behaviour recipients event base (made + 1) recipient then
    .error (failureAfter behaviour event base made recipient)
  else .ok ()

section attempt

variable (distinct : Distinct recipients) {made : Nat}
include distinct

/-- A recipient that is due is called, and marked if it succeeds. -/
theorem call_yields (tried : Tried behaviour recipients event base log course)
    (isWaiting : recipient ∈ waiting recipients event base)
    (few : made ≤ behaviour.left event base recipient)
    (count : log.count recipient.handler = made) :
    Script.Yields behaviour.surroundings
      (fun result after =>
        Tried behaviour recipients event base (log ++ [recipient.handler]) after ∧
          result = resultAfter behaviour recipients event base made recipient)
      ((Handler.external recipient.handler event).attempt.andThen fun
        | .ok _ => (recipient.subscription.mark event).attempt
        | .error failure => .done (.error failure)) course := by
  have total := tried.count_calls recipient.handler
  rw [count] at total
  have outcome : (behaviour.consultation recipient.handler event
      ((calls course).count (recipient.handler, event))).outcome =
        resultAfter behaviour recipients event base made recipient := by
    rw [total]
    simp only [Behaviour.consultation, resultAfter, isDue, isWaiting, true_and, Behaviour.left,
      failureAfter, decide_eq_true_eq]
    congr 1
    exact propext (by omega)
  rw [Handler.external_eq]
  simp only [Script.andThen_ask, Script.andThen_done]
  apply Script.Yields.ask
  intro chance
  refine ⟨behaviour.consultation recipient.handler event
    ((calls course).count (recipient.handler, event)), _, rfl, ?_⟩
  apply Script.Yields.ask
  intro waited
  refine ⟨(), _, rfl, ?_⟩
  rw [outcome]
  by_cases fails : made < behaviour.left event base recipient
  · have result : resultAfter behaviour recipients event base made recipient =
        .error (failureAfter behaviour event base made recipient) :=
      if_pos (decide_eq_true ⟨isWaiting, fails⟩)
    rw [result]
    apply Script.Yields.done
    refine ⟨tried.fail distinct isWaiting ?_ rfl rfl (by omega), rfl⟩
    simp [calls_extend, called?]
  · have result : resultAfter behaviour recipients event base made recipient = .ok () :=
      if_neg fun due => fails (of_decide_eq_true due).2
    simp only [result, Subscription.mark_eq]
    apply Script.Yields.ask
    intro marking
    refine ⟨.ok (), _, rfl, ?_⟩
    apply Script.Yields.done
    refine ⟨tried.succeed distinct isWaiting ?_ ?_ ?_ (by omega), rfl⟩
    · simp [calls_extend, called?]
    · exact (Store.markConsumed_frame _ _).2
    · exact fun marker => Store.mem_markConsumed _

/-- A recipient that is not due is left alone. -/
theorem deliver_yields (tried : Tried behaviour recipients event base log course)
    (member : recipient ∈ recipients) (isType : recipient.eventType = event.typeName)
    (count : recipient ∈ waiting recipients event base →
      log.count recipient.handler = min (behaviour.left event base recipient + 1) made) :
    (recipient.subscription.deliver event).attempt.Yields behaviour.surroundings
      (fun result after =>
        Tried behaviour recipients event base
            (log ++ ([recipient].filter (isDue behaviour recipients event base made)).map
              Recipient.handler) after ∧
          result = resultAfter behaviour recipients event base made recipient) course := by
  have notMarked := tried.not_marked_iff distinct member isType
  rw [Subscription.deliver_eq]
  apply Script.Yields.ask
  intro chance
  refine ⟨.ok (course.state.store.isConsumed (recipient.marker event)), _, rfl, ?_⟩
  cases isConsumed : course.state.store.isConsumed (recipient.marker event) with
  | true =>
      have notDue (made' : Nat) (later : made ≤ made') :
          isDue behaviour recipients event base made' recipient = false := by
        have isMarked := course.state.store.isConsumed_iff.mp isConsumed
        rw [isDue, decide_eq_false_iff_not]
        intro ⟨isWaiting, few⟩
        have counted := count isWaiting
        exact notMarked.mpr ⟨isWaiting, by omega⟩ isMarked
      apply Script.Yields.done
      rw [List.filter_cons_of_neg (by simp [notDue made (Nat.le_refl made)]), List.filter_nil,
        List.map_nil, List.append_nil, resultAfter, notDue (made + 1) (Nat.le_succ made)]
      exact ⟨tried.quiet rfl rfl rfl, rfl⟩
  | false =>
      have isNew : recipient.marker event ∉ course.state.store.markers := by
        simpa [Store.isConsumed] using isConsumed
      obtain ⟨isWaiting, few⟩ := notMarked.mp isNew
      have counted := count isWaiting
      have due : isDue behaviour recipients event base made recipient = true := by
        rw [isDue, decide_eq_true_iff]
        exact ⟨isWaiting, by omega⟩
      rw [List.filter_cons_of_pos due]
      exact call_yields distinct (tried.quiet rfl rfl rfl) isWaiting (by omega) (by omega)

/-- The text that a publication has of the failure of a recipient after so many attempts. -/
def report (behaviour : Behaviour) (event : Event) (base : SharedCourse Unit) (made : Nat)
    (recipient : Recipient) : String :=
  recipient.consumer ++ ": " ++ (failureAfter behaviour event base made recipient).message

omit distinct in
theorem failuresAfter_eq (failures : List String) :
    Bus.failuresAfter recipient.subscription
        (resultAfter behaviour recipients event base made recipient) failures =
      ([recipient].filter (isDue behaviour recipients event base (made + 1))).map
        (report behaviour event base made) ++ failures := by
  rw [resultAfter]
  cases due : isDue behaviour recipients event base (made + 1) recipient with
  | true =>
      rw [List.filter_cons_of_pos due]
      rfl
  | false =>
      rw [List.filter_cons_of_neg (by simp [due])]
      rfl

/-- Those that are due are called one after another. The texts of the failures are from those that
are still due after that. -/
theorem deliverAll_yields {rest : List Recipient}
    (registered : ∀ recipient ∈ rest,
      recipient ∈ recipients ∧ recipient.eventType = event.typeName)
    (nodup : (rest.map Recipient.handler).Nodup)
    (tried : Tried behaviour recipients event base log course)
    (count : ∀ recipient ∈ rest, recipient ∈ waiting recipients event base →
      log.count recipient.handler = min (behaviour.left event base recipient + 1) made) :
    (Bus.deliverAll event (rest.map Recipient.subscription)).Yields behaviour.surroundings
      (fun failures after =>
        Tried behaviour recipients event base
            (log ++ (rest.filter (isDue behaviour recipients event base made)).map
              Recipient.handler) after ∧
          failures = (rest.filter (isDue behaviour recipients event base (made + 1))).map
            (report behaviour event base made)) course := by
  induction rest generalizing course log with
  | nil =>
      apply Script.Yields.done
      simpa using tried
  | cons recipient rest ih =>
      rw [List.forall_mem_cons] at registered count
      rw [List.map_cons, List.nodup_cons] at nodup
      rw [List.map_cons, Bus.deliverAll_cons]
      apply (deliver_yields distinct tried registered.1.1 registered.1.2 count.1).andThen
      rintro _ between ⟨tried, rfl⟩
      have count : ∀ other ∈ rest, other ∈ waiting recipients event base →
          (log ++ ([recipient].filter (isDue behaviour recipients event base made)).map
            Recipient.handler).count other.handler =
              min (behaviour.left event base other + 1) made := by
        intro other member isWaiting
        have notCalled : other.handler ∉ ([recipient].filter
            (isDue behaviour recipients event base made)).map Recipient.handler := by
          intro called
          obtain ⟨same, isSame, sameHandler⟩ := List.mem_map.mp called
          obtain rfl := List.mem_singleton.mp (List.mem_filter.mp isSame).1
          exact nodup.1 (sameHandler ▸ List.mem_map_of_mem member)
        rw [List.count_append, List.count_eq_zero_of_not_mem notCalled, Nat.add_zero]
        exact count.2 other member isWaiting
      apply (ih registered.2 nodup.2 tried count).andThen
      rintro _ final ⟨tried, rfl⟩
      apply Script.Yields.done
      rw [failuresAfter_eq]
      have split (p : Recipient → Bool) :
          (recipient :: rest).filter p = [recipient].filter p ++ rest.filter p :=
        List.filter_append [recipient] rest
      rw [split, split, List.map_append, List.map_append, ← List.append_assoc]
      exact ⟨tried, rfl⟩

end attempt

/-! ## Attempts one after another -/

/-- The handlers that so many attempts call one after another. -/
def attempted (behaviour : Behaviour) (recipients : List Recipient) (event : Event)
    (base : SharedCourse Unit) (count : Nat) : List String :=
  rounds (waiting recipients event base) (behaviour.left event base) count

/-- The texts of the failures of an attempt after so many others, from all recipients that have
not succeeded by then. -/
def reports (behaviour : Behaviour) (recipients : List Recipient) (event : Event)
    (base : SharedCourse Unit) (made : Nat) : List String :=
  ((waiting recipients event base).filter (made + 1 ≤ behaviour.left event base ·)).map
    (report behaviour event base made)

theorem reports_eq_nil_iff {made : Nat} :
    reports behaviour recipients event base made = [] ↔
      ∀ recipient ∈ waiting recipients event base,
        behaviour.left event base recipient < made + 1 := by
  simp [reports]

theorem filter_isDue (made : Nat) :
    (recipients.filter (·.eventType == event.typeName)).filter
        (isDue behaviour recipients event base made) =
      (waiting recipients event base).filter (made ≤ behaviour.left event base ·) := by
  rw [List.filter_filter, waiting, List.filter_filter]
  apply List.filter_congr
  intro recipient member
  rw [Bool.eq_iff_iff]
  simp only [isDue, mem_waiting, member, Store.isConsumed, Bool.and_eq_true, decide_eq_true_eq,
    beq_iff_eq, Bool.not_eq_true', List.contains_eq_mem, decide_eq_false_iff_not]
  tauto

section dispatcher

variable {bus : Bus} (distinct : Distinct recipients)
  (isBus : bus.subscriptions = recipients.map Recipient.subscription) {made : Nat}
include distinct isBus

/-- One more attempt. -/
theorem publish_yields
    (tried : Tried behaviour recipients event base
      (attempted behaviour recipients event base made) course) :
    (bus.publish event).attempt.Yields behaviour.surroundings
      (fun result after =>
        Tried behaviour recipients event base
            (attempted behaviour recipients event base (made + 1)) after ∧
          result = Bus.publication event (reports behaviour recipients event base made))
      course := by
  have subscribers : bus.subscribers event.typeName =
      (recipients.filter (·.eventType == event.typeName)).map Recipient.subscription := by
    rw [Bus.subscribers, isBus, List.filter_map]
    rfl
  have registered : ∀ recipient ∈ recipients.filter (·.eventType == event.typeName),
      recipient ∈ recipients ∧ recipient.eventType = event.typeName := by
    intro recipient member
    simpa using List.mem_filter.mp member
  have nodup : ((recipients.filter (·.eventType == event.typeName)).map Recipient.handler).Nodup :=
    distinct.handlers.sublist (List.filter_sublist.map Recipient.handler)
  have handlers : ((waiting recipients event base).map Recipient.handler).Nodup :=
    distinct.handlers.sublist (List.filter_sublist.map Recipient.handler)
  rw [Bus.publish_eq, subscribers]
  apply (deliverAll_yields distinct registered nodup tried
    fun recipient _ isWaiting => count_rounds handlers isWaiting made).andThen
  rintro _ after ⟨tried, rfl⟩
  apply Script.Yields.done
  rw [filter_isDue] at tried
  rw [filter_isDue, attempted, rounds_succ]
  exact ⟨tried, rfl⟩

/-- An event is published until no recipient is due or no retry is left. -/
theorem retry_yields {step more : Nat}
    (pauses : ∀ n, made < n → n ≤ made + more →
      ∃ duration, Backoff.pause? step n = .ok duration)
    (tried : Tried behaviour recipients event base
      (attempted behaviour recipients event base made) course) :
    (Dispatcher.retry bus step event more made).attempt.Yields behaviour.surroundings
      (fun result after =>
        Tried behaviour recipients event base
            (attempted behaviour recipients event base (made + more + 1)) after ∧
          result = Bus.publication event (reports behaviour recipients event base (made + more)))
      course := by
  induction more generalizing made course with
  | zero => exact publish_yields distinct isBus tried
  | succ more ih =>
      rw [Dispatcher.retry_succ]
      apply (publish_yields distinct isBus tried).andThen
      rintro _ published ⟨tried, rfl⟩
      cases failing : reports behaviour recipients event base made with
      | nil =>
          have succeeded := reports_eq_nil_iff.mp failing
          have silent : reports behaviour recipients event base (made + (more + 1)) = [] :=
            reports_eq_nil_iff.mpr fun recipient member =>
              Nat.lt_of_lt_of_le (succeeded recipient member) (by omega)
          have same : attempted behaviour recipients event base (made + (more + 1) + 1) =
              attempted behaviour recipients event base (made + 1) := by
            rw [attempted, show made + (more + 1) + 1 = made + 1 + (more + 1) by omega]
            exact rounds_of_succeeded succeeded (more + 1)
          apply Script.Yields.done
          rw [silent, same]
          exact ⟨tried, rfl⟩
      | cons text texts =>
          obtain ⟨duration, represented⟩ := pauses (made + 1) (by omega) (by omega)
          have paused : (Dispatcher.pause step (made + 1)).Yields behaviour.surroundings
              (fun _ => Tried behaviour recipients event base
                (attempted behaviour recipients event base (made + 1))) published := by
            rw [Dispatcher.pause, represented]
            apply Script.Yields.ask
            intro chance
            exact ⟨(), _, rfl, .done (tried.quiet rfl rfl rfl)⟩
          apply paused.andThen
          intro _ after tried
          rw [show made + (more + 1) = made + 1 + more by omega]
          exact ih (fun n later within => pauses n (by omega) (by omega)) tried

/-- A message is delivered with as many attempts as it takes. -/
theorem deliver_message_yields {settings : DispatchSettings} {message : Message}
    (decoded : message.decode = .ok event)
    (pauses : ∀ n, 0 < n → n ≤ Backoff.retries settings.maxAttempts →
      ∃ duration, Backoff.pause? settings.retryStep n = .ok duration) :
    (Dispatcher.deliver ⟨settings, bus⟩ message).Yields behaviour.surroundings
      (fun delivery after =>
        Tried behaviour recipients event base (attempted behaviour recipients event base
            (Backoff.retries settings.maxAttempts + 1)) after ∧
          delivery = Dispatcher.delivery (Bus.publication event
            (reports behaviour recipients event base (Backoff.retries settings.maxAttempts))))
      base := by
  rw [Dispatcher.deliver_eq, decoded]
  have start : Tried behaviour recipients event base
      (attempted behaviour recipients event base 0) base := .start
  have fits : ∀ n, 0 < n → n ≤ 0 + Backoff.retries settings.maxAttempts →
      ∃ duration, Backoff.pause? settings.retryStep n = .ok duration :=
    fun n isRetry within => pauses n isRetry (by omega)
  have retried := retry_yields distinct isBus fits start
  rw [Nat.zero_add] at retried
  apply retried.andThen
  rintro _ after ⟨tried, rfl⟩
  exact .done ⟨tried, rfl⟩

end dispatcher

end Retries

end Shortlink
