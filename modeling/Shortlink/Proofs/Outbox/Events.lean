import Shortlink.Outbox.Invalidation
import Shortlink.Proofs.Link.Event
import Shortlink.Proofs.Store.Tables

/-!
# The events of the outbox

What a message says of its event never changes, so the outbox stands for a list of events
whatever becomes of their delivery. An event is settled when its consumer has marked it and
the mark can be meant for no other event: markers know events by their ids, and the outbox
looks up messages by their ids, so of several events with one id only the first can be.
-/

namespace Shortlink

/-- The message is that of the event, whatever has become of its delivery. -/
def Message.Carries (message : Message) (event : Event) : Prop :=
  message.requeue = .ofEvent event

/-- The mark of the consumer that keeps the cache in step with the event. -/
def Event.marker (event : Event) : Marker :=
  ⟨event.id, match event.payload with
    | .created _ => Invalidation.createdConsumer
    | .removed _ => Invalidation.removedConsumer⟩

namespace Message

variable {message : Message} {event other : Event}

theorem Carries.id (carries : message.Carries event) : message.id = event.id :=
  congrArg Message.id carries

theorem Carries.decode (carries : message.Carries event) : message.decode = .ok event := by
  have same : message.decode = message.requeue.decode := rfl
  rw [same, carries, decode_ofEvent]

theorem Carries.unique (carries : message.Carries event) (also : message.Carries other) :
    event = other := by
  have decoded := carries.decode
  rw [also.decode] at decoded
  exact (Except.ok.inj decoded).symm

end Message

namespace Outbox

variable {events : List Event} {markers : List Marker} {outbox : List Message} {event : Event}

/-- An event is the first with its id, and its consumer has marked it. -/
structure Settled (events : List Event) (markers : List Marker) (event : Event) : Prop where
  isFirst : events.find? (·.id == event.id) = some event
  isMarked : event.marker ∈ markers

theorem Settled.mem (settled : Settled events markers event) : event ∈ events :=
  List.mem_of_find?_eq_some settled.isFirst

theorem Settled.mono {more : List Marker} (settled : Settled events markers event)
    (grown : ∀ marker ∈ markers, marker ∈ more) : Settled events more event :=
  ⟨settled.isFirst, grown _ settled.isMarked⟩

theorem Settled.append (settled : Settled events markers event) (more : List Event) :
    Settled (events ++ more) markers event := by
  refine ⟨?_, settled.isMarked⟩
  rw [List.find?_append, settled.isFirst]
  rfl

/-- A new event is not settled, and with it no other event becomes so. -/
theorem Settled.of_append {new : Event} (settled : Settled (events ++ [new]) markers event)
    (marked : ∀ marker ∈ markers, ∃ event ∈ events, event.id = marker.eventId) :
    Settled events markers event := by
  refine ⟨?_, settled.isMarked⟩
  obtain ⟨first, member, sameId⟩ := marked _ settled.isMarked
  have isFirst := settled.isFirst
  rw [List.find?_append] at isFirst
  cases found : events.find? (·.id == event.id) with
  | some old =>
      rw [found] at isFirst
      exact isFirst
  | none =>
      have absent := List.find?_eq_none.mp found first member
      exact absurd (beq_iff_eq.mpr sameId) absent

/-- The outbox carries these events, and those whose messages are processed are settled. -/
structure Tracks (events : List Event) (markers : List Marker) (outbox : List Message) :
    Prop where
  carried : outbox.map Message.requeue = events.map Message.ofEvent
  processed : ∀ message ∈ outbox, message.isProcessed = true → ∀ event, message.Carries event →
    Settled events markers event

theorem Tracks.exists_event (tracks : Tracks events markers outbox) {message : Message}
    (member : message ∈ outbox) : ∃ event ∈ events, message.Carries event := by
  have image : message.requeue ∈ outbox.map Message.requeue := List.mem_map_of_mem member
  rw [tracks.carried] at image
  obtain ⟨event, isEvent, same⟩ := List.mem_map.mp image
  exact ⟨event, isEvent, same.symm⟩

/-- The first message with an id is that of the first event with the id. -/
theorem find?_carried (carried : outbox.map Message.requeue = events.map Message.ofEvent)
    (id : Uuid) :
    (outbox.find? (·.id == id)).map Message.requeue =
      (events.find? (·.id == id)).map Message.ofEvent := by
  have inOutbox : (outbox.map Message.requeue).find? (·.id == id) =
      (outbox.find? (·.id == id)).map Message.requeue := List.find?_map
  have inEvents : (events.map Message.ofEvent).find? (·.id == id) =
      (events.find? (·.id == id)).map Message.ofEvent := List.find?_map
  rw [← inOutbox, ← inEvents, carried]

theorem exists_first_message (carried : outbox.map Message.requeue = events.map Message.ofEvent)
    {id : Uuid} {first : Event} (found : events.find? (·.id == id) = some first) :
    ∃ message, outbox.find? (·.id == id) = some message ∧ message.Carries first := by
  have same := find?_carried carried id
  rw [found] at same
  exact Option.map_eq_some_iff.mp same

theorem exists_first_event (carried : outbox.map Message.requeue = events.map Message.ofEvent)
    {id : Uuid} {message : Message} (found : outbox.find? (·.id == id) = some message) :
    ∃ event, events.find? (·.id == id) = some event ∧ message.Carries event := by
  have same := find?_carried carried id
  rw [found] at same
  obtain ⟨event, isEvent, carries⟩ := Option.map_eq_some_iff.mp same.symm
  exact ⟨event, isEvent, carries.symm⟩

theorem Tracks.mono {more : List Marker} (tracks : Tracks events markers outbox)
    (grown : ∀ marker ∈ markers, marker ∈ more) : Tracks events more outbox := by
  refine ⟨tracks.carried, ?_⟩
  intro message member isProcessed event carries
  exact (tracks.processed message member isProcessed event carries).mono grown

theorem Tracks.append (tracks : Tracks events markers outbox) (new : List Event) :
    Tracks (events ++ new) markers (outbox ++ new.map Message.ofEvent) := by
  constructor
  · rw [List.map_append, List.map_append, tracks.carried, List.map_map]
    rfl
  · intro message member isProcessed event carries
    rcases List.mem_append.mp member with earlier | isNew
    · exact (tracks.processed message earlier isProcessed event carries).append new
    · obtain ⟨event, -, rfl⟩ := List.mem_map.mp isNew
      contradiction

/-- A change of how far the first message with an id has got keeps track, provided that it is
processed afterwards only if its event is marked. -/
theorem Tracks.replaceFirst (tracks : Tracks events markers outbox) {id : Uuid}
    {change : Message → Message} (same : ∀ message, (change message).requeue = message.requeue)
    (settles : ∀ message, (change message).isProcessed = true → ∀ event,
      events.find? (·.id == id) = some event → event.marker ∈ markers) :
    Tracks events markers (Store.replaceFirst (·.id == id) change outbox) := by
  constructor
  · rw [Store.map_replaceFirst (fun message _ _ => same message)]
    exact tracks.carried
  · intro message member isProcessed event carries
    rcases Store.mem_replaceFirst member with earlier | ⟨old, isFirst, rfl⟩
    · exact tracks.processed message earlier isProcessed event carries
    · obtain ⟨first, found, alsoCarries⟩ := exists_first_event tracks.carried isFirst
      have carries : old.Carries event := (same old).symm.trans carries
      have isEvent := carries.unique alsoCarries
      subst isEvent
      have sameId : event.id = id := by
        simpa using List.find?_some found
      refine ⟨?_, settles old isProcessed event found⟩
      rw [sameId]
      exact found

theorem Tracks.requeue (tracks : Tracks events markers outbox) (id : Uuid) :
    Tracks events markers (Store.replaceFirst (·.id == id) Message.requeue outbox) := by
  apply tracks.replaceFirst
  · exact fun message => rfl
  · exact fun message isProcessed => nomatch isProcessed

/-- Storing outcomes keeps track, provided that for each of them the first event with its id
is marked. -/
theorem Tracks.saveOutcomes (tracks : Tracks events markers outbox) {messages : List Message}
    (settles : ∀ message ∈ messages, ∀ event, events.find? (·.id == message.id) = some event →
      event.marker ∈ markers) :
    Tracks events markers (messages.foldl Store.saveOutcome outbox) := by
  induction messages generalizing outbox with
  | nil => exact tracks
  | cons message rest ih =>
      rw [List.forall_mem_cons] at settles
      apply ih
      · apply tracks.replaceFirst
        · exact fun row => rfl
        · exact fun row _ => settles.1
      · exact settles.2

/-! ## The order of delivery -/

/-- Each of these messages comes after the first message with its id has been dealt with. -/
def InOrder (events : List Event) : (Event → Prop) → List Message → Prop
  | _, [] => True
  | dealt, message :: rest =>
    (∀ first, events.find? (·.id == message.id) = some first →
      message.Carries first ∨ dealt first) ∧
      InOrder events (fun event => dealt event ∨ message.Carries event) rest

theorem InOrder.mono {dealt more : Event → Prop} {messages : List Message}
    (inOrder : InOrder events dealt messages) (grown : ∀ event, dealt event → more event) :
    InOrder events more messages := by
  induction messages generalizing dealt more with
  | nil => exact True.intro
  | cons message rest ih =>
      constructor
      · intro first found
        exact (inOrder.1 first found).imp_right (grown first)
      · apply ih inOrder.2
        intro event isDealt
        exact isDealt.imp_left (grown event)

/-- New events are not the first ones with the ids of messages that carry older events. -/
theorem InOrder.append {dealt : Event → Prop} {messages : List Message}
    (inOrder : InOrder events dealt messages)
    (carried : ∀ message ∈ messages, ∃ event ∈ events, message.Carries event)
    (more : List Event) : InOrder (events ++ more) dealt messages := by
  induction messages generalizing dealt with
  | nil => exact True.intro
  | cons message rest ih =>
      rw [List.forall_mem_cons] at carried
      obtain ⟨event, isEvent, carries⟩ := carried.1
      refine ⟨?_, ih inOrder.2 carried.2⟩
      intro first found
      rw [List.find?_append] at found
      cases isFirst : events.find? (·.id == message.id) with
      | some earlier =>
          rw [isFirst] at found
          cases found
          exact inOrder.1 first isFirst
      | none =>
          have absent := List.find?_eq_none.mp isFirst event isEvent
          exact absurd (beq_iff_eq.mpr carries.id.symm) absent

/-- The messages that wait are in order behind any that have been dealt with. -/
theorem inOrder_waiting {dealt : Event → Prop} {front rest : List Message}
    (carried : (front ++ rest).map Message.requeue = events.map Message.ofEvent)
    (before : ∀ message ∈ front, ∀ event, message.Carries event → dealt event)
    (processed : ∀ message ∈ rest, message.isProcessed = true → ∀ event, message.Carries event →
      dealt event) (limit : Nat) :
    InOrder events dealt ((rest.filter fun message => !message.isProcessed).take limit) := by
  induction rest generalizing front dealt limit with
  | nil => simp [InOrder]
  | cons message rest ih =>
      rw [List.forall_mem_cons] at processed
      have carriedBehind : (front ++ [message] ++ rest).map Message.requeue =
          events.map Message.ofEvent := by
        rw [List.append_assoc]
        exact carried
      cases isProcessed : message.isProcessed with
      | true =>
          rw [List.filter_cons_of_neg (by simp [isProcessed])]
          apply ih carriedBehind _ processed.2
          intro other member
          rcases List.mem_append.mp member with inFront | isLast
          · exact before other inFront
          · rw [List.mem_singleton.mp isLast]
            exact processed.1 isProcessed
      | false =>
          rw [List.filter_cons_of_pos (by simp [isProcessed])]
          cases limit with
          | zero => exact True.intro
          | succ limit =>
              constructor
              · intro first found
                obtain ⟨old, isFirst, carries⟩ := exists_first_message carried found
                rw [List.find?_append] at isFirst
                cases inFront : front.find? (·.id == message.id) with
                | some earlier =>
                    rw [inFront] at isFirst
                    cases isFirst
                    exact .inr (before old (List.mem_of_find?_eq_some inFront) first carries)
                | none =>
                    rw [inFront, List.find?_cons_of_pos (by simp)] at isFirst
                    cases isFirst
                    exact .inl carries
              · apply ih carriedBehind
                · intro other member event carries
                  rcases List.mem_append.mp member with inFront | isLast
                  · exact .inl (before other inFront event carries)
                  · rw [List.mem_singleton.mp isLast] at carries
                    exact .inr carries
                · intro other member isProcessed event carries
                  exact .inl (processed.2 other member isProcessed event carries)

theorem Tracks.inOrder_fetch {store : Store} (tracks : Tracks events store.markers store.outbox)
    (limit : Int) :
    InOrder events (fun event => event.marker ∈ store.markers) (store.fetch limit) := by
  apply inOrder_waiting (show ([] ++ store.outbox).map Message.requeue = _ from tracks.carried)
  · simp
  · intro message member isProcessed event carries
    exact (tracks.processed message member isProcessed event carries).isMarked

end Outbox

end Shortlink
