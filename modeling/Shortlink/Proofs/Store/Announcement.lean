import Shortlink.Proofs.Outbox.Events
import Shortlink.Proofs.Store.Records

/-!
# The outbox announces the rows

The events whose messages stand in the outbox are read back from it, so rows and messages of
one store can be compared without any history. In a store that is announced each message
carries an event, the rows are what the events say of them, and each removed row has an event
that says so. Every operation keeps a store announced and adds events at the end at most.
-/

namespace Shortlink

open Time (Moment)

/-- What the message announces to be created. -/
def Message.creation? (message : Message) : Option LinkCreated :=
  message.decode.toOption.bind Event.creation?

/-- What a message says of its event, whatever has become of its delivery. -/
def Message.told (message : Message) : Uuid × String × String × Moment :=
  (message.id, message.eventType, message.content, message.occurred)

/-- An event refers to a row that is stored: to one with the identity that was created, or to
an inactive one with the id and the code that were removed. -/
def Event.RefersTo (event : Event) (store : Store) : Prop :=
  match event.payload with
  | .created value => ∃ row ∈ store.links, row.identity = value
  | .removed value =>
    ∃ row ∈ store.links, row.id = value.linkId ∧ row.code = value.code ∧ row.isActive = false

namespace Store

/-- The events whose messages stand in the outbox. -/
def events (store : Store) : List Event := store.outbox.filterMap (·.decode.toOption)

/-- Each message carries an event, the rows are what the events say of them, and each inactive
row has been announced to be removed. -/
structure Announced (store : Store) : Prop where
  carried : store.outbox.map Message.requeue = store.events.map Message.ofEvent
  records : store.Records store.events
  gone : ∀ row ∈ store.links, row.isActive = false →
    ∃ event ∈ store.events, event.payload = .removed ⟨row.id, row.code⟩

variable {store before after : Store} {link : Link} {event : Event}

/-! ## Events and messages -/

theorem events_eq (store : Store) :
    store.events = (store.outbox.map Message.requeue).filterMap (·.decode.toOption) := by
  rw [events, List.filterMap_map]
  rfl

theorem events_of_requeued
    (outbox : after.outbox.map Message.requeue = before.outbox.map Message.requeue) :
    after.events = before.events := by
  rw [events_eq, events_eq, outbox]

theorem events_of_append
    (outbox : after.outbox = before.outbox ++ [event].map Message.ofEvent) :
    after.events = before.events ++ [event] := by
  have decoded : (Message.ofEvent event).decode.toOption = some event := by
    rw [Message.decode_ofEvent]
    rfl
  have single : [Message.ofEvent event].filterMap (·.decode.toOption) = [event] := by
    rw [List.filterMap_cons]
    simp only [decoded, List.filterMap_nil]
  rw [events, outbox, List.filterMap_append, List.map_singleton, single, events]

theorem announced_of_empty (links : store.links = []) (outbox : store.outbox = []) :
    store.Announced := by
  have events : store.events = [] := by rw [events, outbox]; rfl
  refine ⟨?_, ?_, ?_⟩
  · rw [events, outbox]
    rfl
  · rw [events]
    exact records_nil links
  · simp [links]

/-! ## What operations do -/

/-- A change of the store keeps it announced and adds events at the end at most. -/
def Proceeds (before after : Store) : Prop :=
  before.Announced → after.Announced ∧ before.events <+: after.events

/-- Neither rows nor what messages say of their events have changed. -/
structure Unaltered (before after : Store) : Prop where
  links : after.links = before.links
  outbox : after.outbox.map Message.requeue = before.outbox.map Message.requeue

theorem Unaltered.proceeds (unaltered : Unaltered before after) : before.Proceeds after := by
  have events := events_of_requeued unaltered.outbox
  intro announced
  refine ⟨⟨?_, ?_, ?_⟩, events ▸ List.prefix_rfl⟩
  · rw [unaltered.outbox, events]
    exact announced.carried
  · rw [events]
    exact announced.records.of_links unaltered.links
  · rw [events, unaltered.links]
    exact announced.gone

/-- A store stays announced with one event more, if this says what has become of the rows. -/
theorem Announced.announce (announced : before.Announced)
    (outbox : after.outbox = before.outbox ++ [event].map Message.ofEvent)
    (records : after.Records (before.events ++ [event]))
    (gone : ∀ row ∈ after.links, row.isActive = false →
      row ∈ before.links ∨ event.payload = .removed ⟨row.id, row.code⟩) :
    after.Announced ∧ before.events <+: after.events := by
  have events := events_of_append outbox
  refine ⟨⟨?_, ?_, ?_⟩, events ▸ List.prefix_append _ _⟩
  · rw [events, outbox, List.map_append, List.map_append, announced.carried]
    rfl
  · rw [events]
    exact records
  · rw [events]
    intro row member isGone
    rcases gone row member isGone with earlier | now
    · obtain ⟨removal, isEvent, isRemoval⟩ := announced.gone row earlier isGone
      exact ⟨removal, List.mem_append_left _ isEvent, isRemoval⟩
    · exact ⟨event, by simp, now⟩

/-- Storing a new URL that announces its creation. -/
theorem proceeds_add {eventId : Uuid} {occurred : Moment} (fronted : link.identity.IsFronted)
    (announces : link.pending = [link.creation eventId occurred]) (now : Moment) :
    store.Proceeds (store.add link now).2 := by
  intro announced
  rcases announced.records.add fronted announces now with
    ⟨links, outbox⟩ | ⟨-, outbox, records⟩
  · exact Unaltered.proceeds ⟨links, by rw [outbox]⟩ announced
  · refine announced.announce outbox records ?_
    intro row member isGone
    rcases mem_links_add store link now member with earlier | rfl
    · exact .inl earlier
    · contradiction

/-- Storing the removal of a URL whose row may have changed since it was read. -/
theorem proceeds_remove (stored : link.identity ∈ store.identities) (unpending : link.pending = [])
    (eventId : Uuid) (occurred now : Moment) :
    store.Proceeds (store.update (link.remove eventId occurred) .deleted now).2 := by
  intro announced
  rcases announced.records.remove stored unpending eventId occurred now rfl with
    ⟨links, outbox⟩ | ⟨outbox, -, records⟩
  · exact Unaltered.proceeds ⟨links, by rw [outbox]⟩ announced
  · refine announced.announce outbox records ?_
    intro row member isGone
    rcases mem_links_update store _ .deleted now member with earlier | rfl
    · exact .inl earlier
    · exact .inr rfl

theorem unaltered_requeue (store : Store) (id : Uuid) :
    Unaltered store (store.requeue id).2 := by
  rcases store.requeue_cases id with ⟨-, absent⟩ | ⟨-, found⟩
  · rw [absent]
    exact ⟨rfl, rfl⟩
  · rw [found]
    exact ⟨rfl, map_replaceFirst fun _ _ _ => rfl⟩

theorem unaltered_saveProcessed (store : Store) (messages : List Message) :
    Unaltered store (store.saveProcessed messages) := by
  refine ⟨rfl, ?_⟩
  change (messages.foldl saveOutcome store.outbox).map Message.requeue = _
  generalize store.outbox = outbox
  induction messages generalizing outbox with
  | nil => rfl
  | cons message rest ih =>
      rw [List.foldl_cons, ih, saveOutcome]
      exact map_replaceFirst fun _ _ _ => rfl

/-! ## What an announced store tells -/

/-- The identities of the rows are what the messages announce to be created, in order. -/
theorem Announced.creations (announced : store.Announced) :
    store.outbox.filterMap Message.creation? = store.identities := by
  rw [← announced.records.created, events, List.filterMap_filterMap]
  rfl

/-- The identities of rows stay when events are added at the end. -/
theorem Announced.identities_prefix (announced : before.Announced) (later : after.Announced)
    (grown : before.events <+: after.events) : before.identities <+: after.identities := by
  rw [← announced.records.created, ← later.records.created]
  exact grown.filterMap _

/-- Each row is announced to be created by exactly one message. -/
theorem Announced.created_once (announced : store.Announced) {row : Link}
    (isRow : row ∈ store.links) :
    (store.outbox.countP fun message => message.creation? == some row.identity) = 1 := by
  have stored : row.identity ∈ store.identities := List.mem_map_of_mem isRow
  have distinct : store.identities.Nodup := announced.records.sound.ids.of_map
  rw [← List.count_filterMap, announced.creations]
  exact List.count_eq_one_of_mem distinct stored

/-- A URL with this code has been announced to be removed. -/
def AnnouncesRemoval (store : Store) (code : String) : Prop :=
  ∃ event ∈ store.events, ∃ id, event.payload = .removed ⟨id, code⟩

theorem AnnouncesRemoval.mono {code : String} (announces : before.AnnouncesRemoval code)
    (grown : before.events <+: after.events) : after.AnnouncesRemoval code := by
  obtain ⟨event, isEvent, isRemoval⟩ := announces
  exact ⟨event, grown.subset isEvent, isRemoval⟩

/-- A code is not found any more once it is announced to be removed. -/
theorem Announced.findByCode_eq_none (announced : store.Announced) {code : String}
    (announces : store.AnnouncesRemoval code) : store.findByCode code = none := by
  obtain ⟨event, isEvent, id, isRemoval⟩ := announces
  obtain ⟨gone, isGone, -, sameCode, isInactive⟩ :=
    announced.records.removed event isEvent _ isRemoval
  cases found : store.findByCode code with
  | none => rfl
  | some row =>
      obtain ⟨isRow, isCode, isActive⟩ := findByCode_eq_some found
      have same := announced.records.sound.eq_of_code isRow isGone (isCode.trans sameCode.symm)
      rw [same, isInactive] at isActive
      contradiction

theorem exists_message (isEvent : event ∈ store.events) :
    ∃ message ∈ store.outbox, message.decode = .ok event := by
  obtain ⟨message, member, decoded⟩ := List.mem_filterMap.mp isEvent
  refine ⟨message, member, ?_⟩
  cases result : message.decode with
  | error error =>
      rw [result] at decoded
      contradiction
  | ok value =>
      rw [result] at decoded
      cases decoded
      rfl

/-- Each message decodes to an event with its id that refers to a stored row. -/
theorem Announced.exists_event (announced : store.Announced) {message : Message}
    (member : message ∈ store.outbox) :
    ∃ event, message.decode = .ok event ∧ event.id = message.id ∧ event.RefersTo store := by
  have image : message.requeue ∈ store.outbox.map Message.requeue := List.mem_map_of_mem member
  rw [announced.carried] at image
  obtain ⟨event, isEvent, same⟩ := List.mem_map.mp image
  have carries : message.Carries event := same.symm
  refine ⟨event, carries.decode, carries.id.symm, ?_⟩
  cases kind : event.payload with
  | created value =>
      rw [Event.RefersTo, kind]
      exact List.mem_map.mp (announced.records.mem_identities isEvent kind)
  | removed value =>
      rw [Event.RefersTo, kind]
      exact announced.records.removed event isEvent value kind

/-- What messages say stays where it is when events are added at the end. -/
theorem Announced.told_prefix (announced : before.Announced) (later : after.Announced)
    (grown : before.events <+: after.events) :
    before.outbox.map Message.told <+: after.outbox.map Message.told := by
  have told {store : Store} (announced : store.Announced) :
      store.outbox.map Message.told = store.events.map (Message.told ∘ Message.ofEvent) := by
    rw [← List.map_map, ← announced.carried, List.map_map]
    rfl
  rw [told announced, told later]
  exact grown.map _

/-- The ids of messages stay where they are when events are added at the end. -/
theorem Announced.ids_prefix (announced : before.Announced) (later : after.Announced)
    (grown : before.events <+: after.events) :
    before.outbox.map Message.id <+: after.outbox.map Message.id := by
  have ids (store : Store) :
      (store.outbox.map Message.told).map Prod.fst = store.outbox.map Message.id :=
    List.map_map
  rw [← ids, ← ids]
  exact (announced.told_prefix later grown).map Prod.fst

end Store

end Shortlink
