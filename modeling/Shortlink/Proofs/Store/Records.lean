import Shortlink.Proofs.Store.Identity

/-!
# Rows and events

The store of a service that starts empty can be told from the events that have been raised
over it: its rows are those whose creations were announced, in order, and a row whose removal
was announced is inactive.
-/

namespace Shortlink

open Time (Moment)

/-- What the event announces to be created. -/
def Event.creation? (event : Event) : Option LinkCreated :=
  match event.payload with
  | .created value => some value
  | .removed _ => none

theorem Event.creation?_of_created {event : Event} {value : LinkCreated}
    (isCreated : event.payload = .created value) : event.creation? = some value := by
  rw [creation?, isCreated]

/-- The event that a URL is removed. -/
def Link.removal (link : Link) (eventId : Uuid) (occurred : Moment) : Event :=
  ⟨eventId, occurred, .removed ⟨link.id, link.code⟩⟩

/-- The event that a URL was created. -/
def Link.creation (link : Link) (eventId : Uuid) (occurred : Moment) : Event :=
  ⟨eventId, occurred, .created link.identity⟩

namespace Store

/-- The rows are what the events say of them. -/
structure Records (store : Store) (events : List Event) : Prop where
  sound : store.Sound
  unpending : ∀ row ∈ store.links, row.pending = []
  created : events.filterMap Event.creation? = store.identities
  removed : ∀ event ∈ events, ∀ value, event.payload = .removed value →
    ∃ row ∈ store.links, row.id = value.linkId ∧ row.code = value.code ∧ row.isActive = false

variable {store other : Store} {events : List Event} {link : Link}

theorem records_nil {store : Store} (empty : store.links = []) : store.Records [] := by
  refine ⟨sound_of_empty empty, ?_, ?_, ?_⟩
  · simp [empty]
  · simp [identities, empty]
  · simp

theorem Records.of_links (records : store.Records events) (same : other.links = store.links) :
    other.Records events := by
  refine ⟨records.sound.of_links same, ?_, ?_, ?_⟩
  · rw [same]
    exact records.unpending
  · rw [records.created, identities, identities, same]
  · rw [same]
    exact records.removed

theorem Records.mem_identities (records : store.Records events) {event : Event}
    (member : event ∈ events) {value : LinkCreated} (isCreated : event.payload = .created value) :
    value ∈ store.identities := by
  rw [← records.created, List.mem_filterMap]
  exact ⟨event, member, Event.creation?_of_created isCreated⟩

/-- All that storing a new URL does to rows and messages, if it announces its creation: it is
announced and stored, or nothing happens. -/
theorem Records.add (records : store.Records events) {eventId : Uuid} {occurred : Moment}
    (fronted : link.identity.IsFronted)
    (announces : link.pending = [link.creation eventId occurred])
    (now : Moment) :
    ((store.add link now).2.links = store.links ∧ (store.add link now).2.outbox = store.outbox) ∨
    (store.IsFree link ∧
      (store.add link now).2.outbox =
        store.outbox ++ [link.creation eventId occurred].map Message.ofEvent ∧
      (store.add link now).2.Records (events ++ [link.creation eventId occurred])) := by
  have grows := (grows_add fronted now records.sound).1
  rcases add_cases store link now with ⟨-, failure, failed⟩ | ⟨-, free, written⟩
  · left
    rw [failed]
    exact ⟨rfl, rfl⟩
  · right
    have identities : (store.add link now).2.identities = store.identities ++ [link.identity] :=
      (identities_add_of_ok (by rw [written])).2
    refine ⟨free, ?_, grows, ?_, ?_, ?_⟩
    · rw [written, ← announces]
      rfl
    · rw [written]
      intro row member
      rcases List.mem_append.mp member with earlier | new
      · exact records.unpending row earlier
      · rw [List.mem_singleton.mp new]
        rfl
    · rw [identities, List.filterMap_append, records.created]
      rfl
    · intro event member value isRemoved
      rcases List.mem_append.mp member with earlier | new
      · obtain ⟨row, isRow, isGone⟩ := records.removed event earlier value isRemoved
        rw [written]
        exact ⟨row, List.mem_append_left _ isRow, isGone⟩
      · rw [List.mem_singleton.mp new] at isRemoved
        contradiction

/-- A new URL has not been announced before. -/
theorem Records.not_mem_creation (records : store.Records events) (free : store.IsFree link)
    (eventId : Uuid) (occurred : Moment) : link.creation eventId occurred ∉ events := by
  intro member
  have stored : link.identity ∈ store.identities := records.mem_identities member rfl
  obtain ⟨row, isRow, same⟩ := List.mem_map.mp stored
  exact (free row isRow).2 (congrArg LinkCreated.linkId same)

/-- An active row has not been announced to be removed. -/
theorem Records.not_mem_removal (records : store.Records events) (isRow : link ∈ store.links)
    (isActive : link.isActive = true) (eventId : Uuid) (occurred : Moment) :
    link.removal eventId occurred ∉ events := by
  intro member
  obtain ⟨row, isStored, sameId, -, isGone⟩ := records.removed _ member _ rfl
  have same : row = link := records.sound.eq_of_id isStored isRow sameId
  rw [same, isActive] at isGone
  contradiction

/-- A row that takes the place of one with its id is there afterwards. -/
theorem row_mem_replaceFirst {row : Link} (stored : ∃ old ∈ store.links, old.id = row.id) :
    row ∈ replaceFirst (·.id == row.id) (fun _ => row) store.links := by
  have present : ∃ old ∈ store.links, (old.id == row.id) = true := by simpa using stored
  obtain ⟨front, old, back, -, -, -, replaced⟩ := exists_replaceFirst_eq (fun _ => row) present
  rw [replaced]
  simp

/-- When an inactive row takes the place of one with its id and code, each row has one with its
id and code after it, and none becomes active. -/
theorem Sound.row_stays (sound : store.Sound) {row : Link}
    (stored : ∃ old ∈ store.links, old.id = row.id ∧ old.code = row.code)
    (inactive : row.isActive = false) {old : Link} (isOld : old ∈ store.links) :
    ∃ new ∈ replaceFirst (·.id == row.id) (fun _ => row) store.links,
      new.id = old.id ∧ new.code = old.code ∧ (old.isActive = false → new.isActive = false) := by
  obtain ⟨replaced, isStored, sameId, sameCode⟩ := stored
  by_cases isReplaced : old.id = row.id
  · have same : old = replaced := sound.eq_of_id isOld isStored (isReplaced.trans sameId.symm)
    rw [same]
    refine ⟨row, row_mem_replaceFirst ⟨replaced, isStored, sameId⟩, sameId.symm, sameCode.symm, ?_⟩
    exact fun _ => inactive
  · refine ⟨old, ?_, rfl, rfl, id⟩
    exact mem_replaceFirst_of_not isOld (by simpa using isReplaced)

/-- All that storing a removal does to rows and messages, also where the row has changed since
it was read: the removal is announced and the row becomes inactive, or nothing happens. -/
theorem Records.remove (records : store.Records events) (stored : link.identity ∈ store.identities)
    (unpending : link.pending = []) (eventId : Uuid) (occurred now : Moment) {after : Store}
    (isAfter : (store.update (link.remove eventId occurred) .deleted now).2 = after) :
    (after.links = store.links ∧ after.outbox = store.outbox) ∨
    (after.outbox = store.outbox ++ [link.removal eventId occurred].map Message.ofEvent ∧
      after.identities = store.identities ∧
      after.Records (events ++ [link.removal eventId occurred])) := by
  have identities : after.identities = store.identities := by
    have sameIdentity : (link.remove eventId occurred).identity ∈ store.identities := stored
    rw [← isAfter]
    exact identities_update records.sound sameIdentity .deleted now
  rcases update_cases store (link.remove eventId occurred) .deleted now with
    ⟨-, failure, failed⟩ | ⟨-, -, written⟩
  · left
    rw [← isAfter, failed]
    exact ⟨rfl, rfl⟩
  · right
    let row := writtenRow (link.remove eventId occurred) .deleted now
    have links : after.links = replaceFirst (·.id == row.id) (fun _ => row) store.links := by
      rw [← isAfter, written]
      rfl
    have announced : (link.remove eventId occurred).pending = [link.removal eventId occurred] := by
      rw [Link.remove, unpending]
      rfl
    obtain ⟨current, isCurrent, sameIdentity⟩ := List.mem_map.mp stored
    have currentId : current.id = row.id := congrArg LinkCreated.linkId sameIdentity
    have currentCode : current.code = row.code := congrArg LinkCreated.code sameIdentity
    refine ⟨?_, identities, records.sound.of_identities identities, ?_, ?_, ?_⟩
    · rw [← isAfter, written, ← announced]
      rfl
    · intro other member
      rw [links] at member
      rcases mem_replaceFirst member with earlier | ⟨old, -, rfl⟩
      · exact records.unpending other earlier
      · rfl
    · rw [identities, List.filterMap_append, records.created]
      exact List.append_nil _
    · intro event member value isRemoved
      rw [links]
      rcases List.mem_append.mp member with earlier | new
      · obtain ⟨old, isOld, sameId, sameCode, isGone⟩ :=
          records.removed event earlier value isRemoved
        obtain ⟨new, isNew, newId, newCode, staysGone⟩ :=
          records.sound.row_stays ⟨current, isCurrent, currentId, currentCode⟩ rfl isOld
        exact ⟨new, isNew, newId.trans sameId, newCode.trans sameCode, staysGone isGone⟩
      · rw [List.mem_singleton.mp new] at isRemoved
        cases isRemoved
        exact ⟨row, row_mem_replaceFirst ⟨current, isCurrent, currentId⟩, rfl, rfl, rfl⟩

end Store

end Shortlink
