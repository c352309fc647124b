import Shortlink.Proofs.Store.Tables

/-!
# Saves are all or nothing

A save touches two tables and the aggregate in the caller's hands. Either all three change
together, or none of them does, whatever made the save fail.
-/

namespace Shortlink

open Time (Moment)

/-- A message announces an event that nobody has been told of yet. -/
structure Message.Announces (message : Message) (event : Event) : Prop where
  id : message.id = event.id
  eventType : message.eventType = event.typeName
  content : message.content = event.toJson.compact
  occurred : message.occurred = event.occurred
  processed : message.processed = none
  error : message.error = none

namespace Store

/-- A save that did not happen: tables, lease and aggregate are what they were. -/
structure Untouched (before after : Store) (link : Link) (outcome : SaveOutcome) : Prop where
  links : after.links = before.links
  outbox : after.outbox = before.outbox
  markers : after.markers = before.markers
  isLeased : after.isLeased = before.isLeased
  link : outcome.link = link

/-- A save that happened. The table of URLs has a new row, at the place that `placed`
describes; the outbox has one more message for each pending event, in their order; the
aggregate has moved on to what was stored; and nothing else has changed. -/
structure Saved (before after : Store) (link : Link) (change : Change) (now : Moment)
    (outcome : SaveOutcome) (placed : Link → Prop) : Prop where
  row : ∃ row, placed row ∧ row.id = link.id ∧ row.longUrl = link.longUrl ∧
    row.code = link.code ∧ row.shortUrl = link.shortUrl ∧
    row.audit = link.audit.apply change now ∧ row.pending = [] ∧ outcome.link = row
  outbox : ∃ messages, after.outbox = before.outbox ++ messages ∧
    List.Forall₂ Message.Announces messages link.pending
  markers : after.markers = before.markers
  failingSaves : after.failingSaves = before.failingSaves
  isLeased : after.isLeased = before.isLeased

/-- The row is the only change to a table of URLs: it is new at its end. -/
def Appended (before after : List Link) (row : Link) : Prop := after = before ++ [row]

/-- The row is the only change to a table of URLs: it stands in the place of the one that had
its id. -/
def Replaced (before after : List Link) (row : Link) : Prop :=
  ∃ front old back, before = front ++ old :: back ∧ old.id = row.id ∧
    (∀ other ∈ front ++ back, other.id ≠ row.id) ∧ after = front ++ row :: back

/-- A save is all or nothing: it happens exactly if `accepted` holds, and otherwise leaves
everything as it was. -/
def AllOrNothing (before : Store) (link : Link) (change : Change) (now : Moment)
    (accepted : Prop) (placed : List Link → List Link → Link → Prop)
    (saved : SaveOutcome × Store) : Prop :=
  (saved.1.result = .ok () ↔ accepted) ∧
    match saved.1.result with
    | .error _ => Untouched before saved.2 link saved.1
    | .ok _ => Saved before saved.2 link change now saved.1 (placed before.links saved.2.links)

theorem announces_captureEvents (link : Link) :
    List.Forall₂ Message.Announces link.captureEvents link.pending := by
  rw [Link.captureEvents, List.forall₂_map_left_iff]
  exact List.forall₂_same.mpr fun event _ => ⟨rfl, rfl, rfl, rfl, rfl, rfl⟩

/-- A failed save uses up a staged failure at most. -/
theorem untouched_of_failed (store : Store) (link : Link) (failure : Failure) (count : Nat) :
    Untouched store { store with failingSaves := count } link ⟨.error failure, link⟩ :=
  ⟨rfl, rfl, rfl, rfl, rfl⟩

/-- A save that wrote its row has brought about all that belongs to it. -/
theorem saved_of_written (store : Store) (link : Link) (change : Change) (now : Moment)
    {links : List Link} {placed : Link → Prop}
    (inPlace : placed (writtenRow link change now)) :
    Saved store { store with links := links, outbox := store.outbox ++ link.captureEvents }
      link change now ⟨.ok (), writtenRow link change now⟩ placed where
  row := ⟨writtenRow link change now, inPlace, rfl, rfl, rfl, rfl, rfl, rfl, rfl⟩
  outbox := ⟨link.captureEvents, rfl, announces_captureEvents link⟩
  markers := rfl
  failingSaves := rfl
  isLeased := rfl

/-- Where ids are distinct, replacing the first row with an id replaces the only one. -/
theorem replaced_of_distinct {links : List Link} (distinct : (links.map Link.id).Nodup)
    (row : Link) (stored : ∃ old ∈ links, old.id = row.id) :
    Replaced links (replaceFirst (·.id == row.id) (fun _ => row) links) row := by
  have present : ∃ old ∈ links, (old.id == row.id) = true := by simpa using stored
  obtain ⟨front, old, back, rfl, isOld, before, replaced⟩ :=
    exists_replaceFirst_eq (fun _ => row) present
  have sameId : old.id = row.id := by simpa using isOld
  refine ⟨front, old, back, rfl, sameId, ?_, replaced⟩
  intro other member
  rcases List.mem_append.mp member with inFront | inBack
  · simpa using before other inFront
  · rw [List.map_append, List.map_cons] at distinct
    have behind := (List.nodup_cons.mp (List.nodup_append.mp distinct).2.1).1
    intro sameAsRow
    apply behind
    rw [sameId, ← sameAsRow]
    exact List.mem_map_of_mem inBack

theorem add_allOrNothing (store : Store) (link : Link) (now : Moment) :
    AllOrNothing store link .added now (store.failingSaves = 0 ∧ store.IsFree link) Appended
      (store.add link now) := by
  rcases add_cases store link now with ⟨refused, failure, failed⟩ | ⟨unstaged, free, written⟩
  · rw [failed]
    exact ⟨by simpa using refused, untouched_of_failed store link failure _⟩
  · rw [written]
    exact ⟨by simp [unstaged, free], saved_of_written store link .added now rfl⟩

theorem update_allOrNothing (store : Store) (distinct : (store.links.map Link.id).Nodup)
    (link : Link) (change : Change) (now : Moment) :
    AllOrNothing store link change now
      (store.failingSaves = 0 ∧ ∃ row ∈ store.links, row.id = link.id) Replaced
      (store.update link change now) := by
  rcases update_cases store link change now with
    ⟨refused, failure, failed⟩ | ⟨unstaged, stored, written⟩
  · rw [failed]
    exact ⟨by simpa using refused, untouched_of_failed store link failure _⟩
  · rw [written]
    refine ⟨by simp [unstaged, stored], saved_of_written store link change now ?_⟩
    exact replaced_of_distinct distinct (writtenRow link change now) stored

/-- Every save is all or nothing, in the store and in the aggregate. A new URL is stored
exactly if no failure is staged and its code and id are free, and a new state exactly if no
failure is staged and there is a row with the id. -/
theorem save_all_or_nothing (store : Store) (distinct : (store.links.map Link.id).Nodup)
    (link : Link) (change : Change) (now : Moment) :
    AllOrNothing store link .added now (store.failingSaves = 0 ∧ store.IsFree link) Appended
        (store.add link now) ∧
      AllOrNothing store link change now
        (store.failingSaves = 0 ∧ ∃ row ∈ store.links, row.id = link.id) Replaced
        (store.update link change now) :=
  ⟨add_allOrNothing store link now, update_allOrNothing store distinct link change now⟩

/-- The removal of the second of two URLs, which is saved. -/
theorem save_all_or_nothing_of_two_rows :
    let now : Moment := ⟨⟨2026, 1, 2, by decide, by decide, by decide⟩, 3, 4, 5, 6,
      by decide, by decide, by decide, by decide⟩
    let first := Link.restore ⟨1⟩ "https://example.com" "a" "https://short.ly/a" (.begun now)
    let second := Link.restore ⟨2⟩ "https://example.org" "b" "https://short.ly/b" (.begun now)
    let store : Store := { links := [first, second] }
    let removed := second.remove ⟨3⟩ now
    (store.links.map Link.id).Nodup ∧
      (store.update removed .deleted now).1.result = .ok () ∧
      AllOrNothing store removed .added now (store.failingSaves = 0 ∧ store.IsFree removed)
        Appended (store.add removed now) ∧
      AllOrNothing store removed .deleted now
        (store.failingSaves = 0 ∧ ∃ row ∈ store.links, row.id = removed.id) Replaced
        (store.update removed .deleted now) := by
  intro now first second store removed
  have distinct : (store.links.map Link.id).Nodup := by decide
  exact ⟨distinct, rfl, save_all_or_nothing store distinct removed .deleted now⟩

end Store

end Shortlink
